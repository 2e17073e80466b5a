import HostingClient.Time.Timestamp

/-! # Databases

The databases of a space and the commands of the key/value engine. A command is a number in the address. -/

namespace HostingClient

/-- A database. -/
structure SpaceDatabase where
  name : String
  createdAt : Time.Instant
deriving DecidableEq, Repr, Inhabited

/-- The fields of a database. -/
def SpaceDatabase.record : Record SpaceDatabase where
  fields :=
    .cons (.required "name" .text) <| .cons (.required "created_at" .timestamp) .nil
  build := fun (name, createdAt, ()) => { name, createdAt }
  parts x := (x.name, x.createdAt, ())

/-- A collection of a database. -/
structure SpaceDatabaseCollection where
  database : String
  name : String
  createdAt : Time.Instant
  engine : String
deriving DecidableEq, Repr, Inhabited

/-- The fields of a collection. -/
def SpaceDatabaseCollection.record : Record SpaceDatabaseCollection where
  fields :=
    .cons (.required "database" .text) <| .cons (.required "name" .text) <|
    .cons (.required "created_at" .timestamp) <| .cons (.required "engine" .text) .nil
  build := fun (database, name, createdAt, engine, ()) => { database, name, createdAt, engine }
  parts x := (x.database, x.name, x.createdAt, x.engine, ())

/-- An entry of a collection. -/
structure KvValue where
  key : String
  value : Json
  kind : String
  ttl : Option Nat
deriving Repr, Inhabited

/-- The fields of an entry. -/
def KvValue.record : Record KvValue where
  fields :=
    .cons (.required "key" .text) <| .cons (.required "value" .any) <| .cons (.required "type" .text) <|
    .cons (Field.open? "ttl" .natural).hideUnset .nil
  build := fun (key, value, kind, ttl, ()) => { key, value, kind, ttl }
  parts x := (x.key, x.value, x.kind, x.ttl, ())

/-- A command of the key/value engine. -/
inductive KvCommand where
  | delete
  | deleteMultiple
  | deleteAll
  | contains
  | get
  | getMultiple
  | getAll
  | keys
  | count
  | size
deriving DecidableEq, Repr, Inhabited

/-- The number of a command. -/
def KvCommand.id : KvCommand → Nat
  | delete => 2020
  | deleteMultiple => 2021
  | deleteAll => 2022
  | contains => 2030
  | get => 2031
  | getMultiple => 2032
  | getAll => 2033
  | keys => 2037
  | count => 2038
  | size => 2039

/-- Whether a key exists. -/
structure ExistsAnswer where
  present : Bool
deriving DecidableEq, Repr, Inhabited

/-- The fields of that answer. -/
def ExistsAnswer.record : Record ExistsAnswer where
  fields :=
    .cons (.required "exists" .flag) .nil
  build v := ⟨v.1⟩
  parts x := (x.present, ())

/-- The value of a key, null if it has none. -/
structure ValueAnswer where
  value : Json
deriving Repr, Inhabited

/-- The fields of that answer. -/
def ValueAnswer.record : Record ValueAnswer where
  fields :=
    .cons (.defaulted "value" .any .null) .nil
  build v := ⟨v.1⟩
  parts x := (x.value, ())

/-- The values of several keys. -/
structure ValuesAnswer where
  values : Dict Json
deriving Repr, Inhabited

/-- The fields of that answer. -/
def ValuesAnswer.record : Record ValuesAnswer where
  fields :=
    .cons (.defaulted "values" (.dict .any) .empty) .nil
  build v := ⟨v.1⟩
  parts x := (x.values, ())

/-- The keys of a collection. -/
structure KeysAnswer where
  keys : List String
deriving DecidableEq, Repr, Inhabited

/-- The fields of that answer. -/
def KeysAnswer.record : Record KeysAnswer where
  fields :=
    .cons (.defaulted "keys" (.list .text) []) .nil
  build v := ⟨v.1⟩
  parts x := (x.keys, ())

/-- The number of entries of a collection. -/
structure CountAnswer where
  count : Nat
deriving DecidableEq, Repr, Inhabited

/-- The fields of that answer. -/
def CountAnswer.record : Record CountAnswer where
  fields :=
    .cons (.required "count" .natural) .nil
  build v := ⟨v.1⟩
  parts x := (x.count, ())

/-- The size of a collection in bytes. -/
structure SizeAnswer where
  size : Nat
deriving DecidableEq, Repr, Inhabited

/-- The fields of that answer. -/
def SizeAnswer.record : Record SizeAnswer where
  fields :=
    .cons (.required "size" .natural) .nil
  build v := ⟨v.1⟩
  parts x := (x.size, ())

end HostingClient
