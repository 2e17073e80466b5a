import HostingClient.Failure

/-! # Storage

A storage keeps texts under keys. To remove a key that is not there is no failure. The storage in memory never
fails; a faulty one does what it is told to, and a failed operation changes nothing. -/

namespace HostingClient

/-- What keeps texts under keys. -/
class Storage (σ : Type) where
  get : String → σ → Except Failure (Option String) × σ
  set : String → String → σ → Except Failure Unit × σ
  remove : String → σ → Except Failure Unit × σ

instance : Storage (Dict String) where
  get key d := (.ok (d.find? key), d)
  set key value d := (.ok (), d.insert key value)
  remove key d := (.ok (), d.erase key)

/-- An operation on a storage. -/
inductive StorageAccess where
  | get
  | set
  | remove
deriving DecidableEq, Repr, Inhabited

/-- A storage in memory of which single operations fail. -/
structure FaultyStorage where
  items : Dict String
  /-- The number of operations so far. -/
  count : Nat
  /-- Whether the operation with a number fails. -/
  fails : Nat → StorageAccess → Bool

namespace FaultyStorage

/-- The failure of an operation. -/
def failure : Failure := Failure.io

/-- Does an operation, if it does not fail. -/
def attempt {α : Type} (access : StorageAccess) (act : Dict String → Except Failure α × Dict String)
    (s : FaultyStorage) : Except Failure α × FaultyStorage :=
  let next := { s with count := s.count + 1 }
  if s.fails s.count access then (.error failure, next)
  else
    let (r, items) := act s.items
    (r, { next with items })

end FaultyStorage

instance : Storage FaultyStorage where
  get key := FaultyStorage.attempt .get (Storage.get key)
  set key value := FaultyStorage.attempt .set (Storage.set key value)
  remove key := FaultyStorage.attempt .remove (Storage.remove key)

end HostingClient
