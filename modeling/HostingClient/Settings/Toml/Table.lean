import HostingClient.Settings.Document

/-! # Tables in TOML

A key with dots stands for tables inside each other, and so does the header of a table. No table may be defined twice
and no key may have two values, so the tables remember how they came about. -/

namespace HostingClient.Toml

/-- How a table came about. -/
inductive Origin where
  /-- By the header of a table inside it. -/
  | implied
  /-- By its own header. -/
  | header
  /-- By a key with dots. -/
  | dotted
deriving DecidableEq, Repr

/-- What a key stands for. -/
inductive Node where
  | value (d : Document)
  | table (origin : Origin) (entries : List (String × Node))
  /-- Tables under one header; lines belong to the last one. -/
  | tables (items : List (List (String × Node)))
deriving Repr

/-- The entries of a table. -/
abbrev Entries := List (String × Node)

/-- Gives a key that is there another node. -/
def replace (key : String) (n : Node) (es : Entries) : Entries := es.map fun e => if e.1 = key then (key, n) else e

/-- Changes the last of some tables. -/
def changeLast (change : Entries → Option Entries) (items : List Entries) : Option (List Entries) :=
  match items.getLast? with
  | some last => (change last).map fun last => items.dropLast ++ [last]
  | none => none

/-- Puts a value under a key with dots; `free` tells whether the entries can take a value of their own. A table that
has a header takes none, nor does one that the header of a table inside it calls for. -/
def putAt (d : Document) : List String → Bool → Entries → Option Entries
  | [], _, _ => none
  | [k], free, es => if free && (es.lookup k).isNone then some (es ++ [(k, .value d)]) else none
  | k :: ks, _, es =>
    match es.lookup k with
    | none => (putAt d ks true []).map fun inner => es ++ [(k, .table .dotted inner)]
    | some (.table .header _) => none
    | some (.table origin inner) =>
      (putAt d ks (origin = .dotted) inner).map fun inner => replace k (.table origin inner) es
    | some (.tables items) => (changeLast (putAt d ks false) items).map fun items => replace k (.tables items) es
    | some (.value _) => none

/-- Puts a value under a key. -/
def put (d : Document) (key : List String) (es : Entries) : Option Entries := putAt d key (key.length = 1) es

/-- Opens the table of a header; `last` does it for the last key. -/
def openTable (last : String → Entries → Option Entries) : List String → Entries → Option Entries
  | [], _ => none
  | [k], es => last k es
  | k :: ks, es =>
    match es.lookup k with
    | none => (openTable last ks []).map fun inner => es ++ [(k, .table .implied inner)]
    | some (.table origin inner) => (openTable last ks inner).map fun inner => replace k (.table origin inner) es
    | some (.tables items) => (changeLast (openTable last ks) items).map fun items => replace k (.tables items) es
    | some (.value _) => none

/-- Opens one table. -/
def openOne (k : String) (es : Entries) : Option Entries :=
  match es.lookup k with
  | none => some (es ++ [(k, .table .header [])])
  | some (.table .implied inner) => some (replace k (.table .header inner) es)
  | some _ => none

/-- Opens a further table of several. -/
def openNext (k : String) (es : Entries) : Option Entries :=
  match es.lookup k with
  | none => some (es ++ [(k, .tables [[]])])
  | some (.tables items) => some (replace k (.tables (items ++ [[]])) es)
  | some _ => none

/-- Changes the entries of an open table. -/
def within (change : Entries → Option Entries) : List String → Entries → Option Entries
  | [], es => change es
  | k :: ks, es =>
    match es.lookup k with
    | some (.table origin inner) => (within change ks inner).map fun inner => replace k (.table origin inner) es
    | some (.tables items) => (changeLast (within change ks) items).map fun items => replace k (.tables items) es
    | _ => none

mutual
/-- The value of a node. -/
def Node.document : Node → Document
  | .value d => d
  | .table _ entries => .table (documents entries)
  | .tables items => .list (tableDocuments items)

/-- The values of entries. -/
def documents : List (String × Node) → List (String × Document)
  | [] => []
  | (k, n) :: rest => (k, n.document) :: documents rest

/-- The values of tables. -/
def tableDocuments : List (List (String × Node)) → List Document
  | [] => []
  | es :: rest => .table (documents es) :: tableDocuments rest
end

end HostingClient.Toml
