import HostingClient.Settings.Document
import HostingClient.Settings.Yaml.Tag

/-! # Nodes

What a document in YAML holds: scalars, lists and tables. A plain scalar is a number, a truth value or nothing if it
looks like one; a tag of the standard schema can ask for one of these. A key is a scalar and has one value. -/

namespace HostingClient.Yaml

/-! ### Scalars -/

/-- The value of a scalar. -/
inductive Scalar where
  /-- A scalar is not what its tag asks for. -/
  | missing
  | nothing
  | flag (b : Bool)
  | integer (i : Int)
  /-- A number with a fraction, as it is written. -/
  | real (text : String)
  | text (s : String)
deriving DecidableEq, Repr, Inhabited

/-- What a handle of two exclamation marks stands for: the standard schema. -/
def schema : String := "tag:yaml.org,2002:"

/-- The integer that a text gives in a base, with or without a sign. -/
def integer? (base : Nat) (s : List Char) : Option Int :=
  let (negative, ds) := Number.Real.splitSign s
  match Number.ofBase? base ds with
  | some n =>
    let i : Int := if negative then -(n : Int) else n
    if Document.fitsWord i then some i else none
  | none => none

/-- Whether a text is a number with a fraction, an infinity, or a number that is none. -/
def isReal (s : List Char) : Bool :=
  [".inf", ".Inf", ".INF", "+.inf", "+.Inf", "+.INF", "-.inf", "-.Inf", "-.INF", ".nan", ".NaN", ".NAN"].contains
    (String.ofList s) || (s.any Char.isDigit && (Number.Real.read s).isSome)

/-- The integer that a plain scalar looks like: hexadecimal, octal or decimal. -/
def plainInteger? (s : List Char) : Option Int :=
  let marked := match s with
    | '0' :: 'x' :: ds => integer? 16 ds
    | '0' :: 'o' :: ds => integer? 8 ds
    | '+' :: s => integer? 10 s
    | _ => none
  marked.orElse fun _ => integer? 10 s

namespace Scalar

/-- The value of a plain scalar. -/
def ofPlain (s : List Char) : Scalar :=
  match plainInteger? s with
  | some i => integer i
  | none =>
    if s = [] ∨ s = ['~'] ∨ s = ['n', 'u', 'l', 'l'] then nothing
    else if s = ['t', 'r', 'u', 'e'] then flag true
    else if s = ['f', 'a', 'l', 's', 'e'] then flag false
    else if isReal s then real (String.ofList s)
    else text (String.ofList s)

/-- The value of a plain scalar that is asked for by the name of a tag. -/
def ofTagged (name : String) (s : List Char) : Scalar :=
  if name = "bool" then
    if s = ['t', 'r', 'u', 'e'] then flag true else if s = ['f', 'a', 'l', 's', 'e'] then flag false else missing
  else if name = "int" then
    match integer? 10 s with
    | some i => integer i
    | none => missing
  else if name = "float" then if isReal s then real (String.ofList s) else missing
  else if name = "null" then if s = ['~'] ∨ s = ['n', 'u', 'l', 'l'] then nothing else missing
  else text (String.ofList s)

/-- The value of a written scalar. Only a plain scalar can be something else than a text. -/
def ofWritten (isPlain : Bool) (tag : Option Tag) (s : List Char) : Scalar :=
  match isPlain, tag with
  | true, none => ofPlain s
  | true, some t => if t.handle = schema then ofTagged t.name s else text (String.ofList s)
  | false, _ => text (String.ofList s)

/-- A scalar as a key of settings. -/
def key? : Scalar → Option String
  | text s | real s => some s
  | integer i => (Document.integer i).text?
  | flag b => (Document.flag b).text?
  | nothing | missing => none

/-- A scalar as a value of settings. What is not a number is refused. -/
def document? : Scalar → Option Document
  | missing | nothing => some .nothing
  | flag b => some (.flag b)
  | integer i => some (.integer i)
  | real s => (Number.Real.read s.toList).map .real
  | text s => some (.text s)

end Scalar

/-! ### Nodes -/

/-- What a document, or a part of it, holds. -/
inductive Node where
  | scalar (s : Scalar)
  | list (items : List Node)
  | table (entries : List (Scalar × Node))
deriving Repr, Inhabited

/-- Nothing as a node. -/
def Node.nothing : Node := .scalar .nothing

/-- The entries of a table that is being read. -/
structure Entries where
  /-- The key whose value comes next. -/
  key : Option Node
  done : List (Scalar × Node)
deriving Repr, Inhabited

namespace Entries

/-- No entries. -/
def empty : Entries := ⟨none, []⟩

/-- Adds a node: a key, or the value of the key in front of it. A key that is missing is passed over. A key is a
scalar of which settings can have a name, and no key comes twice. -/
def add (n : Node) (es : Entries) : Option Entries :=
  match es.key, n with
  | none, .scalar .missing => some es
  | none, n => some { es with key := some n }
  | some (.scalar k), n =>
    if k.key?.isNone ∨ es.done.any fun e => e.1 = k then none else some ⟨none, es.done ++ [(k, n)]⟩
  | some _, _ => none

end Entries

/-- Gives a name a value, in place of the one it had. -/
def put (name : String) (d : Document) (es : List (String × Document)) : List (String × Document) :=
  es.filter (fun e => e.1 != name) ++ [(name, d)]

mutual
/-- A node as a value of settings. -/
def Node.document? : Node → Option Document
  | .scalar s => s.document?
  | .list items => (documents? items).map .list
  | .table entries => (settings? [] entries).map .table

/-- Nodes as values of settings. -/
def documents? : List Node → Option (List Document)
  | [] => some []
  | n :: rest => do
    let d ← n.document?
    let ds ← documents? rest
    some (d :: ds)

/-- Entries as settings, after some others. Of two keys with one name the last counts. -/
def settings? (es : List (String × Document)) : List (Scalar × Node) → Option (List (String × Document))
  | [] => some es
  | (k, n) :: rest => do
    let name ← k.key?
    let d ← n.document?
    settings? (put name d es) rest
end

end HostingClient.Yaml
