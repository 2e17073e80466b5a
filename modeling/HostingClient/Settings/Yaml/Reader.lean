import HostingClient.Settings.Yaml.Node
import HostingClient.Settings.Yaml.Token

/-! # Reading documents

Tokens become nodes. A node can have an anchor, and an alias of the anchor stands for the node again. What a place
calls for but does not hold is nothing. A file holds at most one document. -/

namespace HostingClient.Yaml

/-- What is left to read, and what is known from before. -/
structure Reader where
  tokens : List Token
  /-- What a handle stands for, if a directive says so. -/
  handles : List (String × String)
  /-- The anchors, the latest first, by number. -/
  anchors : List (String × Nat)
  /-- The nodes of the anchors. -/
  nodes : List (Nat × Node)
deriving Repr

/-- A step of reading, which may fail. -/
abbrev Read := StateT Reader Option

/-- Fails. -/
def refuse {α : Type} : Read α := fun _ => none

/-- The next token. -/
def peek : Read (Option Token) := do return (← get).tokens.head?

/-- Passes a token. -/
def advance : Read Unit := modify fun r => { r with tokens := r.tokens.tail }

/-! ### Properties -/

/-- What a tag is with its handle spelled out. -/
def resolve (t : Tag) : Read Tag := do
  match (← get).handles.lookup t.handle with
  | some start => return { t with handle := start }
  | none =>
    if t.handle = "!!" then return { t with handle := schema }
    else if isClosed t.handle.toList then refuse
    else return t

/-- Gives an anchor a number. -/
def register (name : String) : Read Nat := do
  let n := (← get).anchors.length + 1
  modify fun r => { r with anchors := (name, n) :: r.anchors }
  return n

/-- Keeps the node of an anchor. -/
def keep (anchor : Option Nat) (n : Node) : Read Node := fun r =>
  match anchor with
  | some a => some (n, { r with nodes := (a, n) :: r.nodes })
  | none => some (n, r)

/-- The node that an alias stands for; within that node it is missing. -/
def follow (name : String) : Read Node := do
  let r ← get
  match r.anchors.lookup name with
  | some a => return (r.nodes.lookup a).getD (.scalar .missing)
  | none => refuse

/-- Reads the anchor and the tag of a node, in either order. -/
def properties : Read (Option Nat × Option Tag) := do
  match ← peek with
  | some (.anchor name) =>
    advance
    let a ← register name
    match ← peek with
    | some (.tag t) =>
      advance
      return (some a, some (← resolve t))
    | _ => return (some a, none)
  | some (.tag t) =>
    advance
    let t ← resolve t
    match ← peek with
    | some (.anchor name) =>
      advance
      return (some (← register name), some t)
    | _ => return (none, some t)
  | _ => return (none, none)

/-! ### Nodes -/

/-- Reads a node, unless one of some tokens comes first. -/
def readUnless (stops : Token → Bool) (read : Read Node) : Read Node := do
  match ← peek with
  | some t => if stops t then return .nothing else read
  | none => read

/-- Whether a token ends an entry of a block. -/
def endsEntry : Token → Bool
  | .key | .value | .blockEnd => true
  | _ => false

/-- Whether a token ends a key of a table in braces. -/
def endsKey : Token → Bool
  | .value | .comma | .tableEnd => true
  | _ => false

/-- Whether a token ends a value in brackets that are closed by another one. -/
def endsValue (close : Token) (t : Token) : Bool := t = .comma || t = close

/-- Adds a node to the entries of a table. -/
def addEntry (n : Node) (es : Entries) : Read Entries := fun r => (es.add n).map fun es => (es, r)

mutual
/-- Reads a node: in a `block` or in brackets. The items of a list that is the value of a key need not be indented,
so `loose` allows them here. -/
def readNode : Nat → Bool → Bool → Read Node
  | 0, _, _ => refuse
  | fuel + 1, block, loose => do
    match ← peek with
    | some (.alias name) =>
      advance
      follow name
    | _ =>
      let (anchor, tag) ← properties
      let t ← peek
      match t, block, loose with
      | some .item, _, true => keep anchor (← readLoose fuel [])
      | some (.scalar isPlain text), _, _ =>
        advance
        keep anchor (.scalar (.ofWritten isPlain tag text.toList))
      | some .listStart, _, _ =>
        advance
        keep anchor (← readList fuel true [])
      | some .tableStart, _, _ =>
        advance
        keep anchor (← readTable fuel true .empty)
      | some .blockList, true, _ =>
        advance
        keep anchor (← readItems fuel [])
      | some .blockTable, true, _ =>
        advance
        keep anchor (← readEntries fuel .empty)
      | _, _, _ =>
        if anchor.isSome || tag.isSome then keep anchor (.scalar (.ofWritten true tag [])) else refuse

/-- Reads the items of a list that is not indented. -/
def readLoose : Nat → List Node → Read Node
  | 0, _ => refuse
  | fuel + 1, items => do
    if (← peek) = some .item then
      advance
      let n ← readUnless (fun t => t = .item || endsEntry t) (readNode fuel true false)
      readLoose fuel (items ++ [n])
    else return .list items

/-- Reads the items of a list that is indented. -/
def readItems : Nat → List Node → Read Node
  | 0, _ => refuse
  | fuel + 1, items => do
    match ← peek with
    | some .blockEnd =>
      advance
      return .list items
    | some .item =>
      advance
      let n ← readUnless (fun t => t = .item || t = .blockEnd) (readNode fuel true false)
      readItems fuel (items ++ [n])
    | _ => refuse

/-- Reads the entries of a table that is indented. -/
def readEntries : Nat → Entries → Read Node
  | 0, _ => refuse
  | fuel + 1, es => do
    match ← peek with
    | some .blockEnd =>
      advance
      return .table es.done
    | some .key =>
      advance
      let k ← readUnless endsEntry (readNode fuel true true)
      readValue fuel (← addEntry k es)
    | some .value => readValue fuel (← addEntry .nothing es)
    | _ => refuse

/-- Reads the value of an entry, and the entries behind it. -/
def readValue : Nat → Entries → Read Node
  | 0, _ => refuse
  | fuel + 1, es => do
    if (← peek) = some .value then
      advance
      let n ← readUnless endsEntry (readNode fuel true true)
      readEntries fuel (← addEntry n es)
    else readEntries fuel (← addEntry .nothing es)

/-- Reads the items of a list in brackets. A single entry without braces is a table of its own. -/
def readList : Nat → Bool → List Node → Read Node
  | 0, _, _ => refuse
  | fuel + 1, first, items => do
    if (← peek) = some .comma ∧ !first then advance
    else if (← peek) ≠ some .listEnd ∧ !first then refuse
    match ← peek with
    | some .listEnd =>
      advance
      return .list items
    | some .key =>
      advance
      let n ← readPair fuel
      readList fuel false (items ++ [n])
    | _ =>
      let n ← readNode fuel false false
      readList fuel false (items ++ [n])

/-- Reads a single entry in a list. -/
def readPair : Nat → Read Node
  | 0 => refuse
  | fuel + 1 => do
    let t ← peek
    let k ← if t = some .value ∨ t = some .comma ∨ t = some .listEnd then do
        advance
        pure .nothing
      else readNode fuel false false
    let es ← addEntry k .empty
    let n ← if (← peek) = some .value then do
        advance
        readUnless (endsValue .listEnd) (readNode fuel false false)
      else pure .nothing
    return .table (← addEntry n es).done

/-- Reads the entries of a table in braces. -/
def readTable : Nat → Bool → Entries → Read Node
  | 0, _, _ => refuse
  | fuel + 1, first, es => do
    if (← peek) = some .comma ∧ !first then advance
    else if (← peek) ≠ some .tableEnd ∧ !first then refuse
    match ← peek with
    | some .tableEnd =>
      advance
      return .table es.done
    | some .key =>
      advance
      let k ← readUnless endsKey (readNode fuel false false)
      readMember fuel (← addEntry k es)
    | some .value => readMember fuel (← addEntry .nothing es)
    | _ =>
      let k ← readNode fuel false false
      readTable fuel false (← addEntry .nothing (← addEntry k es))

/-- Reads the value of an entry in braces, and the entries behind it. -/
def readMember : Nat → Entries → Read Node
  | 0, _ => refuse
  | fuel + 1, es => do
    if (← peek) = some .value then
      advance
      let n ← readUnless (endsValue .tableEnd) (readNode fuel false false)
      readTable fuel false (← addEntry n es)
    else readTable fuel false (← addEntry .nothing es)
end

/-! ### Documents -/

/-- Reads the directives in front of a document: what they say of handles, of which the last counts. The version
may be given once. -/
def readDirectives : Bool → List (String × String) → List Token → Option (List (String × String) × List Token)
  | given, _, .directive .version :: ts => if given then none else readDirectives true [] ts
  | given, _, .directive (.handle name start) :: ts => readDirectives given [(name, start)] ts
  | _, handles, ts => some (handles, ts)

/-- Whether a token ends a document. -/
def endsDocument : Token → Bool
  | .directive _ | .documentStart | .documentEnd => true
  | _ => false

/-- Reads the only document of a file, if there is one. -/
def readDocument (ts : List Token) : Option (Option Node) := do
  match ts.dropWhile (· == .documentEnd) with
  | [] => some none
  | t :: ts => do
    let marked := endsDocument t
    let (handles, ts) ← readDirectives false [] (t :: ts)
    let ts ← match marked, ts with
      | true, .documentStart :: ts => some ts
      | true, _ => none
      | false, ts => some ts
    if marked && ts.head?.all endsDocument then some (some .nothing)
    else
      let (n, r) ← readNode (4 * ts.length + 4) true false ⟨ts, handles, [], []⟩
      if (r.tokens.dropWhile (· == .documentEnd)).isEmpty then some (some n) else none

/-- Reads a file of settings. A file without a document is an empty table. -/
def read (s : List Char) : Option Document := do
  let ts ← tokens s
  match ← readDocument ts with
  | some n => n.document?
  | none => some (.table [])

end HostingClient.Yaml
