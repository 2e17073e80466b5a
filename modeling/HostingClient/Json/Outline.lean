import HostingClient.Json.Basic

/-! # Outlines of JSON text

An outline is what can be read of a JSON text: the value, with the place where the text ends early or goes
wrong. Decoders walk an outline in the order of the text, so the first fault they meet is the first one in the
text, whether it lies in the syntax or in a value of the wrong kind.

Some faults show only when a value is read and not when it is skipped: a number that is out of range, a text
with half a surrogate pair. Some parts that break off have a fault of their own in either case. -/

namespace HostingClient.Json

/-- How reading text fails. -/
inductive SyntaxFault where
  /-- The text ends where more is needed. -/
  | ended
  /-- The text goes on with what is not allowed. -/
  | malformed
deriving DecidableEq, Repr, Inhabited

/-- The name of a member as far as it can be read. -/
inductive Key where
  | text (s : String)
  /-- A complete text that is not Unicode. -/
  | unreadable
  /-- The text of the name breaks off. -/
  | broken (read skip : SyntaxFault)
  /-- Something other than a text; the fault of reading it, if it is not just of the wrong kind. -/
  | misplaced (fault : Option SyntaxFault)
deriving DecidableEq, Repr, Inhabited

/-- A value as far as it can be read. -/
inductive Outline where
  | null
  | bool (b : Bool)
  | number (n : Except SyntaxFault Number.Value)
  | text (s : Except SyntaxFault String)
  /-- The items, the last of which may be broken; then the fault in place of the closing bracket. -/
  | array (items : List Outline) (stop : Option SyntaxFault)
  | object (members : List (Key × Outline)) (stop : Option SyntaxFault)
  | broken (read skip : SyntaxFault)
deriving Repr, Inhabited

namespace Key

/-- Whether a name can be skipped. -/
def skip : Key → Except SyntaxFault Unit
  | text _ | unreadable => .ok ()
  | broken _ f => .error f
  | misplaced _ => .error .malformed

/-- The name, if it can be read. -/
def read : Key → Except SyntaxFault String
  | text s => .ok s
  | unreadable => .error .malformed
  | broken f _ => .error f
  | misplaced _ => .error .malformed

end Key

/-- The fault in place of a closing bracket, if there is one. -/
def finish : Option SyntaxFault → Except SyntaxFault Unit
  | none => .ok ()
  | some f => .error f

namespace Outline

mutual
/-- Whether a value can be skipped: its syntax alone counts. -/
def skip : Outline → Except SyntaxFault Unit
  | null | bool _ | number _ | text _ => .ok ()
  | array items stop => do skipItems items; finish stop
  | object members stop => do skipMembers members; finish stop
  | broken _ f => .error f

/-- Whether all items can be skipped. -/
def skipItems : List Outline → Except SyntaxFault Unit
  | [] => .ok ()
  | o :: rest => do skip o; skipItems rest

/-- Whether all members can be skipped. -/
def skipMembers : List (Key × Outline) → Except SyntaxFault Unit
  | [] => .ok ()
  | (k, o) :: rest => do k.skip; skip o; skipMembers rest
end

end Outline

mutual
/-- The outline of a value that is at hand. -/
def outline : Json → Outline
  | null => .null
  | bool b => .bool b
  | number n => .number (.ok n)
  | text s => .text (.ok s)
  | array items => .array (outlines items) none
  | object members => .object (memberOutlines members) none

/-- The outlines of items. -/
def outlines : List Json → List Outline
  | [] => []
  | j :: rest => outline j :: outlines rest

/-- The outlines of members. -/
def memberOutlines : List (String × Json) → List (Key × Outline)
  | [] => []
  | (k, j) :: rest => (.text k, outline j) :: memberOutlines rest
end

end HostingClient.Json
