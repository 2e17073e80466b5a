import HostingClient.Text.Composition
import HostingClient.Url.Address
import HostingClient.Url.Direction
import HostingClient.Url.Joining
import HostingClient.Url.Mapping
import HostingClient.Url.Punycode
import HostingClient.Url.Refused

/-! # Names of hosts

A name on the web is written in lower-case ASCII. Its characters are mapped and composed first; then each label, a part
between dots, that holds other characters is written with a mark in front. A marked label must be what some label
is written as. -/

namespace HostingClient.Url.Name

/-- Whether a character has no place in a name. -/
def isForbidden (c : Char) : Bool :=
  c ≤ ' ' || c = '\x7f' || ['%', '#', '/', ':', '<', '>', '?', '@', '[', '\\', ']', '^', '|'].contains c

/-- Whether a label holds characters beyond ASCII. -/
def isInternational (label : List Char) : Bool := label.any fun c => '\x7f' < c

/-- The characters of a name as they are compared. -/
def normal (s : List Char) : List Char := Text.composed (s.flatMap mapChar)

/-- Whether a label is in order: it does not start with a mark, and holds only characters that a name has where they
are. -/
def isOrderly (label : List Char) : Bool := !(label.head?.any Text.isMark) && !label.any isRefused && hasJoiners label

/-- The mark of a label that is written in ASCII. -/
def asciiMark : List Char := ['x', 'n', '-', '-']

/-- The label that is meant by one whose characters are mapped already. -/
def meant? (label : List Char) : Option (List Char) :=
  if asciiMark.isPrefixOf label then
    match Punycode.decode? (label.drop 4) with
    | some s =>
      if isInternational s && isOrderly s && normal s = s && Punycode.encode s = label.drop 4 then some s else none
    | none => none
  else if isInternational label && !isOrderly label then none
  else some label

/-- A label in ASCII. -/
def labelText (label : List Char) : List Char :=
  if isInternational label then asciiMark ++ Punycode.encode label else label

/-- A name in lower-case ASCII. -/
def ascii? (s : List Char) : Option (List Char) :=
  let mapped := normal s
  if mapped.any isForbidden then none
  else
    match (splitDots mapped).mapM meant? with
    | some labels =>
      if labels.any (fun l => l.any fun c => (Direction.ofChar c).isBackward) && !labels.all keepsDirection then none
      else some (['.'].intercalate (labels.map labelText))
    | none => none

end HostingClient.Url.Name
