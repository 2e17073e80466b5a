import HostingClient.Number.Shortest

/-! # Addresses of hosts

Addresses of 32 bits in up to four parts, each decimal, octal or hexadecimal, and addresses of 128 bits in groups
of four hexadecimal digits, where one run of zero groups may be left out. -/

namespace HostingClient.Url

/-- The value of a digit in a base up to 16. -/
def digitValue? (base : Nat) (c : Char) : Option Nat :=
  let n :=
    if '0' ≤ c ∧ c ≤ '9' then c.toNat - '0'.toNat
    else if 'a' ≤ c ∧ c ≤ 'f' then c.toNat - 'a'.toNat + 10
    else if 'A' ≤ c ∧ c ≤ 'F' then c.toNat - 'A'.toNat + 10
    else 16
  if n < base then some n else none

/-- The number of some digits, if they are digits. -/
def ofDigits? (base : Nat) (s : List Char) : Option Nat :=
  (s.mapM (digitValue? base)).map fun ds => ds.foldl (fun n d => n * base + d) 0

/-- The texts between dots. -/
def splitDots (s : List Char) : List (List Char) :=
  let (last, done) := s.foldr (fun c (piece, rest) => if c = '.' then ([], piece :: rest) else (c :: piece, rest))
    (([], []) : List Char × List (List Char))
  last :: done

namespace Ipv4

/-- The number of a part. -/
def part? : List Char → Option Nat
  | [] => none
  | '0' :: 'x' :: s | '0' :: 'X' :: s => ofDigits? 16 s
  | '0' :: d :: s => ofDigits? 8 (d :: s)
  | s => ofDigits? 10 s

/-- The parts of a host name; an empty one at the end does not count. -/
def parts (s : List Char) : List (List Char) :=
  let ps := splitDots s
  if 1 < ps.length ∧ ps.getLast? = some [] then ps.dropLast else ps

/-- Whether a host name has to be an address: its last part is a number. -/
def isMeant (s : List Char) : Bool :=
  match (parts s).getLast? with
  | some p => (!p.isEmpty && p.all Char.isDigit) || (part? p).isSome
  | none => false

/-- The address of its numbers: the last one fills all that the others leave. -/
def ofNumbers (numbers : List Nat) : Option Nat :=
  match numbers.reverse with
  | [] => none
  | last :: before =>
    if 4 < numbers.length ∨ before.any (255 < ·) ∨ Nat.pow 256 (4 - before.length) ≤ last then none
    else some (before.reverse.foldl (fun n p => n * 256 + p) 0 * Nat.pow 256 (4 - before.length) + last)

/-- Reads an address. -/
def read (s : List Char) : Option Nat := (parts s).mapM part? >>= ofNumbers

/-- An address in four decimal parts. -/
def text (n : Nat) : List Char :=
  Number.digitsOf (n / 16777216 % 256) ++ '.' :: (Number.digitsOf (n / 65536 % 256) ++ '.' ::
    (Number.digitsOf (n / 256 % 256) ++ '.' :: Number.digitsOf (n % 256)))

end Ipv4

namespace Ipv6

/-- The groups read so far, and where the gap is. -/
structure Groups where
  read : List Nat
  gap : Option Nat

namespace Groups

/-- How many groups are taken; a gap takes at least one. -/
def count (g : Groups) : Nat := g.read.length + (if g.gap.isSome then 1 else 0)

/-- All eight groups. -/
def close (g : Groups) : Option (List Nat) :=
  match g.gap with
  | none => if g.read.length = 8 then some g.read else none
  | some k => some (g.read.take k ++ List.replicate (8 - g.read.length) 0 ++ g.read.drop k)

end Groups

/-- A decimal number below 256 without a zero in front. -/
def byte? (s : List Char) : Option Nat :=
  if s.isEmpty || (s.head? = some '0' && 1 < s.length) || !(s.all Char.isDigit) then none
  else (ofDigits? 10 s).filter (· < 256)

/-- Two groups written as four decimal numbers. -/
def tail? (s : List Char) : Option (List Nat) :=
  match (splitDots s).mapM byte? with
  | some [a, b, c, d] => some [a * 256 + b, c * 256 + d]
  | _ => none

/-- Reads groups. The bound is at least the length of the text. -/
def readGroups : Nat → Groups → List Char → Option (List Nat)
  | _, g, [] => g.close
  | 0, _, _ :: _ => none
  | fuel + 1, g, c :: s =>
    if g.count = 8 then none
    else if c = ':' then
      if g.gap.isSome then none else readGroups fuel { g with gap := some g.read.length } s
    else
      let ds := ((c :: s).take 4).takeWhile fun c => (digitValue? 16 c).isSome
      match (c :: s).drop ds.length with
      | '.' :: _ =>
        if ds.isEmpty ∨ 6 < g.count then none
        else (tail? (c :: s)).bind fun groups => { g with read := g.read ++ groups }.close
      | rest =>
        match ofDigits? 16 ds with
        | none => none
        | some n =>
          let g := { g with read := g.read ++ [n] }
          match rest with
          | [] => g.close
          | ':' :: [] => none
          | ':' :: rest' => readGroups fuel g rest'
          | _ => none

/-- Reads an address. -/
def read : List Char → Option (List Nat)
  | ':' :: ':' :: s => readGroups s.length ⟨[], some 0⟩ s
  | ':' :: _ | [] | [_] => none
  | s => readGroups s.length ⟨[], none⟩ s

/-- The length of the run of zeros at the start. -/
def zeroRun (groups : List Nat) : Nat := (groups.takeWhile (· = 0)).length

/-- The start and length of the longest run of at least two zero groups, the first of several. -/
def longestGap (groups : List Nat) : Option (Nat × Nat) :=
  (List.range 8).foldl (fun best k =>
    let n := zeroRun (groups.drop k)
    if 1 < n ∧ (best.map (·.2)).getD 0 < n then some (k, n) else best) none

/-- Groups with colons between them. -/
def joined (groups : List Nat) : List Char := [':'].intercalate (groups.map (Nat.toDigits 16))

/-- An address with its longest run of zero groups left out. -/
def text (groups : List Nat) : List Char :=
  match longestGap groups with
  | none => joined groups
  | some (k, n) => joined (groups.take k) ++ ':' :: ':' :: joined (groups.drop (k + n))

end Ipv6

end HostingClient.Url
