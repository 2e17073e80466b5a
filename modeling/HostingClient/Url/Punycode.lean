/-! # Punycode

Labels of host names are ASCII. A label with other characters is written as its ASCII characters followed by
the places and values of the others, as differences in numbers of variable length. How long a number is expected
to be adapts to the numbers before it. -/

namespace HostingClient.Url.Punycode

/-- The digit of a value below 36. -/
def digit (n : Nat) : Char := if n < 26 then Char.ofNat ('a'.toNat + n) else Char.ofNat ('0'.toNat + (n - 26))

/-- The value of a digit. -/
def value? (c : Char) : Option Nat :=
  if 'a' ≤ c ∧ c ≤ 'z' then some (c.toNat - 'a'.toNat)
  else if 'A' ≤ c ∧ c ≤ 'Z' then some (c.toNat - 'A'.toNat)
  else if '0' ≤ c ∧ c ≤ '9' then some (c.toNat - '0'.toNat + 26)
  else none

/-- The least value of a digit that another digit follows. -/
def threshold (place bias : Nat) : Nat := max 1 (min 26 (place - bias))

theorem one_le_threshold (place bias : Nat) : 1 ≤ threshold place bias := by
  unfold threshold
  omega

/-- Brings a difference into the range of the next bias. -/
def settle (delta place : Nat) : Nat :=
  if 455 < delta then settle (delta / 35) (place + 36) else place + 36 * delta / (delta + 38)
termination_by delta

/-- The bias after a difference. -/
def adapt (delta count : Nat) (first : Bool) : Nat :=
  let delta := if first then delta / 700 else delta / 2
  settle (delta + delta / count) 0

/-- The digits of a number. -/
def digits (bias place n : Nat) : List Char :=
  if n < threshold place bias then [digit n]
  else
    let t := threshold place bias
    digit (t + (n - t) % (36 - t)) :: digits bias (place + 36) ((n - t) / (36 - t))
termination_by n
decreasing_by
  have := one_le_threshold place bias
  exact Nat.lt_of_le_of_lt (Nat.div_le_self _ _) (by omega)

/-- What is known while a label is written. -/
structure Writer where
  written : List Char
  delta : Nat
  bias : Nat
  /-- How many characters have been handled. -/
  count : Nat

/-- Goes over a character of the label while the places of the character with code point `n` are written. -/
def Writer.pass (basic n : Nat) (w : Writer) (c : Char) : Writer :=
  if c.toNat < n then { w with delta := w.delta + 1 }
  else if c.toNat = n then
    ⟨w.written ++ digits w.bias 36 w.delta, 0, adapt w.delta (w.count + 1) (w.count = basic), w.count + 1⟩
  else w

/-- The code points of the characters that are not ASCII, in increasing order. -/
def codePoints (label : List Char) : List Nat :=
  ((label.filter fun c => '\x7f' < c).map Char.toNat).mergeSort.eraseDups

/-- A label in ASCII, without a mark that it is one. -/
def encode (label : List Char) : List Char :=
  let ascii := label.filter fun c => c ≤ '\x7f'
  let start : Nat × Writer := (128, ⟨[], 0, 72, ascii.length⟩)
  let (_, w) := (codePoints label).foldl (fun (next, w) n =>
    let w := { w with delta := w.delta + (n - next) * (w.count + 1) }
    let w := label.foldl (Writer.pass ascii.length n) w
    (n + 1, { w with delta := w.delta + 1 })) start
  (if ascii.isEmpty then [] else ascii ++ ['-']) ++ w.written

/-- What is known while a label is read. -/
structure Reader where
  read : List Char
  next : Nat
  place : Nat
  bias : Nat

/-- Puts a character at a place of a text. -/
def insertAt (c : Char) : Nat → List Char → List Char
  | 0, s => c :: s
  | n + 1, x :: s => x :: insertAt c n s
  | _ + 1, [] => [c]

/-- Takes a difference: the next character and its place. -/
def Reader.take (r : Reader) (delta : Nat) : Option Reader :=
  let count := r.read.length + 1
  let place := r.place + delta
  let n := r.next + place / count
  if n.isValidChar then
    some ⟨insertAt (Char.ofNat n) (place % count) r.read, n, place % count + 1,
      adapt delta count (r.place = 0 && r.next = 128)⟩
  else none

/-- Reads digits. `weight` and `delta` belong to the number that is being read, if one is. -/
def readDigits (r : Reader) (weight delta k : Nat) (open_ : Bool) : List Char → Option (List Char)
  | [] => if open_ then none else some r.read
  | c :: rest =>
    match value? c with
    | none => none
    | some d =>
      let delta := delta + d * weight
      let t := threshold k r.bias
      if d < t then
        match r.take delta with
        | some r => readDigits r 1 0 36 false rest
        | none => none
      else readDigits r (weight * (36 - t)) delta (k + 36) true rest

/-- The label that is written as an ASCII label, if there is one. -/
def decode? (s : List Char) : Option (List Char) :=
  let tail := (s.reverse.takeWhile (· != '-')).reverse
  let ascii := if tail.length = s.length then [] else s.take (s.length - tail.length - 1)
  readDigits ⟨ascii, 128, 0, 72⟩ 1 0 36 false tail

end HostingClient.Url.Punycode
