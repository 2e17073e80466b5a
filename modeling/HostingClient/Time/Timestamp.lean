import HostingClient.Time.Instant
import HostingClient.Text.Blank
import HostingClient.Number.Shortest
import HostingClient.Json.Record

/-! # Timestamps

Instants as text. Written, a timestamp is `2025-01-02T03:04:05.678Z`: in UTC, with no fraction or with 3, 6 or
9 digits, the fewest that are exact; years outside 0 to 9999 have a sign. The reader takes more: numbers need
no leading zeros, blanks may stand before a number and around the separators, and any offset of less than a day
may follow. -/

namespace HostingClient.Time

open HostingClient.Text HostingClient.Number

/-- A number with zeros in front up to a width. -/
def padded (width n : Nat) : List Char :=
  let ds := digitsOf n
  List.replicate (width - ds.length) '0' ++ ds

/-- The year of a timestamp. -/
def yearText (year : Int) : List Char :=
  if 0 ≤ year ∧ year ≤ 9999 then padded 4 year.toNat
  else (if year < 0 then '-' else '+') :: padded 4 year.natAbs

/-- The fraction of a second, in the fewest groups of three digits that are exact. -/
def fractionText (nanos : Nat) : List Char :=
  if nanos = 0 then []
  else if nanos % 1000000 = 0 then '.' :: padded 3 (nanos / 1000000)
  else if nanos % 1000 = 0 then '.' :: padded 6 (nanos / 1000)
  else '.' :: padded 9 nanos

namespace Instant

/-- The timestamp of an instant. -/
def text (t : Instant) : List Char :=
  let date := Date.ofDays (t.second / 86400)
  let s := t.secondOfDay.toNat
  let (second, nanos) := if t.isLeap then (s % 60 + 1, t.nanos - billion) else (s % 60, t.nanos)
  yearText date.year ++ '-' :: (padded 2 date.month ++ '-' :: (padded 2 date.day ++ 'T' ::
    (padded 2 (s / 3600) ++ ':' :: (padded 2 (s / 60 % 60) ++ ':' :: (padded 2 second ++
      (fractionText nanos ++ ['Z']))))))

end Instant

namespace Timestamp

/-- Reads at least one digit and at most `width` of them. -/
def number (width : Nat) (s : List Char) : Option (Nat × List Char) :=
  let ds := (s.take width).takeWhile Char.isDigit
  if ds.isEmpty then none
  else some (ds.foldl (fun n c => n * 10 + (c.toNat - '0'.toNat)) 0, s.drop ds.length)

/-- Reads a number after blanks. -/
def field (width : Nat) (s : List Char) : Option (Nat × List Char) := number width (trimStart s)

/-- Reads a separator after blanks. -/
def separator (c : Char) (s : List Char) : Option (List Char) :=
  match trimStart s with
  | x :: rest => if x = c then some rest else none
  | [] => none

/-- Reads the year. A year with a sign may have any number of digits. -/
def year (s : List Char) : Option (Int × List Char) :=
  match trimStart s with
  | '-' :: rest => (number rest.length rest).map fun (n, r) => (-(n : Int), r)
  | '+' :: rest => (number rest.length rest).map fun (n, r) => ((n : Int), r)
  | s => (number 4 s).map fun (n, r) => ((n : Int), r)

/-- Reads the fraction of a second, if there is one. Digits after the ninth are dropped. -/
def fraction : List Char → Option (Nat × List Char)
  | '.' :: rest =>
    (number 9 rest).map fun (n, r) =>
      (n * Nat.pow 10 (9 - (rest.length - r.length)), r.dropWhile Char.isDigit)
  | s => some (0, s)

/-- The value of two digits. -/
def twoDigits (a b : Char) : Option Nat :=
  if a.isDigit ∧ b.isDigit then some ((a.toNat - '0'.toNat) * 10 + (b.toNat - '0'.toNat)) else none

/-- Whether a character may stand between the hours and the minutes of an offset. -/
def isOffsetGap (c : Char) : Bool := c = ':' || isBlank c

/-- Reads the hours and minutes of an offset, in minutes. -/
def offsetMinutes : List Char → Option (Nat × List Char)
  | a :: b :: rest => do
    let hours ← twoDigits a b
    match rest.dropWhile isOffsetGap with
    | c :: d :: rest' => do
      let minutes ← twoDigits c d
      if minutes < 60 then some (hours * 60 + minutes, rest') else none
    | _ => none
  | _ => none

/-- Reads an offset from UTC, in minutes. -/
def offset : List Char → Option (Int × List Char)
  | a :: b :: c :: rest =>
    if a.toLower = 'u' ∧ b.toLower = 't' ∧ c.toLower = 'c' then some (0, rest)
    else signed (a :: b :: c :: rest)
  | s => signed s
where
  /-- An offset that is `Z` or has a sign. -/
  signed : List Char → Option (Int × List Char)
    | x :: rest =>
      if x = 'Z' ∨ x = 'z' then some (0, rest)
      else if x = '+' then (offsetMinutes rest).map fun (n, r) => ((n : Int), r)
      else if x = '-' ∨ x = '\u2212' then (offsetMinutes rest).map fun (n, r) => (-(n : Int), r)
      else none
    | [] => none

/-- Reads the letter or blank between date and time. -/
def dateEnd : List Char → Option (List Char)
  | c :: rest => if c = 'T' ∨ c = 't' ∨ c = ' ' then some rest else none
  | [] => none

/-- The instant of a date and a time of day at an offset, if they exist. Second 60 is a leap second. -/
def assemble (date : Date) (hour minute second nanos : Nat) (offset : Int) : Option Instant :=
  if date.isValid ∧ hour < 24 ∧ minute < 60 ∧ second ≤ 60 ∧ offset.natAbs < 1440 then
    let (second, nanos) := if second = 60 then (59, nanos + billion) else (second, nanos)
    let s := date.toDays * 86400 + hour * 3600 + minute * 60 + second - offset * 60
    if Instant.firstSecond ≤ s ∧ s ≤ Instant.lastSecond then some ⟨s, nanos⟩ else none
  else none

/-- Reads a timestamp. -/
def read (s : List Char) : Option Instant := do
  let (year, s) ← year s
  let s ← separator '-' s
  let (month, s) ← field 2 s
  let s ← separator '-' s
  let (day, s) ← field 2 s
  let s ← dateEnd s
  let (hour, s) ← field 2 s
  let s ← separator ':' s
  let (minute, s) ← field 2 s
  let s ← separator ':' s
  let (second, s) ← field 2 s
  let (nanos, s) ← fraction s
  let (offset, s) ← offset (trimStart s)
  if (trimStart s).isEmpty then assemble ⟨year, month, day⟩ hour minute second nanos offset else none

end Timestamp

end HostingClient.Time

namespace HostingClient

/-- Timestamps in data. -/
def Codec.timestamp : Codec Time.Instant where
  decode := fun _ o =>
    match o with
    | .text (.ok s) =>
      match Time.Timestamp.read s.toList with
      | some t => .ok t
      | none => .error .notTimestamp
    | o => .error (Decoder.mismatch o)
  encode t := .text (String.ofList t.text)

end HostingClient
