import HostingClient.Settings.Toml.Table
import HostingClient.Settings.Toml.Text
import HostingClient.Settings.Toml.Word

/-! # Reading TOML

A file is a list of lines: a key and its value, or the header of a table that the following lines belong to. Between
brackets and braces lines may end anywhere but inside a key. -/

namespace HostingClient.Toml

/-! ### Values -/

/-- Reads a text as a value. -/
def textValue (s : List Char) : Option (Document × List Char) :=
  match readText true s with
  | some (some (ds, rest)) => some (.text (String.ofList ds), rest)
  | _ => none

/-- Drops what may stand between two parts of a list or a table. -/
def skipBetween (s : List Char) : Option (List Char) := skipFree (s.length + 1) s

mutual
/-- Reads a value that may have `depth` values inside each other. -/
def readValue : Nat → Nat → List Char → Option (Document × List Char)
  | 0, _, _ => none
  | fuel + 1, depth, s =>
    match s, depth with
    | '[' :: rest, depth + 1 => (readItems fuel depth rest).map fun (ds, rest) => (.list ds, rest)
    | '\x7b' :: rest, depth + 1 =>
      (readInline fuel depth [] rest).map fun (es, rest) => (.table (documents es), rest)
    | '"' :: '"' :: '"' :: _, _ | '\'' :: '\'' :: '\'' :: _, _ => textValue s
    | '"' :: '"' :: rest, _ | '\'' :: '\'' :: rest, _ => some (.text "", rest)
    | '"' :: _, _ | '\'' :: _, _ => textValue s
    | s, _ => readWord s

/-- Reads the items of a list and its end. -/
def readItems : Nat → Nat → List Char → Option (List Document × List Char)
  | 0, _, _ => none
  | fuel + 1, depth, s =>
    match skipBetween s with
    | none => none
    | some (']' :: rest) => some ([], rest)
    | some s =>
      match readValue fuel depth s with
      | none => none
      | some (d, rest) =>
        match skipBetween rest with
        | some (',' :: rest) => (readItems fuel depth rest).map fun (ds, rest) => (d :: ds, rest)
        | some (']' :: rest) => some ([d], rest)
        | _ => none

/-- Reads the entries of a table in braces and its end. -/
def readInline : Nat → Nat → Entries → List Char → Option (Entries × List Char)
  | 0, _, _, _ => none
  | fuel + 1, depth, es, s =>
    match skipBetween s with
    | none => none
    | some ('\x7d' :: rest) => some (es, rest)
    | some s =>
      let value := do
        let (key, rest) ← readKey s
        match ← skipBetween rest with
        | '=' :: rest => do
          let rest ← skipBetween rest
          some (key, rest)
        | _ => none
      match value with
      | none => none
      | some (key, rest) =>
        match readValue fuel depth rest with
        | none => none
        | some (d, rest) =>
          match put d key es, skipBetween rest with
          | some es, some (',' :: rest) => readInline fuel depth es rest
          | some es, some ('\x7d' :: rest) => some (es, rest)
          | _, _ => none
end

/-! ### Lines -/

/-- Reads the key of a header and the brackets that close it. -/
def readHeader (double : Bool) (s : List Char) : Option (List String × List Char) := do
  let (key, rest) ← readKey s
  match double, rest with
  | false, ']' :: rest | true, ']' :: ']' :: rest =>
    let rest ← endLine rest
    some (key, rest)
  | _, _ => none

/-- Reads lines into the entries of the file and the keys of the open table. -/
def readLines : Nat → Entries → List String → List Char → Option Entries
  | 0, _, _, _ => none
  | fuel + 1, es, current, s =>
    match skipGaps s with
    | [] => some es
    | '[' :: '[' :: rest => do
      let (key, rest) ← readHeader true rest
      let es ← openTable openNext key es
      readLines fuel es key rest
    | '[' :: rest => do
      let (key, rest) ← readHeader false rest
      let es ← openTable openOne key es
      readLines fuel es key rest
    | s =>
      match endLine s with
      | some rest => readLines fuel es current rest
      | none =>
        match readKey s with
        | some (key, '=' :: rest) => do
          let (d, rest) ← readValue (rest.length + 1) greatestDepth (skipGaps rest)
          let rest ← endLine rest
          let es ← within (put d key) current es
          readLines fuel es current rest
        | _ => none

/-- Reads a file of settings. A mark of the byte order may stand in front. -/
def read (s : List Char) : Option Document :=
  let s := match s with
    | '\uFEFF' :: s => s
    | s => s
  (readLines (s.length + 1) [] [] s).map fun es => .table (documents es)

end HostingClient.Toml
