import HostingClient.Log.Level
import HostingClient.Log.Pattern

/-! # Filters of log lines

A filter decides which log lines are shown. It is a list of directives with commas between them. A directive sets a
level for everything or for a target, which may be inside a span; the span may have to have a field, of which a value
may be asked for. The blanks around a directive do not count for where its parts are, but they stay in its text. -/

namespace HostingClient

/-- A part of a filter. -/
structure LogDirective where
  /-- Whether a span is asked about the value of a field, which can show anything. -/
  byValue : Bool
  level : LogLevel
deriving DecidableEq, Repr, Inhabited

namespace LogDirective

/-- Whether a target may start with a character. -/
def startsTarget (c : Char) : Bool := c = '-' || c = ':' || c = '_' || Text.isAlphanumeric c

/-- Whether a text is a number: digits with a fraction and a power of ten, or a word for what is none. -/
def isNumber (s : List Char) : Bool :=
  let word := (Number.Real.splitSign s).2.map Char.toLower
  (Number.Real.read s).isSome || ["inf", "infinity", "nan"].contains (String.ofList word)

/-- Whether a value can be asked for. -/
def isValue (s : List Char) : Bool := isNumber s || LogPattern.isUsable s

/-- Whether a text about a field asks for a value; `none` if it cannot be used. -/
def field (s : List Char) : Option Bool :=
  if s.isEmpty then none
  else match s.dropWhile (· != '=') with
    | [] => some false
    | _ :: rest => if isValue (rest.takeWhile (· != '=')) then some true else none

/-- The level at the end of a directive. Without a word everything is shown. -/
def closing (word : List Char) : Option LogLevel := if word.isEmpty then some .trace else LogLevel.ofWord? word

/-- What follows a span: nothing, or the level from place `n` of the text on. -/
def afterSpan (byValue : Bool) (text : List Char) (n : Nat) : List Char → Option LogDirective
  | [] => some ⟨byValue, .trace⟩
  | '=' :: _ => (closing (text.drop (n + 1))).map fun level => ⟨byValue, level⟩
  | _ => none

/-- Reads a span after its bracket, which is in front of place `n` of the text. -/
def span (text : List Char) (n : Nat) (s : List Char) : Option LogDirective :=
  let name := s.takeWhile fun c => c != ']' && c != '\x7b'
  let n := n + name.length + 1
  match s.drop name.length with
  | ']' :: rest => afterSpan false text n rest
  | '\x7b' :: rest =>
    let inside := rest.takeWhile (· != '\x7d')
    match rest.drop inside.length with
    | '\x7d' :: ']' :: after =>
      match field ((text.drop n).take inside.length) with
      | some byValue => afterSpan byValue text (n + inside.length + 2) after
      | none => none
    | _ => none
  | _ => none

/-- Reads a directive. A word alone is a level if it names one, else a target of which everything is shown. -/
def read (text : List Char) : Option LogDirective :=
  let s := Text.trimEndBy Text.isBlank (Text.trimStart text)
  let target := s.takeWhile fun c => c != '=' && c != '['
  if !(target.head?.all startsTarget) then none
  else match target, s.drop target.length with
    | [], '[' :: rest => span text 1 rest
    | [], _ => none
    | _ :: _, [] => some ⟨false, (LogLevel.ofWord? text).getD .trace⟩
    | _ :: _, '[' :: rest => span text (target.length + 1) rest
    | _ :: _, _ :: _ => (closing (text.drop (target.length + 1))).map fun level => ⟨false, level⟩

end LogDirective

/-- A filter of log lines. -/
abbrev LogFilter := List LogDirective

namespace LogFilter

/-- The texts between commas. -/
def pieces (s : List Char) : List (List Char) :=
  let (last, done) := s.foldr (fun c (piece, rest) => if c = ',' then ([], piece :: rest) else (c :: piece, rest))
    (([], []) : List Char × List (List Char))
  last :: done

/-- Reads a filter. One without directives shows nothing. -/
def read (text : String) : Option LogFilter :=
  ((pieces text.toList).filter fun p => !p.isEmpty).mapM LogDirective.read

/-- The most verbose level that a filter shows. -/
def maxLevel (f : LogFilter) : LogLevel :=
  f.foldl (fun l d => l.max (if d.byValue then .trace else d.level)) .off

end LogFilter

end HostingClient
