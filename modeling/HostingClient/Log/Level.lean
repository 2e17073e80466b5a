import HostingClient.Number.Real

/-! # Levels of log lines

How severe a log line is. What shows a level shows all that is more severe. -/

namespace HostingClient

/-- How much is shown. -/
inductive LogLevel where
  | off
  | error
  | warn
  | info
  | debug
  | trace
deriving DecidableEq, Repr, Inhabited

namespace LogLevel

/-- The place of a level, the most verbose last. -/
def rank : LogLevel → Nat
  | off => 0
  | error => 1
  | warn => 2
  | info => 3
  | debug => 4
  | trace => 5

/-- The name of a level. -/
def name : LogLevel → String
  | off => "off"
  | error => "error"
  | warn => "warn"
  | info => "info"
  | debug => "debug"
  | trace => "trace"

/-- All levels. -/
def all : List LogLevel := [off, error, warn, info, debug, trace]

/-- The more verbose of two levels. -/
def max (a b : LogLevel) : LogLevel := if a.rank < b.rank then b else a

/-- The number that a text of digits gives; a plus sign may stand in front. -/
def number? (word : List Char) : Option Nat :=
  let ds := match word with
    | '+' :: ds => ds
    | ds => ds
  if ds.isEmpty || !(ds.all Char.isDigit) then none else some (Number.Real.ofDigits ds)

/-- The level that a word names, in any case, or by its place. -/
def ofWord? (word : List Char) : Option LogLevel :=
  all.find? fun l => l.name.toList = word.map Char.toLower || number? word = some l.rank

end LogLevel

end HostingClient
