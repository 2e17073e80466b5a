import HostingClient.Settings.Basic
import HostingClient.Settings.Toml.Reader
import HostingClient.Settings.Yaml.Reader
import HostingClient.Json.Decoder

/-! # Loading settings

Each setting is taken from the environment if a variable gives it, else from the file if it has it, else from the
standard settings. Only the value that counts is looked at. Settings that were loaded are in order. -/

namespace HostingClient.Settings

/-- A file of settings; it has no content if it does not exist. -/
structure SettingsFile where
  name : String
  content : Option String
deriving DecidableEq, Repr

/-- Settings by name. -/
abbrev Layer := List (String × Document)

/-- Whether a character may stand in a name without dots. -/
def isNameChar (c : Char) : Bool := c.isAlphanum || c = '_' || c = '-'

/-- The rest after a position in brackets: an integer that fits a signed word, with blanks around it. -/
def skipPosition (s : List Char) : Option (List Char) :=
  let isGap (c : Char) : Bool := c = ' ' || c = '\t'
  let (negative, ds) := match s.dropWhile isGap with
    | '-' :: r => (true, r)
    | r => (false, r)
  let digits := ds.takeWhile Char.isDigit
  let n := Number.Real.ofDigits digits
  match (ds.drop digits.length).dropWhile isGap with
  | ']' :: rest => if !digits.isEmpty ∧ Document.fitsWord (if negative then -(n : Int) else n) then some rest else none
  | _ => none

/-- Whether a text is the rest of a path of names and positions. -/
def isPathRest : Nat → List Char → Bool
  | 0, _ => false
  | _, [] => true
  | fuel + 1, '.' :: s =>
    let name := s.takeWhile isNameChar
    !name.isEmpty && isPathRest fuel (s.drop name.length)
  | fuel + 1, '[' :: s => (skipPosition s).any (isPathRest fuel)
  | _ + 1, _ :: _ => false

/-- An entry of a layer. A name that is a path puts its value inside the setting that it starts with. -/
def entry (e : String × Document) : String × Document :=
  let name := e.1.toList
  let head := name.takeWhile isNameChar
  let rest := name.drop head.length
  if !head.isEmpty && !rest.isEmpty && isPathRest (rest.length + 1) rest then
    (String.ofList head, .table [(String.ofList rest, e.2)])
  else e

/-- What the names of variables start with, in lower case. -/
def variableStart : List Char := "fancyspaces_".toList

/-- A character in lower case, as far as it can be one of a name: the sign of kelvins is a K too. -/
def lowerName (c : Char) : Char := if c = '\u212A' then 'k' else c.toLower

/-- The setting that a variable of the environment gives. Case does not count in its name. -/
def ofVariable (v : String × String) : Option (String × Document) :=
  let name := v.1.toList.map lowerName
  if variableStart.isPrefixOf name then some (entry (String.ofList (name.drop variableStart.length), .text v.2))
  else none

/-- The settings in the environment. Of variables for one setting the last counts. -/
def ofEnvironment (env : Environment) : Layer := (env.filterMap ofVariable).reverse

/-- What the name of a file ends in, after the last dot. A dot at the start does not count. -/
def extension? (name : String) : Option String :=
  let s := (name.toList.reverse.takeWhile (· != '/')).reverse
  let last := (s.reverse.takeWhile (· != '.')).reverse
  if s.length ≤ last.length + 1 then none else some (String.ofList last)

/-- Reads the content of a file in the format that its name tells: TOML, YAML or JSON. Other formats that a loader may
know (INI, RON, JSON5) are left out: a file with their names counts as unreadable. -/
def readDocument (extension : String) (s : List Char) : Option Document :=
  if extension = "toml" then Toml.read s
  else if extension = "yaml" ∨ extension = "yml" then Yaml.read s
  else if extension = "json" then (Decoder.any.run (String.ofList s)).toOption.map Document.ofJson
  else none

/-- The settings in a file. -/
def ofFile (f : SettingsFile) : Option Layer := do
  let content ← f.content
  let extension ← extension? f.name
  let s := match content.toList with
    | '\uFEFF' :: s => s
    | s => s
  match readDocument extension s with
  | some (.table entries) => some (entries.map entry)
  | _ => none

/-- The first value that layers have for a setting. -/
def raw (layers : List Layer) (name : String) : Option Document := layers.findSome? fun l => l.lookup name

/-- A setting as a text. -/
def textSetting (layers : List Layer) (name standard : String) : Option String :=
  match raw layers name with
  | some d => d.text?
  | none => some standard

/-- A setting as a text that need not be there. -/
def openSetting (layers : List Layer) (name : String) : Option (Option String) :=
  match raw layers name with
  | none | some .nothing => some none
  | some d => d.text?.map some

/-- A setting as a number. -/
def naturalSetting (layers : List Layer) (name : String) (standard : Nat) : Option Nat :=
  match raw layers name with
  | some d => d.natural?
  | none => some standard

/-- The settings that layers give over the standard ones. -/
def ofLayers (layers : List Layer) (s : Settings) : Option Settings := do
  let coreUrl ← textSetting layers "core_api_url" s.coreUrl
  let identityUrl ← textSetting layers "idp_api_url" s.identityUrl
  let analyticsUrl ← textSetting layers "analytics_api_url" s.analyticsUrl
  let storageUrl ← textSetting layers "storage_api_url" s.storageUrl
  let timeout ← naturalSetting layers "timeout_secs" s.timeout
  let userAgent ← textSetting layers "user_agent" s.userAgent
  let apiKey ← openSetting layers "api_key"
  let storageDirectory ← textSetting layers "storage_dir" s.storageDirectory
  some { coreUrl, identityUrl, analyticsUrl, storageUrl, timeout, userAgent, apiKey, storageDirectory }

/-- Settings from layers, if they are in order. -/
def load (env : Environment) (layers : List Layer) : Except Defect Settings :=
  match ofLayers layers (standard env) with
  | none => .error .unreadable
  | some s => do
    s.validate
    .ok s

/-- Settings from the environment. -/
def fromEnvironment (env : Environment) : Except Defect Settings := load env [ofEnvironment env]

/-- Settings from a file and the environment. -/
def fromFile (env : Environment) (f : SettingsFile) : Except Defect Settings :=
  match ofFile f with
  | none => .error .unreadable
  | some layer => load env [ofEnvironment env, layer]

end HostingClient.Settings
