import HostingClient.Proofs.Json.Written
import HostingClient.Proofs.Outcome
import HostingClient.Settings.Load

/-! # Layers of settings

Each setting has a raw value: that of its variable, else that of the file, else the standard one. What is loaded is
decided by the raw values alone: each of them must convert to the type of its setting, and the settings must be in order
(`Sources.loads_iff`). -/

namespace HostingClient.Settings

/-! ### Names -/

/-- Whether a name is no path. -/
def IsPlain (name : String) : Prop := ∀ c ∈ name.toList, c ≠ '.' ∧ c ≠ '['

instance (name : String) : Decidable (IsPlain name) := List.decidableBAll _ name.toList

theorem isPathRest_of_ne {c : Char} (hdot : c ≠ '.') (hbracket : c ≠ '[') (s : List Char) :
    ∀ fuel, isPathRest fuel (c :: s) = false
  | 0 => rfl
  | fuel + 1 => by
    unfold isPathRest
    split
    · rfl
    · next h _ => cases h
    · next h => cases h; exact absurd rfl hdot
    · next h => cases h; exact absurd rfl hbracket
    · rfl

theorem entry_of_plain {e : String × Document} (h : IsPlain e.1) : entry e = e := by
  unfold entry
  dsimp only
  split
  · next hpath =>
    simp only [Bool.and_eq_true] at hpath
    obtain ⟨⟨-, hrest⟩, hpath⟩ := hpath
    -- the rest of a path starts with a dot or a bracket
    obtain ⟨c, s, hcons⟩ : ∃ c s, e.1.toList.drop (e.1.toList.takeWhile isNameChar).length = c :: s := by
      refine List.exists_cons_of_ne_nil fun hnil => ?_
      rw [hnil] at hrest
      cases hrest
    have hc := h c (List.mem_of_mem_drop (hcons ▸ List.mem_cons_self))
    rw [hcons, isPathRest_of_ne hc.1 hc.2] at hpath
    cases hpath
  · rfl

/-- The setting that a variable is for, if any. Case does not count in its name. -/
def settingOf? (name : String) : Option String :=
  let name := name.toList.map lowerName
  if variableStart.isPrefixOf name then some (String.ofList (name.drop variableStart.length)) else none

theorem ofVariable_eq (v : String × String) :
    ofVariable v = (settingOf? v.1).map fun key => entry (key, .text v.2) := by
  unfold ofVariable settingOf?
  dsimp only
  split <;> rfl

/-- The settings that there are variables for. -/
def settingsOf (env : Environment) : List String := env.filterMap fun v => settingOf? v.1

/-- The value of the variable for a setting. -/
def variableValue (env : Environment) (key : String) : Option String :=
  (env.find? fun v => settingOf? v.1 = some key).map (·.2)

/-! ### The environment -/

theorem lookup_append {l l' : Layer} {key : String} : (l ++ l').lookup key = (l.lookup key).or (l'.lookup key) := by
  induction l with
  | nil => rfl
  | cons e l ih =>
    obtain ⟨k, d⟩ := e
    rw [List.cons_append, List.lookup_cons, List.lookup_cons, ih]
    cases key == k <;> rfl

section
variable {env : Environment} {v : String × String} {key : String}

theorem settingsOf_cons : settingsOf (v :: env) = (settingOf? v.1).toList ++ settingsOf env := by
  rw [settingsOf, List.filterMap_cons]
  cases settingOf? v.1 <;> rfl

theorem variableValue_cons :
    variableValue (v :: env) key = if settingOf? v.1 = some key then some v.2 else variableValue env key := by
  rw [variableValue, List.find?_cons]
  by_cases hv : settingOf? v.1 = some key
  · rw [decide_eq_true hv, if_pos hv]
    rfl
  · rw [decide_eq_false hv, if_neg hv]
    rfl

theorem ofEnvironment_cons : ofEnvironment (v :: env) = ofEnvironment env ++ (ofVariable v).toList := by
  unfold ofEnvironment
  cases hv : ofVariable v with
  | none => rw [List.filterMap_cons_none hv, Option.toList_none, List.append_nil]
  | some e => rw [List.filterMap_cons_some hv, List.reverse_cons, Option.toList_some]

theorem variableValue_eq_none (h : key ∉ settingsOf env) : variableValue env key = none := by
  rw [variableValue, Option.map_eq_none_iff, List.find?_eq_none]
  intro v hv hkey
  exact h (List.mem_filterMap.mpr ⟨v, hv, of_decide_eq_true hkey⟩)

end

/-- Where each setting has one variable, the layer of the environment has the values of the variables. -/
theorem lookup_ofEnvironment (key : String) : ∀ {env : Environment}, (∀ name ∈ settingsOf env, IsPlain name) →
    (settingsOf env).Nodup → (ofEnvironment env).lookup key = (variableValue env key).map .text
  | [], _, _ => rfl
  | v :: env, hplain, hnodup => by
    rw [settingsOf_cons] at hplain hnodup
    have ih := lookup_ofEnvironment key (fun name hname => hplain name (List.mem_append_right _ hname))
      (List.nodup_append.mp hnodup).2.1
    rw [ofEnvironment_cons, lookup_append, variableValue_cons, ih, ofVariable_eq]
    cases hv : settingOf? v.1 with
    | none => simp
    | some k =>
      rw [hv, Option.toList_some, List.singleton_append] at hplain hnodup
      have hk : IsPlain k := hplain k List.mem_cons_self
      rw [Option.map_some, entry_of_plain hk, Option.toList_some, List.lookup_cons]
      by_cases hkey : k = key
      · subst hkey
        rw [variableValue_eq_none (List.nodup_cons.mp hnodup).1]
        simp
      · have hne : (key == k) = false := beq_eq_false_iff_ne.mpr (Ne.symm hkey)
        rw [hne, if_neg fun h => hkey (Option.some.inj h)]
        exact Option.or_none

/-! ### Raw values -/

/-- The standard settings as raw values. A key is not among them. -/
def standardLayer (s : Settings) : Layer :=
  [("core_api_url", .text s.coreUrl), ("idp_api_url", .text s.identityUrl), ("analytics_api_url", .text s.analyticsUrl),
    ("storage_api_url", .text s.storageUrl), ("timeout_secs", .integer s.timeout), ("user_agent", .text s.userAgent),
    ("storage_dir", .text s.storageDirectory)]

/-- A raw value as a text that need not be there. -/
def openText? : Option Document → Option (Option String)
  | none | some .nothing => some none
  | some d => d.text?.map some

/-- Whether raw values convert to settings. -/
structure Converts (raw : String → Option Document) (c : Settings) : Prop where
  coreUrl : (raw "core_api_url").bind Document.text? = some c.coreUrl
  identityUrl : (raw "idp_api_url").bind Document.text? = some c.identityUrl
  analyticsUrl : (raw "analytics_api_url").bind Document.text? = some c.analyticsUrl
  storageUrl : (raw "storage_api_url").bind Document.text? = some c.storageUrl
  timeout : (raw "timeout_secs").bind Document.natural? = some c.timeout
  userAgent : (raw "user_agent").bind Document.text? = some c.userAgent
  apiKey : openText? (raw "api_key") = some c.apiKey
  storageDirectory : (raw "storage_dir").bind Document.text? = some c.storageDirectory

/-- The settings that raw values convert to. -/
def convert (raw : String → Option Document) : Option Settings := do
  let coreUrl ← (raw "core_api_url").bind Document.text?
  let identityUrl ← (raw "idp_api_url").bind Document.text?
  let analyticsUrl ← (raw "analytics_api_url").bind Document.text?
  let storageUrl ← (raw "storage_api_url").bind Document.text?
  let timeout ← (raw "timeout_secs").bind Document.natural?
  let userAgent ← (raw "user_agent").bind Document.text?
  let apiKey ← openText? (raw "api_key")
  let storageDirectory ← (raw "storage_dir").bind Document.text?
  some { coreUrl, identityUrl, analyticsUrl, storageUrl, timeout, userAgent, apiKey, storageDirectory }

theorem convert_eq_some_iff {raw : String → Option Document} {c : Settings} :
    convert raw = some c ↔ Converts raw c := by
  unfold convert
  constructor
  · intro h
    obtain ⟨_, hcore, h⟩ := Option.bind_eq_some_iff.mp h
    obtain ⟨_, hidentity, h⟩ := Option.bind_eq_some_iff.mp h
    obtain ⟨_, hanalytics, h⟩ := Option.bind_eq_some_iff.mp h
    obtain ⟨_, hstorage, h⟩ := Option.bind_eq_some_iff.mp h
    obtain ⟨_, htimeout, h⟩ := Option.bind_eq_some_iff.mp h
    obtain ⟨_, hagent, h⟩ := Option.bind_eq_some_iff.mp h
    obtain ⟨_, hkey, h⟩ := Option.bind_eq_some_iff.mp h
    obtain ⟨_, hdirectory, h⟩ := Option.bind_eq_some_iff.mp h
    cases h
    exact ⟨hcore, hidentity, hanalytics, hstorage, htimeout, hagent, hkey, hdirectory⟩
  · intro h
    rw [h.coreUrl, h.identityUrl, h.analyticsUrl, h.storageUrl, h.timeout, h.userAgent, h.apiKey, h.storageDirectory]
    rfl

/-- Only the raw values of settings count. -/
theorem convert_congr {raw raw' : String → Option Document} (h : ∀ key ∈ record.fields.names, raw key = raw' key) :
    convert raw = convert raw' := by
  unfold convert
  rw [h "core_api_url" (by decide), h "idp_api_url" (by decide), h "analytics_api_url" (by decide),
    h "storage_api_url" (by decide), h "timeout_secs" (by decide), h "user_agent" (by decide),
    h "api_key" (by decide), h "storage_dir" (by decide)]

/-- The settings that raw values convert to, if they are in order. -/
def ofRaw (raw : String → Option Document) : Except Defect Settings :=
  match convert raw with
  | none => .error .unreadable
  | some c => do
    c.validate
    .ok c

theorem ofRaw_eq_ok_iff {raw : String → Option Document} {c : Settings} :
    ofRaw raw = .ok c ↔ Converts raw c ∧ c.validate = .ok () := by
  rw [← convert_eq_some_iff]
  unfold ofRaw
  cases convert raw with
  | none => exact iff_of_false (fun h => by cases h) fun h => by cases h.1
  | some c' =>
    constructor
    · intro h
      obtain ⟨_, hvalid, h⟩ := bind_eq_ok.mp h
      cases h
      exact ⟨rfl, hvalid⟩
    · rintro ⟨h, hvalid⟩
      cases h
      exact bind_eq_ok.mpr ⟨(), hvalid, rfl⟩

theorem checkUrl_eq_ok_iff {name value : String} :
    checkUrl name value = .ok () ↔ ∃ url, Url.read value = .ok url := by
  unfold checkUrl
  cases Url.read value with
  | error f => exact iff_of_false (fun h => by cases h) fun ⟨_, h⟩ => by cases h
  | ok url => exact iff_of_true rfl ⟨url, rfl⟩

theorem checkUrls_eq_ok_iff : ∀ {us : List (String × String)},
    (us.forM fun u => checkUrl u.1 u.2) = .ok () ↔ ∀ u ∈ us, ∃ url, Url.read u.2 = .ok url
  | [] => iff_of_true rfl (List.forall_mem_nil _)
  | u :: us => by
    rw [List.forall_mem_cons, ← checkUrls_eq_ok_iff, ← checkUrl_eq_ok_iff]
    constructor
    · intro h
      obtain ⟨_, hu, hus⟩ := bind_eq_ok.mp h
      exact ⟨hu, hus⟩
    · rintro ⟨hu, hus⟩
      exact bind_eq_ok.mpr ⟨(), hu, hus⟩

/-- Settings are in order if the addresses can be read and the time limit is positive. -/
theorem validate_eq_ok_iff {c : Settings} :
    c.validate = .ok () ↔ (∀ u ∈ c.urls, ∃ url, Url.read u.2 = .ok url) ∧ 0 < c.timeout := by
  rw [← checkUrls_eq_ok_iff, Nat.pos_iff_ne_zero]
  unfold validate
  constructor
  · intro h
    obtain ⟨_, hus, h⟩ := bind_eq_ok.mp h
    refine ⟨hus, fun hzero => ?_⟩
    rw [if_pos hzero] at h
    cases h
  · rintro ⟨hus, hpos⟩
    refine bind_eq_ok.mpr ⟨(), hus, ?_⟩
    rw [if_neg hpos]
    rfl

/-! ### Loading -/

theorem textSetting_eq (layers : List Layer) (name standard : String) : textSetting layers name standard =
    ((raw layers name).or (some (.text standard))).bind Document.text? := by
  unfold textSetting
  cases raw layers name <;> rfl

theorem naturalSetting_eq (layers : List Layer) (name : String) (standard : Nat) :
    naturalSetting layers name standard =
      ((raw layers name).or (some (.integer standard))).bind Document.natural? := by
  unfold naturalSetting
  cases raw layers name <;> rfl

theorem openSetting_eq (layers : List Layer) (name : String) :
    openSetting layers name = openText? ((raw layers name).or none) := by
  rw [Option.or_none]
  unfold openSetting
  cases raw layers name with
  | none => rfl
  | some d => cases d <;> rfl

theorem load_eq (env : Environment) (layers : List Layer) : load env layers =
    ofRaw fun key => (raw layers key).or ((standardLayer (standard env)).lookup key) := by
  have hlayers : ofLayers layers (standard env) =
      convert fun key => (raw layers key).or ((standardLayer (standard env)).lookup key) := by
    unfold ofLayers
    simp only [textSetting_eq, naturalSetting_eq, openSetting_eq]
    rfl
  rw [load, hlayers]
  rfl

theorem raw_cons (l : Layer) (layers : List Layer) (key : String) :
    raw (l :: layers) key = (l.lookup key).or (raw layers key) := by
  unfold raw
  rw [List.findSome?_cons]
  cases l.lookup key <;> rfl

/-- What a text is without the mark of its byte order. -/
def unmarked : List Char → List Char
  | '\uFEFF' :: s => s
  | s => s

/-- Whether a file can be read and holds a table in its format. -/
def SettingsFile.Holds (f : SettingsFile) (table : Layer) : Prop :=
  ∃ content extension, f.content = some content ∧ extension? f.name = some extension ∧
    readDocument extension (unmarked content.toList) = some (.table table)

theorem SettingsFile.Holds.ofFile_eq {f : SettingsFile} {table : Layer} (h : f.Holds table)
    (hplain : ∀ e ∈ table, IsPlain e.1) : ofFile f = some table := by
  obtain ⟨content, extension, hcontent, hextension, htable⟩ := h
  have hentries : table.map entry = table := by
    rw [List.map_congr_left fun e he => entry_of_plain (hplain e he), List.map_id']
  simp only [ofFile, hcontent, hextension, Option.bind_eq_bind, Option.bind_some]
  split
  · next entries hread =>
    cases htable.symm.trans hread
    exact congrArg some hentries
  · next hother => exact absurd htable (hother table)

/-- The variables and the table of a file that settings are loaded from. No name in them is a path, and no setting has
two variables. -/
structure Sources where
  env : Environment
  table : Layer
  isPlain_env : ∀ key ∈ settingsOf env, IsPlain key
  isPlain_table : ∀ e ∈ table, IsPlain e.1
  nodup_env : (settingsOf env).Nodup

namespace Sources
variable {s s' : Sources} {x x' : Except Defect Settings} {f : SettingsFile} {c : Settings}

/-- The raw value of a setting: that of its variable, else that of the file, else the standard one. -/
def raw (s : Sources) (key : String) : Option Document :=
  ((variableValue s.env key).map .text).or ((s.table.lookup key).or ((standardLayer (standard s.env)).lookup key))

/-- What loading settings from the file and the environment gives, and what loading them from the environment alone
gives if there is no table. -/
inductive Loads (s : Sources) : Except Defect Settings → Prop where
  | file {f : SettingsFile} (h : f.Holds s.table) : s.Loads (fromFile s.env f)
  | environment (h : s.table = []) : s.Loads (fromEnvironment s.env)

/-- What is loaded is what the raw values give. -/
theorem Loads.eq (h : s.Loads x) : x = ofRaw s.raw := by
  have henv := fun key => lookup_ofEnvironment key s.isPlain_env s.nodup_env
  cases h with
  | file h =>
    rw [fromFile, h.ofFile_eq s.isPlain_table]
    show load s.env [ofEnvironment s.env, s.table] = _
    rw [load_eq]
    congr 1
    funext key
    rw [raw_cons, raw_cons, henv, raw, Option.or_assoc, Settings.raw, List.findSome?_nil, Option.or_none]
  | environment h =>
    rw [fromEnvironment, load_eq]
    congr 1
    funext key
    rw [raw_cons, henv, raw, Settings.raw, List.findSome?_nil, Option.or_none, h, List.lookup_nil, Option.none_or]

/-- **Layers count setting by setting.** Loading succeeds exactly if the raw value of every setting converts and the
settings that come of it are in order, and then it gives these. Where the raw values of the settings are the same, so is
what is loaded, whatever else there is. Loaded settings have addresses that can be read and a positive time limit. -/
theorem loads_iff (h : s.Loads x) :
    (∀ c, x = .ok c ↔ Converts s.raw c ∧ c.validate = .ok ()) ∧
      (∀ (s' : Sources) x', s'.Loads x' → (∀ key ∈ record.fields.names, s.raw key = s'.raw key) → x = x') ∧
      ∀ c, x = .ok c → (∀ u ∈ c.urls, ∃ url, Url.read u.2 = .ok url) ∧ 0 < c.timeout := by
  have hok : ∀ c, x = .ok c ↔ Converts s.raw c ∧ c.validate = .ok () := fun c => by
    rw [h.eq, ofRaw_eq_ok_iff]
  refine ⟨hok, fun s' x' h' hraw => ?_, fun c hc => validate_eq_ok_iff.mp ((hok c).mp hc).2⟩
  rw [h.eq, h'.eq, ofRaw, ofRaw, convert_congr hraw]

end Sources

/-! ### A shadowed value of the wrong type -/

/-- Variables for the time limit and the key, in two spellings, and for a setting that there is not. -/
def someVariables : Environment :=
  [("HOME", "/home/ann"), ("FANCYSPACES_COLOR", "blue"), ("FancySpaces_Timeout_Secs", "5"),
    ("FANCYSPACES_API_KEY", "k-1")]

/-- A file with a list for the time limit, and with a setting that there is not. -/
def shadowedFile : Json :=
  .object [("colors", .bool true), ("core_api_url", .text "http://localhost:8080/api/v1"), ("timeout_secs", .array [])]

/-- The file without these. -/
def bareFile : Json := .object [("core_api_url", .text "http://localhost:8080/api/v1")]

/-- What both give. -/
def loadedSettings : Settings :=
  { standard someVariables with coreUrl := "http://localhost:8080/api/v1", timeout := 5, apiKey := some "k-1" }

def shadowed : Sources where
  env := someVariables
  table := [("colors", .flag true), ("core_api_url", .text "http://localhost:8080/api/v1"), ("timeout_secs", .list [])]
  isPlain_env := by decide +kernel
  isPlain_table := by decide +kernel
  nodup_env := by decide +kernel

def bare : Sources where
  env := someVariables
  table := [("core_api_url", .text "http://localhost:8080/api/v1")]
  isPlain_env := by decide +kernel
  isPlain_table := by decide +kernel
  nodup_env := by decide +kernel

theorem holds_json {j : Json} {table : Layer} (hj : Json.Whole j) (hany : Decoder.any .ofText j.outline = .ok j)
    (htable : Document.ofJson j = .table table) (hmark : unmarked j.compact.toList = j.compact.toList) :
    SettingsFile.Holds ⟨"client.json", some j.compact⟩ table := by
  have hextension : extension? "client.json" = some "json" := by decide +kernel
  refine ⟨j.compact, "json", rfl, hextension, ?_⟩
  rw [hmark, readDocument, if_neg (by decide), if_neg (by decide), if_pos rfl, String.ofList_toList,
    Decoder.run_compact _ hj, hany]
  exact congrArg some htable

theorem Sources.loads_iff_shadowed :
    let x := fromFile someVariables ⟨"client.json", some shadowedFile.compact⟩
    let x' := fromFile someVariables ⟨"client.json", some bareFile.compact⟩
    (shadowed.Loads x ∧ bare.Loads x' ∧ ∀ key ∈ record.fields.names, shadowed.raw key = bare.raw key) ∧
      (Converts shadowed.raw loadedSettings ∧ loadedSettings.validate = .ok ()) ∧
      (x = .ok loadedSettings ∧ x' = x) ∧ 0 < loadedSettings.timeout := by
  intro x x'
  have hx : shadowed.Loads x := .file (holds_json (by simp [shadowedFile, Json.Whole, Json.WholeMembers,
    Json.WholeItems]) rfl rfl rfl)
  have hx' : bare.Loads x' := .file (holds_json (by simp [bareFile, Json.Whole, Json.WholeMembers]) rfl rfl rfl)
  have hraw : ∀ key ∈ record.fields.names, shadowed.raw key = bare.raw key := by
    intro key hkey
    have hcolors : (key == "colors") = false := beq_eq_false_iff_ne.mpr fun h => by
      revert hkey
      rw [h]
      decide
    show ((variableValue someVariables key).map Document.text).or _ =
      ((variableValue someVariables key).map Document.text).or _
    cases hv : variableValue someVariables key with
    | some v => rfl
    | none =>
      have htimeout : (key == "timeout_secs") = false := beq_eq_false_iff_ne.mpr fun h => by
        rw [h] at hv
        revert hv
        decide +kernel
      simp only [shadowed, bare, List.lookup_cons, hcolors, htimeout, List.lookup_nil]
  have hconverts : Converts shadowed.raw loadedSettings := by
    constructor <;> decide +kernel
  have hvalid : loadedSettings.validate = .ok () := by
    have hurls : ∀ u ∈ loadedSettings.urls, (Url.read u.2).toOption.isSome = true := by decide +kernel
    exact validate_eq_ok_iff.mpr ⟨fun u hu => exists_eq_ok (hurls u hu), by decide⟩
  obtain ⟨hload, hsame, hgood⟩ := loads_iff hx
  have hok := (hload loadedSettings).mpr ⟨hconverts, hvalid⟩
  exact ⟨⟨hx, hx', hraw⟩, ⟨hconverts, hvalid⟩, ⟨hok, (hsame bare x' hx' hraw).symm⟩, (hgood _ hok).2⟩

end HostingClient.Settings
