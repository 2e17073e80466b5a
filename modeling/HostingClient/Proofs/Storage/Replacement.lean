import HostingClient.Proofs.Storage.File

/-! # Changes of a file are whole or not made

A change of the items in a file takes several steps, each of which can fail: reading the old text, making the
directory, and making, writing, syncing and renaming the temporary file. If one fails, the change fails; what stands at
the path of the file and the names in its directory are those of before. If none fails, the file holds all the new
items, and no name in the directory is new but its own (`StorageCall.perform_whole`). -/

namespace HostingClient

namespace FileSystem

variable {fs later : FileSystem} {p q path : Path} {n : FileNode}

/-! ### Directories on the way to a file -/

/-- The later file system has some more directories, on the way to a path, where nothing stood before. -/
structure Opens (path : Path) (fs later : FileSystem) : Prop where
  refuses : later.refuses = fs.refuses
  workingDirectory : later.workingDirectory = fs.workingDirectory
  nodes : ∃ made : List Path, later.nodes = made.map (·, .directory) ++ fs.nodes ∧ ∀ p ∈ made, p <+: path ∧ p ≠ []

/-- Directories that are put where nothing stands come in front of all else. -/
theorem nodes_putAll {base : List (Path × FileNode)} : ∀ (ps : List Path) {fs : FileSystem} {made : List Path},
    fs.nodes = made.map (·, .directory) ++ base → (∀ p ∈ ps, ∀ e ∈ base, e.1 ≠ p) →
    ∃ made' : List Path, (ps.foldl (fun fs p => fs.put p .directory) fs).nodes = made'.map (·, .directory) ++ base ∧
      ∀ p ∈ made', p ∈ made ∨ p ∈ ps
  | [], _, made, h, _ => ⟨made, h, fun _ hp => .inl hp⟩
  | p :: ps, fs, made, h, hfree => by
    have hbase : base.filter (fun e => e.1 != p) = base :=
      List.filter_eq_self.mpr fun e he => by simpa using hfree p List.mem_cons_self e he
    have hput : (fs.put p .directory).nodes = (p :: made.filter (· != p)).map (·, .directory) ++ base := by
      unfold put drop
      rw [h, List.filter_append, hbase, List.filter_map]
      rfl
    obtain ⟨made', hnodes, hmade⟩ := nodes_putAll ps hput fun q hq => hfree q (List.mem_cons_of_mem p hq)
    refine ⟨made', hnodes, fun q hq => ?_⟩
    rcases hmade q hq with hq | hq
    · rcases List.mem_cons.mp hq with rfl | hq
      · exact .inr List.mem_cons_self
      · exact .inl (List.mem_filter.mp hq).1
    · exact .inr (List.mem_cons_of_mem p hq)

theorem ne_of_node?_eq_none (h : fs.node? p = none) : p ≠ [] ∧ ∀ e ∈ fs.nodes, e.1 ≠ p := by
  unfold node? at h
  split at h
  · cases h
  · next hp =>
    refine ⟨hp, fun e he heq => ?_⟩
    exact absurd heq.symm (by simpa using List.lookup_eq_none_iff.mp h e he)

theorem opens_makeDirectories (h : fs.makeDirectories path = some later) : Opens path fs later := by
  unfold makeDirectories at h
  dsimp only at h
  split at h
  · cases h
  · split at h
    · cases h
    · cases h
      obtain ⟨hrefuses, hworking, -⟩ := extends_putAll ((steps path).filter fun p => (fs.node? p).isNone) fs
      have hfree : ∀ p ∈ (steps path).filter fun p => (fs.node? p).isNone, ∀ e ∈ fs.nodes, e.1 ≠ p := fun p hp =>
        (ne_of_node?_eq_none (Option.isNone_iff_eq_none.mp (List.mem_filter.mp hp).2)).2
      have hstart : fs.nodes = ([] : List Path).map (·, .directory) ++ fs.nodes := rfl
      obtain ⟨made, hnodes, hmade⟩ := nodes_putAll _ hstart hfree
      refine ⟨hrefuses, hworking, made, hnodes, fun p hp => ?_⟩
      have hstep := (hmade p hp).resolve_left List.not_mem_nil
      exact mem_steps.mp (List.mem_filter.mp hstep).1

namespace Opens

theorem node?_eq (h : Opens path fs later) (hq : ¬ q <+: path) : later.node? q = fs.node? q := by
  obtain ⟨made, hnodes, hmade⟩ := h.nodes
  have hnone : (made.map ((·, FileNode.directory) : Path → Path × FileNode)).lookup q = none := by
    refine List.lookup_eq_none_iff.mpr fun e he => ?_
    obtain ⟨p, hp, rfl⟩ := List.mem_map.mp he
    have hne : q ≠ p := fun heq => hq (heq ▸ (hmade p hp).1)
    simpa using hne
  unfold node?
  rw [hnodes, List.lookup_append, hnone, Option.none_or]

theorem isBarred_eq (h : Opens path fs later) (q : Path) : later.isBarred q = fs.isBarred q := by
  obtain ⟨made, hnodes, -⟩ := h.nodes
  have hmade : (made.map ((·, FileNode.directory) : Path → Path × FileNode)).any
      (fun e => e.2 ≠ .directory && e.1.isPrefixOf q && e.1 != q) = false := by
    rw [List.any_map, List.any_eq_false]
    simp
  unfold isBarred
  rw [hnodes, List.any_append, hmade, Bool.false_or]

/-- The directories on the way to a directory are not in it. -/
theorem list_eq (h : Opens path fs later) : later.list path = fs.list path := by
  obtain ⟨made, hnodes, hmade⟩ := h.nodes
  have hnone : (made.map ((·, FileNode.directory) : Path → Path × FileNode)).filterMap
      (fun e => if e.1 ≠ [] ∧ e.1.dropLast = path then e.1.getLast? else none) = [] := by
    rw [List.filterMap_map, List.filterMap_eq_nil_iff]
    intro p hp
    obtain ⟨hpre, hne⟩ := hmade p hp
    refine if_neg fun hin => ?_
    have hlen := hpre.length_le
    have hpos := List.length_pos_iff.mpr hne
    have hdirectory := congrArg List.length hin.2
    rw [List.length_dropLast] at hdirectory
    dsimp only at hdirectory
    omega
  unfold list
  rw [hnodes, List.filterMap_append, hnone, List.nil_append]

end Opens

theorem readText_congr (hrefuses : later.refuses .read = fs.refuses .read) (hbarred : later.isBarred q = fs.isBarred q)
    (hnode : later.node? q = fs.node? q) : later.readText q = fs.readText q := by
  unfold readText readBytes
  rw [hrefuses, hbarred, hnode]

/-- What can be read or is missing is barred neither by the device nor by a file. -/
theorem willing_of_readText (h : fs.readText q ≠ .error .other) : fs.refuses .read = false ∧ fs.isBarred q = false := by
  rw [← Bool.or_eq_false_iff]
  cases hbar : fs.refuses .read || fs.isBarred q with
  | false => rfl
  | true =>
    refine absurd ?_ h
    unfold readText readBytes
    rw [if_pos hbar]
    rfl

theorem readText_encode (hrefuses : fs.refuses .read = false) (hbarred : fs.isBarred q = false) {text : List Char}
    (hnode : fs.node? q = some (.file (Text.Utf8.encode text))) : fs.readText q = .ok text := by
  have hbytes : fs.readBytes q = .ok (Text.Utf8.encode text) := by
    unfold readBytes
    rw [hrefuses, hbarred, if_neg nofun, hnode]
  unfold readText
  rw [hbytes]
  dsimp only [bind, Except.bind]
  rw [Text.Utf8.decode?_encode]

/-! ### Replacing a file -/

/-- The steps at which a file cannot be replaced. -/
inductive Hinders (fs : FileSystem) (path : Path) : DeviceStep → Prop where
  | createTemporary (h : fs.createTemporary path.dropLast = none) : Hinders fs path .createTemporary
  | write (h : fs.refuses .write = true) : Hinders fs path .write
  | sync (h : fs.refuses .sync = true) : Hinders fs path .sync
  /-- A file cannot be renamed to a directory. -/
  | rename (h : fs.refuses .rename = true ∨ fs.node? path = some .directory) : Hinders fs path .rename

theorem createTemporary_eq_some {directory temporary : Path}
    (h : fs.createTemporary directory = some (temporary, later)) :
    later = fs.put temporary (.file []) ∧ temporary ≠ [] ∧ ∀ e ∈ fs.nodes, e.1 ≠ temporary := by
  unfold createTemporary at h
  split at h
  · cases h
  · cases h
    exact ⟨rfl, by simp, ne_temporary directory⟩

/-- Once there is a temporary file, the other steps decide. What was put for it is dropped or renamed. -/
theorem replaceFile_of_temporary {temporary : Path} (h : fs.createTemporary path.dropLast = some (temporary, later))
    (content : List UInt8) : fs.replaceFile path content =
      if fs.refuses .write = true ∨ fs.refuses .sync = true ∨ fs.refuses .rename = true ∨
          fs.node? path = some .directory then (.error (), fs)
      else (.ok (), fs.put path (.file content)) := by
  obtain ⟨rfl, hne, hfresh⟩ := createTemporary_eq_some h
  have hdrop : ∀ n, (fs.put temporary n).drop temporary = fs := fun n => drop_put hfresh
  have hnode : (fs.put temporary (.file content)).node? path = some .directory ↔ fs.node? path = some .directory := by
    rw [node?_put hne]
    split
    · next heq =>
      refine iff_of_false nofun fun hdirectory => ?_
      unfold node? at hdirectory
      rw [if_neg (heq ▸ hne)] at hdirectory
      obtain ⟨before, after, hnodes, -⟩ := List.lookup_eq_some_iff.mp hdirectory
      exact hfresh (path, .directory) (by rw [hnodes]; simp) heq
    · rfl
  unfold replaceFile
  rw [h]
  dsimp only
  by_cases hwrite : fs.refuses .write = true
  · have hnone : (fs.put temporary (.file [])).write temporary content = none := if_pos hwrite
    rw [hnone, if_pos (.inl hwrite)]
    dsimp only
    rw [hdrop]
  have hwritten : (fs.put temporary (.file [])).write temporary content = some (fs.put temporary (.file content)) := by
    rw [← put_put (n := .file []) (m := .file content)]
    exact if_neg hwrite
  rw [hwritten]
  dsimp only
  by_cases hsync : fs.refuses .sync = true
  · have hnone : (fs.put temporary (.file content)).sync = none := if_pos hsync
    rw [hnone, if_pos (.inr (.inl hsync))]
    dsimp only
    rw [hdrop]
  have hsynced : (fs.put temporary (.file content)).sync = some (fs.put temporary (.file content)) := if_neg hsync
  rw [hsynced]
  dsimp only
  by_cases hrename : fs.refuses .rename = true ∨ fs.node? path = some .directory
  · have hnone : (fs.put temporary (.file content)).rename temporary path = none := by
      unfold rename
      rw [if_pos]
      rw [Bool.or_eq_true, decide_eq_true_eq, hnode]
      exact hrename
    rw [hnone, if_pos (.inr (.inr hrename))]
    dsimp only
    rw [hdrop]
  have hrenamed : (fs.put temporary (.file content)).rename temporary path = some (fs.put path (.file content)) := by
    unfold rename
    rw [if_neg, node?_put hne, if_pos rfl, hdrop]
    rw [Bool.or_eq_true, decide_eq_true_eq, hnode]
    exact hrename
  rw [hrenamed, if_neg]
  rintro (h | h | h)
  · exact hwrite h
  · exact hsync h
  · exact hrename h

theorem replaceFile_of_hinders {step : DeviceStep} (h : fs.Hinders path step) (content : List UInt8) :
    fs.replaceFile path content = (.error (), fs) := by
  cases hcreate : fs.createTemporary path.dropLast with
  | none =>
    unfold replaceFile
    rw [hcreate]
  | some created =>
    rw [replaceFile_of_temporary hcreate, if_pos]
    cases h with
    | createTemporary h =>
      rw [hcreate] at h
      cases h
    | write h => exact .inl h
    | sync h => exact .inr (.inl h)
    | rename h => exact .inr (.inr h)

theorem replaceFile_of_not_hinders (h : ∀ step, ¬ fs.Hinders path step) (content : List UInt8) :
    fs.replaceFile path content = (.ok (), fs.put path (.file content)) := by
  cases hcreate : fs.createTemporary path.dropLast with
  | none => exact absurd (.createTemporary hcreate) (h .createTemporary)
  | some created =>
    rw [replaceFile_of_temporary hcreate, if_neg]
    rintro (hstep | hstep | hstep)
    · exact h .write (.write hstep)
    · exact h .sync (.sync hstep)
    · exact h .rename (.rename hstep)

/-- A file that is put into a directory brings its own name at most. -/
theorem mem_list_put (directory : Path) (name other : String) :
    other ∈ (fs.put (directory ++ [name]) n).list directory ↔ other = name ∨ other ∈ fs.list directory := by
  have hown : directory ++ [name] ≠ [] ∧ (directory ++ [name]).dropLast = directory := ⟨by simp, by simp⟩
  unfold list put drop
  rw [List.filterMap_cons]
  dsimp only
  rw [if_pos hown, List.getLast?_concat, List.mem_cons]
  simp only [List.mem_filterMap, List.mem_filter]
  constructor
  · rintro (h | ⟨e, ⟨he, -⟩, hname⟩)
    · exact .inl h
    · exact .inr ⟨e, he, hname⟩
  · rintro (h | ⟨e, he, hname⟩)
    · exact .inl h
    · by_cases heq : e.1 = directory ++ [name]
      · rw [heq, if_pos hown, List.getLast?_concat] at hname
        exact .inl (Option.some.inj hname).symm
      · exact .inr ⟨e, ⟨he, by rwa [bne_iff_ne]⟩, hname⟩

end FileSystem

namespace FileStorage

/-! ### Changes of the items -/

/-- The steps at which a change of the items in a file fails. -/
inductive FailsAt (s : FileStorage) : DeviceStep → Prop where
  /-- What stands at the path cannot be read as a text. A text that holds no items does not count: it is replaced. -/
  | read (h : s.disk.readText s.location = .error .other) : FailsAt s .read
  | createDirectory (h : s.disk.makeDirectories s.location.dropLast = none) : FailsAt s .createDirectory
  | replacement {made : FileSystem} {step : DeviceStep} (hmade : s.disk.makeDirectories s.location.dropLast = some made)
    (h : made.Hinders s.location step) : FailsAt s step

/-- The storage on a device that refuses other steps. -/
def onDevice (s : FileStorage) (refuses : DeviceStep → Bool) : FileStorage := { s with disk := { s.disk with refuses } }

/-- What a change that failed has left. Reading gives what it gave before, whatever the device refuses then. -/
structure IsUntouched (s later : FileStorage) : Prop where
  node : later.disk.node? s.location = s.disk.node? s.location
  names : later.disk.list s.location.dropLast = s.disk.list s.location.dropLast
  get : ∀ refuses key, (Storage.get key (later.onDevice refuses)).1 = (Storage.get key (s.onDevice refuses)).1
  others : ∀ path, ¬ path <+: s.location → later.disk.node? path = s.disk.node? path

/-- What a change that succeeded has left: the file holds some items, and is all that is new in its directory. -/
structure IsReplaced (s later : FileStorage) (items : Dict String) : Prop where
  file : ∃ text, later.disk.node? s.location = some (.file (Text.Utf8.encode text)) ∧ heldIn (some text) = .ok items
  names : ∀ name, name ∈ later.disk.list s.location.dropLast ↔
    name = fileName ∨ name ∈ s.disk.list s.location.dropLast
  get : ∀ key, (Storage.get key later).1 = .ok (items.find? key)
  others : ∀ path, ¬ path <+: s.location → later.disk.node? path = s.disk.node? path

variable {s : FileStorage} {made : FileSystem}

theorem dropLast_location (h : s.location ≠ []) : ¬ s.location <+: s.location.dropLast := by
  intro hpre
  have hlen := hpre.length_le
  have hpos := List.length_pos_iff.mpr h
  rw [List.length_dropLast] at hlen
  omega

theorem readAll_congr {later : FileStorage} (h : later.disk.readText later.location = s.disk.readText s.location) :
    later.readAll = s.readAll := by
  unfold readAll
  rw [h]

theorem isUntouched_self (s : FileStorage) : IsUntouched s s := ⟨rfl, rfl, fun _ _ => rfl, fun _ _ => rfl⟩

/-- Directories that were made on the way to the file change nothing of it. -/
theorem isUntouched_of_opens (hne : s.location ≠ []) (h : FileSystem.Opens s.location.dropLast s.disk made) :
    IsUntouched s { s with disk := made } := by
  have hnode := h.node?_eq (dropLast_location hne)
  refine ⟨hnode, h.list_eq, fun refuses key => ?_, fun path hpath => ?_⟩
  · have hlocation : location (onDevice { s with disk := made } refuses) = s.location :=
      resolve_of_workingDirectory h.workingDirectory s.path
    have htext : { made with refuses }.readText s.location = { s.disk with refuses }.readText s.location :=
      FileSystem.readText_congr rfl (h.isBarred_eq s.location) hnode
    have hread : readAll (onDevice { s with disk := made } refuses) = readAll (s.onDevice refuses) := by
      refine readAll_congr ?_
      rw [hlocation]
      exact htext
    exact congrArg (fun items => items.map fun items : Dict String => items.find? key) hread
  · exact h.node?_eq fun hpre => hpath (hpre.trans (List.dropLast_prefix _))

/-- Items that are written to a file in a directory are all that it holds then. -/
theorem isReplaced_put {directory : Path} (hlocation : s.location = directory ++ [fileName])
    (hopens : FileSystem.Opens s.location.dropLast s.disk made) (hread : s.disk.readText s.location ≠ .error .other)
    (items : Dict String) :
    let content := Text.Utf8.encode (codec.encode items).indented.toList
    IsReplaced s { s with disk := made.put s.location (.file content) } items := by
  intro content
  have hne : s.location ≠ [] := by rw [hlocation]; simp
  have hdirectory : s.location.dropLast = directory := by rw [hlocation]; simp
  have hnode : (made.put s.location (.file content)).node? s.location = some (.file content) := by
    rw [FileSystem.node?_put hne, if_pos rfl]
  have hheld := heldIn_indented items
  refine ⟨⟨_, hnode, hheld⟩, fun name => ?_, fun key => ?_, fun path hpath => ?_⟩
  · have hnames := @FileSystem.mem_list_put made (.file content) directory fileName name
    rw [← hlocation, ← hdirectory, hopens.list_eq] at hnames
    exact hnames
  · obtain ⟨hrefuses, hbarred⟩ := FileSystem.willing_of_readText hread
    have hbarred' : (made.put s.location (.file content)).isBarred s.location = false :=
      FileSystem.isBarred_put ((hopens.isBarred_eq s.location).trans hbarred) (.inr rfl)
    have hrefuses' : (made.put s.location (.file content)).refuses .read = false :=
      (congrFun hopens.refuses .read).trans hrefuses
    have htext := FileSystem.readText_encode hrefuses' hbarred' hnode
    have hlater : location { s with disk := made.put s.location (.file content) } = s.location :=
      resolve_of_workingDirectory hopens.workingDirectory s.path
    have hall : readAll { s with disk := made.put s.location (.file content) } = .ok items := by
      unfold readAll
      rw [hlater, htext]
      exact hheld
    exact congrArg (fun items => items.map fun items : Dict String => items.find? key) hall
  · have hother : (made.put s.location (.file content)).node? path = made.node? path := by
      rw [FileSystem.node?_put hne, if_neg]
      rintro rfl
      exact hpath (List.prefix_refl _)
    exact hother.trans (hopens.node?_eq fun hpre => hpath (hpre.trans (List.dropLast_prefix _)))

/-! ### Writing and changing -/

theorem writeAll_of_opens (hmade : s.disk.makeDirectories s.location.dropLast = some made) (items : Dict String) :
    let content := Text.Utf8.encode (codec.encode items).indented.toList
    (∀ step, made.Hinders s.location step → writeAll items s = (.error Failure.io, { s with disk := made })) ∧
    ((∀ step, ¬ made.Hinders s.location step) →
      writeAll items s = (.ok (), { s with disk := made.put s.location (.file content) })) := by
  intro content
  unfold writeAll
  rw [hmade]
  dsimp only
  constructor
  · intro step h
    rw [FileSystem.replaceFile_of_hinders h]
  · intro h
    rw [FileSystem.replaceFile_of_not_hinders h]

/-- What is read decides what is written, unless reading fails. -/
theorem modify_of_readText (h : s.disk.readText s.location ≠ .error .other) (change : Dict String → Dict String) :
    modify change s = writeAll (change (s.readAll.toOption.getD .empty)) s := by
  unfold modify
  cases hread : s.readAll with
  | ok items => rfl
  | error f =>
    have hkind : f.kind = .serialization := by
      unfold readAll at hread
      split at hread
      · next text _ =>
        have hheld : heldIn (some text) = .error f := hread
        exact kind_of_heldIn hheld
      · cases hread
      · next hother => exact absurd hother h
    exact if_pos hkind

theorem modify_of_other (h : s.disk.readText s.location = .error .other) (change : Dict String → Dict String) :
    modify change s = (.error Failure.io, s) := by
  have hread : s.readAll = .error Failure.io := by
    unfold readAll
    rw [h]
  unfold modify
  rw [hread]
  exact if_neg (by decide)

/-- **A change that fails at a step leaves everything as it was.** -/
theorem modify_of_failsAt (hne : s.location ≠ []) {step : DeviceStep} (h : s.FailsAt step)
    (change : Dict String → Dict String) :
    ∃ later, modify change s = (.error Failure.io, later) ∧ IsUntouched s later := by
  by_cases hread : s.disk.readText s.location = .error .other
  · exact ⟨s, modify_of_other hread change, isUntouched_self s⟩
  rw [modify_of_readText hread]
  cases hmade : s.disk.makeDirectories s.location.dropLast with
  | none =>
    refine ⟨s, ?_, isUntouched_self s⟩
    unfold writeAll
    rw [hmade]
  | some made =>
    refine ⟨_, ?_, isUntouched_of_opens hne (FileSystem.opens_makeDirectories hmade)⟩
    cases h with
    | read h => exact absurd h hread
    | createDirectory h =>
      rw [hmade] at h
      cases h
    | replacement hmade' h =>
      rw [hmade] at hmade'
      cases hmade'
      exact (writeAll_of_opens hmade _).1 _ h

/-- **A change that fails nowhere is made in full.** -/
theorem modify_of_not_failsAt {directory : Path} (hlocation : s.location = directory ++ [fileName])
    (h : ∀ step, ¬ s.FailsAt step) (change : Dict String → Dict String) :
    ∃ later, modify change s = (.ok (), later) ∧ IsReplaced s later (change (s.readAll.toOption.getD .empty)) := by
  have hread : s.disk.readText s.location ≠ .error .other := fun hread => h .read (.read hread)
  rw [modify_of_readText hread]
  cases hmade : s.disk.makeDirectories s.location.dropLast with
  | none => exact absurd (.createDirectory hmade) (h .createDirectory)
  | some made =>
    have hfree : ∀ step, ¬ made.Hinders s.location step := fun step hstep => h step (.replacement hmade hstep)
    exact ⟨_, (writeAll_of_opens hmade _).2 hfree,
      isReplaced_put hlocation (FileSystem.opens_makeDirectories hmade) hread _⟩

/-- Where a file of text can be kept no step fails. -/
theorem not_failsAt_of_keeps {file : Option (List Char)} (h : s.disk.Keeps s.location file) (hne : s.location ≠ [])
    (step : DeviceStep) : ¬ s.FailsAt step := by
  intro hstep
  obtain ⟨later, hfailed, -⟩ := modify_of_failsAt hne hstep id
  obtain ⟨_, _, hmade, -⟩ := modify_eq h hne id
  rw [hfailed] at hmade
  cases congrArg Prod.fst hmade

end FileStorage

namespace StorageCall

open FileStorage

theorem perform_eq_modify {c : StorageCall} (h : c.isGet = false) (s : FileStorage) :
    c.perform s = (.done (modify c.change s).1, (modify c.change s).2) := by
  cases c with
  | get _ => cases h
  | set _ _ => rfl
  | remove _ => rfl

/-- **Changes are whole or not made.** Whatever the directory, whatever stands in it, and whatever the device refuses:
a change of the items fails, with a failure of the storage, if one of its steps does, and then the file is as it was;
and else it succeeds, and then the file holds the changed items. -/
theorem perform_whole (directory : String) (disk : FileSystem) {c : StorageCall} (hc : c.isGet = false) :
    let s := inDirectory directory disk
    (∀ step, s.FailsAt step → ∃ f later, f.kind = .storage ∧ c.perform s = (.done (.error f), later) ∧
      IsUntouched s later) ∧
    ((∀ step, ¬ s.FailsAt step) → ∃ later, c.perform s = (.done (.ok ()), later) ∧
      IsReplaced s later (c.change (s.readAll.toOption.getD .empty))) := by
  intro s
  obtain ⟨above, habove⟩ := location_inDirectory directory disk
  have hne : s.location ≠ [] := by rw [habove]; simp
  rw [perform_eq_modify hc]
  constructor
  · intro step hstep
    obtain ⟨later, hmodify, hlater⟩ := modify_of_failsAt hne hstep c.change
    exact ⟨Failure.io, later, rfl, by rw [hmodify], hlater⟩
  · intro h
    obtain ⟨later, hmodify, hlater⟩ := modify_of_not_failsAt habove h c.change
    exact ⟨later, by rw [hmodify], hlater⟩

/-- A disk with a session file that holds a text, on a device that refuses some steps. -/
def diskWith (text : List Char) (refuses : DeviceStep → Bool) : FileSystem where
  nodes := [(["home"], .directory), (["home", "session.json"], .file (Text.Utf8.encode text))]
  workingDirectory := ["home"]
  refuses

section
variable {text : List Char} {refuses : DeviceStep → Bool}

theorem location_diskWith : (inDirectory "" (diskWith text refuses)).location = ["home", "session.json"] := by
  have hspoiled : (inDirectory "" spoiledDisk).location = ["home", "session.json"] := by decide
  have hworking : (diskWith text refuses).workingDirectory = spoiledDisk.workingDirectory := rfl
  exact (resolve_of_workingDirectory hworking _).trans hspoiled

theorem readAll_diskWith (h : refuses .read = false) :
    (inDirectory "" (diskWith text refuses)).readAll = heldIn (some text) := by
  have htext : (diskWith text refuses).readText ["home", "session.json"] = .ok text :=
    FileSystem.readText_encode h rfl rfl
  have hdisk : (inDirectory "" (diskWith text refuses)).disk = diskWith text refuses := rfl
  unfold readAll
  rw [location_diskWith, hdisk, htext]
  rfl

theorem makeDirectories_diskWith :
    (diskWith text refuses).makeDirectories ["home"] = some (diskWith text refuses) := by
  simp [FileSystem.makeDirectories, FileSystem.steps, diskWith, FileSystem.node?, List.range_succ]

end

/-- A device that does not sync leaves the old item, which is read once it works again; one that works stores the new
item. -/
theorem perform_whole_unsynced :
    let call := StorageCall.set "k" "w"
    let disk := diskWith (codec.encode (Dict.empty.insert "k" "v")).indented.toList
    call.isGet = false ∧
    (∃ f later, call.perform (inDirectory "" (disk (· = .sync))) = (.done (.error f), later) ∧ f.kind = .storage ∧
      (Storage.get "k" (later.onDevice fun _ => false)).1 = .ok (some "v")) ∧
    ∃ later, call.perform (inDirectory "" (disk fun _ => false)) = (.done (.ok ()), later) ∧
      (Storage.get "k" later).1 = .ok (some "w") := by
  intro call disk
  have hcall : call.isGet = false := rfl
  have hold : ∀ {refuses : DeviceStep → Bool}, refuses .read = false →
      (inDirectory "" (disk refuses)).readAll = .ok (Dict.empty.insert "k" "v") :=
    fun h => (readAll_diskWith h).trans (heldIn_indented _)
  refine ⟨hcall, ?_, ?_⟩
  · have hmade : (disk (· = .sync)).makeDirectories (inDirectory "" (disk (· = .sync))).location.dropLast =
        some (disk (· = .sync)) := by
      rw [location_diskWith]
      exact makeDirectories_diskWith
    have hhinders : (disk (· = .sync)).Hinders (inDirectory "" (disk (· = .sync))).location .sync := .sync rfl
    have hfails : (inDirectory "" (disk (· = .sync))).FailsAt .sync := .replacement hmade hhinders
    obtain ⟨f, later, hkind, hperform, hlater⟩ := (perform_whole "" (disk (· = .sync)) hcall).1 .sync hfails
    have hget : (Storage.get "k" ((inDirectory "" (disk (· = .sync))).onDevice fun _ => false)).1 = .ok (some "v") :=
      congrArg (fun items => items.map fun items : Dict String => items.find? "k") (hold rfl)
    exact ⟨f, later, hperform, hkind, (hlater.get _ _).trans hget⟩
  · have hkeeps : (disk fun _ => false).Keeps (inDirectory "" (disk fun _ => false)).location
        (some (codec.encode (Dict.empty.insert "k" "v")).indented.toList) := by
      rw [location_diskWith]
      exact ⟨fun _ => rfl, rfl, _, rfl, Text.Utf8.decode?_encode _⟩
    have hne : (inDirectory "" (disk fun _ => false)).location ≠ [] := by
      rw [location_diskWith]
      nofun
    have hfree := not_failsAt_of_keeps hkeeps hne
    obtain ⟨later, hperform, hlater⟩ := (perform_whole "" (disk fun _ => false) hcall).2 hfree
    rw [hold rfl] at hlater
    exact ⟨later, hperform, hlater.get "k"⟩

end StorageCall

end HostingClient
