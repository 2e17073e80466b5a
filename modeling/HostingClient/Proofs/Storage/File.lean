import HostingClient.Proofs.Json.Restore
import HostingClient.Proofs.Storage.FileSystem
import HostingClient.Proofs.Storage.Reliable
import HostingClient.Storage.File

/-! # The storage in a file refines the one in memory

On a file system that does not fail, each call of a storage in a file reads, changes and replaces the items in the
file as the storage in memory changes its own (`FileStorage.modify_eq`). So a run of calls through any instances
with the same file has the replies and the final items of the run in memory, but for reading a text that cannot be
decoded before the first change (`FileStorage.performShared_refines`). -/

namespace HostingClient

namespace FileStorage

/-- What a file holds: no items if it is missing or blank, and otherwise what its text is decoded as. -/
def heldIn : Option (List Char) → Except Failure (Dict String)
  | none => .ok .empty
  | some text => itemsOfText text

/-- The items in a file; none if its text cannot be decoded. -/
def itemsIn (file : Option (List Char)) : Dict String := (heldIn file).toOption.getD .empty

variable {s : FileStorage} {file : Option (List Char)}

theorem kind_of_heldIn {f : Failure} (h : heldIn file = .error f) : f.kind = .serialization := by
  cases file with
  | none => cases h
  | some text =>
    rw [heldIn, itemsOfText] at h
    split at h
    · cases h
    · cases hd : codec.decode.run (String.ofList text) with
      | ok items => rw [hd] at h; cases h
      | error e => rw [hd] at h; cases h; rfl

theorem readAll_eq (h : s.disk.Keeps s.location file) : s.readAll = heldIn file := by
  unfold readAll
  rw [h.readText]
  cases file <;> rfl

/-- What is written for items is not blank. -/
theorem not_blank_indented (items : Dict String) :
    (codec.encode items).indented.toList.all Text.isBlank = false := by
  show (String.ofList (Json.renderLines 0
    (.object (items.entries.map fun e => (e.1, Json.text e.2))))).toList.all _ = false
  rw [String.toList_ofList]
  cases items.entries with
  | nil => rfl
  | cons e entries => rfl

/-- What is written for items is decoded as them. -/
theorem run_indented (items : Dict String) : codec.decode.run (codec.encode items).indented = .ok items := by
  have hrestores : codec.Restores 1 items := Codec.restores_dict fun e _ => Codec.restores_text e.2
  exact (hrestores.mono (by decide : 1 ≤ 127)).run_indented

/-- **Items are read back from what is written for them.** -/
theorem heldIn_indented (items : Dict String) : heldIn (some (codec.encode items).indented.toList) = .ok items := by
  rw [heldIn, itemsOfText, if_neg (Bool.eq_false_iff.mp (not_blank_indented items)), String.ofList_toList,
    run_indented]
  rfl

/-- The file has a name under a directory. -/
theorem location_inDirectory (directory : String) (disk : FileSystem) :
    ∃ above, (inDirectory directory disk).location = above ++ [fileName] :=
  FileSystem.resolve_join directory (by decide) (fun _ => rfl) disk

theorem resolve_of_workingDirectory {fs later : FileSystem} (h : later.workingDirectory = fs.workingDirectory)
    (text : String) : later.resolve text = fs.resolve text := by
  unfold FileSystem.resolve
  rw [h]

theorem writeAll_eq (h : s.disk.Keeps s.location file) (hname : s.location ≠ []) (items : Dict String) :
    ∃ later, writeAll items s = (.ok (), { s with disk := later }) ∧
      later.workingDirectory = s.disk.workingDirectory ∧
      later.Keeps s.location (some (codec.encode items).indented.toList) := by
  obtain ⟨made, later, hmade, hreplace, hkeeps, hdir⟩ := h.save hname (codec.encode items).indented.toList
  refine ⟨later, ?_, hdir, hkeeps⟩
  unfold writeAll
  rw [hmade]
  simp only [hreplace]

/-- **A change of the items in a file** writes the changed items. -/
theorem modify_eq_writeAll (h : s.disk.Keeps s.location file) (change : Dict String → Dict String) :
    modify change s = writeAll (change (itemsIn file)) s := by
  unfold modify itemsIn
  rw [readAll_eq h]
  cases hheld : heldIn file with
  | ok items => rfl
  | error f => exact if_pos (kind_of_heldIn hheld)

theorem modify_eq (h : s.disk.Keeps s.location file) (hname : s.location ≠ []) (change : Dict String → Dict String) :
    ∃ later text, modify change s = (.ok (), { s with disk := later }) ∧
      later.workingDirectory = s.disk.workingDirectory ∧ later.Keeps s.location (some text) ∧
      heldIn (some text) = .ok (change (itemsIn file)) := by
  obtain ⟨later, hlater, hdir, hkeeps⟩ := writeAll_eq h hname (change (itemsIn file))
  exact ⟨later, _, (modify_eq_writeAll h change).trans hlater, hdir, hkeeps, heldIn_indented _⟩

/-- Whether a storage in a file has a file to keep its items in. -/
def IsSound (s : FileStorage) : Prop := s.location ≠ [] ∧ ∃ file, s.disk.Keeps s.location file

theorem modify_sound (h : s.IsSound) (change : Dict String → Dict String) :
    ∃ later, modify change s = (.ok (), later) ∧ later.IsSound ∧
      later.readAll = .ok (change (s.readAll.toOption.getD .empty)) := by
  obtain ⟨hname, file, h⟩ := h
  obtain ⟨later, text, hmodify, hdir, hkeeps, hheld⟩ := modify_eq h hname change
  have hloc : location { s with disk := later } = s.location := resolve_of_workingDirectory hdir s.path
  refine ⟨{ s with disk := later }, hmodify, ⟨hloc ▸ hname, some text, hloc ▸ hkeeps⟩, ?_⟩
  rw [readAll_eq (hloc ▸ hkeeps), hheld, readAll_eq h]
  rfl

end FileStorage

/-- The storage in a file is reliable on a file system that does not fail. -/
instance : ReliableStorage FileStorage where
  IsSound := FileStorage.IsSound
  held := FileStorage.readAll
  get_eq _ _ := rfl
  set_eq key value h := FileStorage.modify_sound h fun items => items.insert key value
  remove_eq key h := FileStorage.modify_sound h fun items => items.erase key

/-! ### Runs of calls -/

/-- Makes some calls over one disk, each through the storage in a directory of its own. -/
def FileStorage.performShared : FileSystem → List (String × StorageCall) → List StorageReply × FileSystem
  | disk, [] => ([], disk)
  | disk, (directory, c) :: calls =>
    let (reply, s) := c.perform (inDirectory directory disk)
    let (replies, disk) := performShared s.disk calls
    (reply :: replies, disk)

namespace StorageCall

theorem perform_memory_of_change {c : StorageCall} (h : c.isGet = false) (items : Dict String) :
    c.perform items = (.done (.ok ()), c.change items) := by
  cases c with
  | get _ => cases h
  | set _ _ => rfl
  | remove _ => rfl

variable {s : FileStorage} {file : Option (List Char)} {c : StorageCall}

theorem perform_file_of_change (h : s.disk.Keeps s.location file) (hname : s.location ≠ []) (hc : c.isGet = false) :
    ∃ later text, c.perform s = (.done (.ok ()), { s with disk := later }) ∧
      later.workingDirectory = s.disk.workingDirectory ∧ later.Keeps s.location (some text) ∧
      FileStorage.heldIn (some text) = .ok (c.change (FileStorage.itemsIn file)) := by
  obtain ⟨later, text, hmodify, hrest⟩ := FileStorage.modify_eq h hname c.change
  have hperform : c.perform s = (.done (FileStorage.modify c.change s).1, (FileStorage.modify c.change s).2) := by
    cases c with
    | get _ => cases hc
    | set _ _ => rfl
    | remove _ => rfl
  refine ⟨later, text, ?_, hrest⟩
  rw [hperform, hmodify]

theorem perform_file_of_isGet (h : s.disk.Keeps s.location file) (hc : c.isGet = true) :
    ∃ key, c.perform s = (.value ((FileStorage.heldIn file).map fun items => items.find? key), s) ∧
      ∀ items : Dict String, c.perform items = (.value (.ok (items.find? key)), items) := by
  cases c with
  | get key =>
    refine ⟨key, ?_, fun _ => rfl⟩
    rw [← FileStorage.readAll_eq h]
    rfl
  | set _ _ => cases hc
  | remove _ => cases hc

end StorageCall

namespace FileStorage

open StorageCall

variable {disk : FileSystem} {location : Path} {file : Option (List Char)}

/-- Once the text can be decoded, a run has the replies and the items of the run in memory. -/
theorem performShared_of_decoded (hne : location ≠ []) : ∀ (calls : List (String × StorageCall)) {disk : FileSystem}
    {file : Option (List Char)} {items : Dict String}, disk.Keeps location file →
      (∀ c ∈ calls, (inDirectory c.1 disk).location = location) → heldIn file = .ok items →
      ∃ later, (performShared disk calls).2.Keeps location later ∧
        heldIn later = .ok (performAll items (calls.map (·.2))).2 ∧
        (performShared disk calls).1 = (performAll items (calls.map (·.2))).1
  | [], _, file, _, h, _, hheld => ⟨file, h, hheld, rfl⟩
  | (directory, c) :: calls, disk, file, items, h, hcalls, hheld => by
    have hloc : (inDirectory directory disk).location = location := hcalls (directory, c) (by simp)
    have hrest := fun c hc => hcalls c (List.mem_cons_of_mem _ hc)
    have hkeeps : (inDirectory directory disk).disk.Keeps (inDirectory directory disk).location file := hloc ▸ h
    cases hc : c.isGet with
    | true =>
      obtain ⟨key, hfile, hmemory⟩ := perform_file_of_isGet hkeeps hc
      obtain ⟨later, hlater, hitems, hreplies⟩ := performShared_of_decoded hne calls h hrest hheld
      refine ⟨later, ?_⟩
      rw [List.map_cons, performShared, performAll, hfile, hmemory items, hheld]
      exact ⟨hlater, hitems, congrArg (_ :: ·) hreplies⟩
    | false =>
      obtain ⟨next, text, hfile, hdir, hnext, hheld'⟩ := perform_file_of_change hkeeps (hloc ▸ hne) hc
      rw [hloc] at hnext
      have hitems' : itemsIn file = items := by rw [itemsIn, hheld]; rfl
      rw [hitems'] at hheld'
      have hcalls' : ∀ c ∈ calls, (inDirectory c.1 next).location = location := fun c hc =>
        (resolve_of_workingDirectory hdir _).trans (hrest c hc)
      obtain ⟨later, hlater, hitems, hreplies⟩ := performShared_of_decoded hne calls hnext hcalls' hheld'
      refine ⟨later, ?_⟩
      rw [List.map_cons, performShared, performAll, hfile, perform_memory_of_change hc]
      exact ⟨hlater, hitems, congrArg (_ :: ·) hreplies⟩

/-- Reading a text that cannot be decoded fails and changes nothing; the first change starts from no items. -/
theorem performShared_of_undecoded (hne : location ≠ []) {f : Failure} (hheld : heldIn file = .error f) :
    ∀ calls : List (String × StorageCall), disk.Keeps location file →
      (∀ c ∈ calls, (inDirectory c.1 disk).location = location) →
      let memory := performAll (Dict.empty : Dict String) (calls.map (·.2))
      let shared := performShared disk calls
      let reads := (calls.map (·.2)).takeWhile isGet
      ∃ later replies, shared.2.Keeps location later ∧
        (if calls.all (·.2.isGet) then later = file ∧ memory.2 = .empty else heldIn later = .ok memory.2) ∧
        memory.1 = reads.map (fun _ => .value (.ok none)) ++ replies ∧
        shared.1 = reads.map (fun _ => .value (.error f)) ++ replies
  | [], h, _ => ⟨file, [], h, ⟨rfl, rfl⟩, rfl, rfl⟩
  | (directory, c) :: calls, h, hcalls => by
    have hloc : (inDirectory directory disk).location = location := hcalls (directory, c) (by simp)
    have hrest := fun c hc => hcalls c (List.mem_cons_of_mem _ hc)
    have hkeeps : (inDirectory directory disk).disk.Keeps (inDirectory directory disk).location file := hloc ▸ h
    cases hc : c.isGet with
    | true =>
      obtain ⟨key, hfile, hmemory⟩ := perform_file_of_isGet hkeeps hc
      obtain ⟨later, replies, hlater, hitems, hmem, hshared⟩ :=
        performShared_of_undecoded hne hheld calls h hrest
      refine ⟨later, replies, ?_⟩
      simp only [List.map_cons, performShared, performAll, hfile, hmemory Dict.empty, hheld, List.all_cons, hc,
        Bool.true_and, List.takeWhile_cons_of_pos hc]
      exact ⟨hlater, hitems, congrArg (_ :: ·) hmem, congrArg (_ :: ·) hshared⟩
    | false =>
      obtain ⟨next, text, hfile, hdir, hnext, hheld'⟩ := perform_file_of_change hkeeps (hloc ▸ hne) hc
      rw [hloc] at hnext
      have hitems : itemsIn file = .empty := by rw [itemsIn, hheld]; rfl
      rw [hitems] at hheld'
      have hcalls' : ∀ c ∈ calls, (inDirectory c.1 next).location = location := fun c hc =>
        (resolve_of_workingDirectory hdir _).trans (hrest c hc)
      obtain ⟨later, hlater, hfinal, hreplies⟩ := performShared_of_decoded hne calls hnext hcalls' hheld'
      refine ⟨later, .done (.ok ()) :: (performAll (c.change .empty) (calls.map (·.2))).1, ?_⟩
      simp only [List.map_cons, performShared, performAll, hfile, perform_memory_of_change hc, List.all_cons, hc,
        Bool.false_and, List.takeWhile_cons_of_neg (Bool.eq_false_iff.mp hc)]
      exact ⟨hlater, hfinal, rfl, congrArg (_ :: ·) hreplies⟩

/-- **The storage in a file refines the one in memory.** Whatever the directory and whatever text the file has, calls
through any instances with the same file have the replies and the final items of the run in memory that starts with
the items in the file. Only a text that cannot be decoded makes reading fail until the first change. -/
theorem performShared_refines {directory : String} {disk : FileSystem} {file : Option (List Char)}
    (h : disk.Keeps (inDirectory directory disk).location file) (calls : List (String × StorageCall))
    (hcalls : ∀ c ∈ calls, (inDirectory c.1 disk).location = (inDirectory directory disk).location) :
    let memory := performAll (itemsIn file) (calls.map (·.2))
    let shared := performShared disk calls
    let reads := (calls.map (·.2)).takeWhile isGet
    ∃ later, shared.2.Keeps (inDirectory directory disk).location later ∧ itemsIn later = memory.2 ∧
      match heldIn file with
      | .ok _ => heldIn later = .ok memory.2 ∧ shared.1 = memory.1
      | .error f => f.kind = .serialization ∧
        (if calls.all (·.2.isGet) then later = file else heldIn later = .ok memory.2) ∧
        ∃ replies, memory.1 = reads.map (fun _ => .value (.ok none)) ++ replies ∧
          shared.1 = reads.map (fun _ => .value (.error f)) ++ replies := by
  intro memory shared reads
  obtain ⟨above, habove⟩ := location_inDirectory directory disk
  have hne : (inDirectory directory disk).location ≠ [] := by rw [habove]; simp
  cases hheld : heldIn file with
  | ok items =>
    have hitems : itemsIn file = items := by rw [itemsIn, hheld]; rfl
    obtain ⟨later, hlater, hfinal, hreplies⟩ := performShared_of_decoded hne calls h hcalls hheld
    rw [← hitems] at hfinal hreplies
    exact ⟨later, hlater, by rw [itemsIn, hfinal]; rfl, hfinal, hreplies⟩
  | error f =>
    have hitems : itemsIn file = .empty := by rw [itemsIn, hheld]; rfl
    obtain ⟨later, replies, hlater, hfinal, hmemory, hshared⟩ := performShared_of_undecoded hne hheld calls h hcalls
    rw [← hitems] at hfinal hmemory
    refine ⟨later, hlater, ?_, kind_of_heldIn hheld, ?_, replies, hmemory, hshared⟩
    · split at hfinal
      · rw [hfinal.1, hfinal.2]
      · rw [itemsIn, hfinal]
        rfl
    · split at hfinal
      · next hall => rw [if_pos hall, hfinal.1]
      · next hall => rw [if_neg hall, hfinal]

/-- A disk with a session file that is not JSON. -/
def spoiledDisk : FileSystem where
  nodes := [(["home"], .directory), (["home", "session.json"], .file [0x6F, 0x6F, 0x70, 0x73])]
  workingDirectory := ["home"]
  refuses _ := false

/-- Calls through three instances with the same file. -/
def spoiledCalls : List (String × StorageCall) :=
  [("", .get "k"), ("/home", .remove "a"), ("./", .set "k" "é\n"), ("", .get "k")]

/-- The first call fails, the others give what they give in memory. -/
theorem performShared_refines_spoiled :
    spoiledDisk.Keeps (inDirectory "" spoiledDisk).location (some ['o', 'o', 'p', 's']) ∧
    (∀ c ∈ spoiledCalls, (inDirectory c.1 spoiledDisk).location = (inDirectory "" spoiledDisk).location) ∧
    ∃ f, f.kind = .serialization ∧ (performShared spoiledDisk spoiledCalls).1 =
      [.value (.error f), .done (.ok ()), .done (.ok ()), .value (.ok (some "é\n"))] := by
  have hkeeps : spoiledDisk.Keeps (inDirectory "" spoiledDisk).location (some ['o', 'o', 'p', 's']) :=
    ⟨fun _ => rfl, by decide, [0x6F, 0x6F, 0x70, 0x73], by decide, by decide⟩
  have hcalls : ∀ c ∈ spoiledCalls,
      (inDirectory c.1 spoiledDisk).location = (inDirectory "" spoiledDisk).location := by decide
  obtain ⟨f, hf⟩ : ∃ f, heldIn (some ['o', 'o', 'p', 's']) = .error f := ⟨_, rfl⟩
  obtain ⟨later, -, -, h⟩ := performShared_refines hkeeps spoiledCalls hcalls
  rw [hf] at h
  obtain ⟨hkind, -, replies, hmemory, hshared⟩ := h
  refine ⟨hkeeps, hcalls, f, hkind, ?_⟩
  rw [hshared]
  exact congrArg (StorageReply.value (.error f) :: ·) (List.cons.inj hmemory).2.symm

end FileStorage

end HostingClient
