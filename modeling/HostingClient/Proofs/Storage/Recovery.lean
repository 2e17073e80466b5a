import HostingClient.Proofs.Storage.Replacement

/-! # Damaged files

A file is damaged if its bytes are no JSON object of texts. On a file system that does not fail, the next change of a
damaged file of text replaces it: the file then holds what the change makes of no items, and calls go on as in memory.
Bytes that are no text at all are never replaced: every call fails from then on, and the file stays as it is
(`FileStorage.performShared_damaged`). -/

namespace HostingClient

/-- A file with some bytes at a path, on a device that is willing to do all steps. -/
structure FileSystem.Stores (fs : FileSystem) (path : Path) (content : List UInt8) : Prop where
  willing : ∀ step, fs.refuses step = false
  isBarred : fs.isBarred path = false
  node : fs.node? path = some (.file content)

namespace FileSystem.Stores

variable {fs : FileSystem} {path : Path} {content : List UInt8}

theorem keeps (h : fs.Stores path content) {text : List Char} (ht : Text.Utf8.decode? content = some text) :
    fs.Keeps path (some text) :=
  ⟨h.willing, h.isBarred, content, h.node, ht⟩

theorem readText_eq_other (h : fs.Stores path content) (ht : Text.Utf8.decode? content = none) :
    fs.readText path = .error .other := by
  have hbytes : fs.readBytes path = .ok content := by
    unfold readBytes
    rw [if_neg (by rw [h.willing, h.isBarred]; nofun), h.node]
  unfold readText
  rw [hbytes]
  dsimp only [bind, Except.bind]
  rw [ht]

end FileSystem.Stores

theorem FileSystem.Keeps.exists_stores {fs : FileSystem} {path : Path} {text : List Char}
    (h : fs.Keeps path (some text)) : ∃ content, fs.Stores path content ∧ Text.Utf8.decode? content = some text := by
  obtain ⟨content, hnode, htext⟩ := h.node
  exact ⟨content, ⟨h.willing, h.isBarred, hnode⟩, htext⟩

/-- The reply to a call that fails. -/
def StorageCall.failed (f : Failure) : StorageCall → StorageReply
  | get _ => .value (.error f)
  | set _ _ | remove _ => .done (.error f)

namespace FileStorage

open StorageCall

/-- Whether some bytes are a JSON object of texts, and these are the items in it. -/
def Reads (content : List UInt8) (items : Dict String) : Prop :=
  ∃ text, Text.Utf8.decode? content = some text ∧ codec.decode.run (String.ofList text) = .ok items

/-- Whether some bytes are no JSON object of texts. -/
def IsDamaged (content : List UInt8) : Prop := ∀ items, ¬ Reads content items

variable {s : FileStorage} {content : List UInt8} {text : List Char}

theorem isDamaged_of_no_text (ht : Text.Utf8.decode? content = none) : IsDamaged content := by
  rintro items ⟨text, ht', -⟩
  rw [ht] at ht'
  cases ht'

theorem isDamaged_of_run {f : DecodeFault} (ht : Text.Utf8.decode? content = some text)
    (hrun : codec.decode.run (String.ofList text) = .error f) : IsDamaged content := by
  rintro items ⟨text', ht', hrun'⟩
  rw [ht] at ht'
  cases ht'
  rw [hrun] at hrun'
  cases hrun'

/-- A damaged text counts as no items, also if it is blank. -/
theorem itemsIn_of_isDamaged (hdamaged : IsDamaged content) (ht : Text.Utf8.decode? content = some text) :
    itemsIn (some text) = .empty := by
  have hheld : heldIn (some text) = itemsOfText text := rfl
  rw [itemsIn, hheld, itemsOfText]
  split
  · rfl
  · cases hrun : codec.decode.run (String.ofList text) with
    | ok items => exact absurd ⟨text, ht, hrun⟩ (hdamaged items)
    | error f => rfl

/-- **A change replaces a damaged text** by what is written for the items that it makes of none. -/
theorem perform_of_isDamaged (h : s.disk.Stores s.location content) (hname : s.location ≠ [])
    (hdamaged : IsDamaged content) (ht : Text.Utf8.decode? content = some text) {c : StorageCall}
    (hc : c.isGet = false) :
    ∃ later, c.perform s = (.done (.ok ()), { s with disk := later }) ∧
      later.workingDirectory = s.disk.workingDirectory ∧
      later.Keeps s.location (some (codec.encode (c.change .empty)).indented.toList) := by
  obtain ⟨later, hwrite, hdir, hkeeps⟩ := writeAll_eq (h.keeps ht) hname (c.change .empty)
  have hmodify := modify_eq_writeAll (h.keeps ht) c.change
  rw [itemsIn_of_isDamaged hdamaged ht, hwrite] at hmodify
  refine ⟨later, ?_, hdir, hkeeps⟩
  rw [perform_eq_modify hc, hmodify]

theorem Reads.of_decode? (items : Dict String)
    (ht : Text.Utf8.decode? content = some (codec.encode items).indented.toList) : Reads content items := by
  refine ⟨_, ht, ?_⟩
  rw [String.ofList_toList]
  exact run_indented items

/-- A file that is no text makes every call fail, and stays as it is. -/
theorem perform_of_no_text (h : s.disk.Stores s.location content) (ht : Text.Utf8.decode? content = none)
    (c : StorageCall) : c.perform s = (c.failed Failure.io, s) := by
  have hother := h.readText_eq_other ht
  cases hc : c.isGet with
  | true =>
    cases c with
    | get key =>
      have hread : s.readAll = .error Failure.io := by
        unfold readAll
        rw [hother]
      show (StorageReply.value (s.readAll.map fun items => items.find? key), s) = _
      rw [hread]
      rfl
    | set _ _ => cases hc
    | remove _ => cases hc
  | false =>
    rw [perform_eq_modify hc, modify_of_other hother]
    cases c with
    | get _ => cases hc
    | set _ _ => rfl
    | remove _ => rfl

theorem performShared_of_no_text {disk : FileSystem} {location : Path} (h : disk.Stores location content)
    (ht : Text.Utf8.decode? content = none) : ∀ calls : List (String × StorageCall),
      (∀ c ∈ calls, (inDirectory c.1 disk).location = location) →
      performShared disk calls = (calls.map fun c => c.2.failed Failure.io, disk)
  | [], _ => rfl
  | (directory, c) :: calls, hcalls => by
    have hloc : (inDirectory directory disk).location = location := hcalls (directory, c) List.mem_cons_self
    have hstores : (inDirectory directory disk).disk.Stores (inDirectory directory disk).location content := hloc ▸ h
    have hrest := performShared_of_no_text h ht calls fun c hc => hcalls c (List.mem_cons_of_mem _ hc)
    have hdisk : (inDirectory directory disk).disk = disk := rfl
    rw [performShared, perform_of_no_text hstores ht, List.map_cons]
    dsimp only
    rw [hdisk, hrest]

/-- **Changes recover from a damaged file of text, and never from one that is no text.** Whatever the directory and
the damage: if the bytes are a text, the first change succeeds, the file holds exactly the item that the change stores,
or none, and calls through any instances with the same file then have the replies and the final items of the run in
memory that starts with this. If they are no text, every call fails, and what is on the disk does not change. -/
theorem performShared_damaged {directory : String} {disk : FileSystem} {content : List UInt8}
    (h : disk.Stores (inDirectory directory disk).location content) (hdamaged : IsDamaged content) {c : StorageCall}
    (hc : c.isGet = false) {calls : List (String × StorageCall)}
    (hcalls : ∀ c ∈ calls, (inDirectory c.1 disk).location = (inDirectory directory disk).location) :
    let s := inDirectory directory disk
    let later := (c.perform s).2.disk
    let memory := performAll (c.change .empty) (calls.map (·.2))
    (∀ text, Text.Utf8.decode? content = some text →
      (c.perform s).1 = .done (.ok ()) ∧
      (∃ written, later.Stores s.location written ∧ Reads written (c.change .empty)) ∧
      (performShared later calls).1 = memory.1 ∧
      ∃ file, (performShared later calls).2.Keeps s.location file ∧ heldIn file = .ok memory.2) ∧
    (Text.Utf8.decode? content = none →
      c.perform s = (.done (.error Failure.io), s) ∧
      performShared disk calls = (calls.map fun c => c.2.failed Failure.io, disk)) := by
  intro s later memory
  obtain ⟨above, habove⟩ := location_inDirectory directory disk
  have hname : s.location ≠ [] := by rw [habove]; simp
  constructor
  · intro text ht
    obtain ⟨next, hperform, hdir, hkeeps⟩ := perform_of_isDamaged h hname hdamaged ht hc
    have hlater : later = next := congrArg (fun p => p.2.disk) hperform
    have hcalls' : ∀ c ∈ calls, (inDirectory c.1 next).location = s.location := fun c hc =>
      (resolve_of_workingDirectory hdir _).trans (hcalls c hc)
    obtain ⟨written, hstores, hwritten⟩ := hkeeps.exists_stores
    obtain ⟨file, hfile, hfinal, hreplies⟩ :=
      performShared_of_decoded hname calls hkeeps hcalls' (heldIn_indented (c.change .empty))
    rw [hlater]
    exact ⟨congrArg Prod.fst hperform, ⟨written, hstores, .of_decode? _ hwritten⟩, hreplies, file, hfile, hfinal⟩
  · intro ht
    refine ⟨?_, performShared_of_no_text h ht calls hcalls⟩
    rw [perform_of_no_text h ht]
    cases c with
    | get _ => cases hc
    | set _ _ => rfl
    | remove _ => rfl

/-- A disk with a session file of some bytes. -/
def diskOf (content : List UInt8) : FileSystem where
  nodes := [(["home"], .directory), (["home", "session.json"], .file content)]
  workingDirectory := ["home"]
  refuses _ := false

theorem stores_diskOf (content : List UInt8) :
    (diskOf content).Stores (inDirectory "" (diskOf content)).location content := by
  have hspoiled : (inDirectory "" spoiledDisk).location = ["home", "session.json"] := by decide
  have hworking : (diskOf content).workingDirectory = spoiledDisk.workingDirectory := rfl
  have hlocation : (inDirectory "" (diskOf content)).location = ["home", "session.json"] :=
    (resolve_of_workingDirectory hworking _).trans hspoiled
  rw [hlocation]
  exact ⟨fun _ => rfl, rfl, rfl⟩

/-- A disk with a session file that was cut off after its first quote. -/
def cutDisk : FileSystem := diskOf [0x7B, 0x22]

/-- An object that was cut off is replaced. -/
theorem performShared_damaged_cut :
    cutDisk.Stores (inDirectory "" cutDisk).location [0x7B, 0x22] ∧ IsDamaged [0x7B, 0x22] ∧
    (StorageCall.set "k" "v").isGet = false ∧
    (∀ c ∈ [("/home", StorageCall.get "k")], (inDirectory c.1 cutDisk).location = (inDirectory "" cutDisk).location) ∧
    ((StorageCall.set "k" "v").perform (inDirectory "" cutDisk)).1 = .done (.ok ()) ∧
    (performShared ((StorageCall.set "k" "v").perform (inDirectory "" cutDisk)).2.disk [("/home", .get "k")]).1 =
      [.value (.ok (some "v"))] := by
  have hstores : cutDisk.Stores (inDirectory "" cutDisk).location [0x7B, 0x22] := stores_diskOf _
  have hdecode : Text.Utf8.decode? [0x7B, 0x22] = some ['{', '"'] := by decide
  have hdamaged : IsDamaged [0x7B, 0x22] := isDamaged_of_run hdecode rfl
  have hset : (StorageCall.set "k" "v").isGet = false := rfl
  have hcalls : ∀ c ∈ [("/home", StorageCall.get "k")],
      (inDirectory c.1 cutDisk).location = (inDirectory "" cutDisk).location := by decide
  obtain ⟨hfirst, -, hreplies, -⟩ := (performShared_damaged hstores hdamaged hset hcalls).1 _ hdecode
  exact ⟨hstores, hdamaged, hset, hcalls, hfirst, hreplies⟩

/-- A change does not recover from a single byte that is no text. -/
theorem not_recovers_stray :
    IsDamaged [0xFF] ∧ (diskOf [0xFF]).Stores (inDirectory "" (diskOf [0xFF])).location [0xFF] ∧
    Failure.io.kind = .storage ∧
    (StorageCall.set "k" "v").perform (inDirectory "" (diskOf [0xFF])) =
      (.done (.error Failure.io), inDirectory "" (diskOf [0xFF])) := by
  have hdecode : Text.Utf8.decode? [0xFF] = none := by decide
  exact ⟨isDamaged_of_no_text hdecode, stores_diskOf _, rfl, perform_of_no_text (stores_diskOf _) hdecode _⟩

end FileStorage

end HostingClient
