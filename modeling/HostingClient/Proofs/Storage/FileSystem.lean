import HostingClient.Proofs.Text.Utf8
import HostingClient.Storage.FileSystem

/-! # Replacing a file

On a file system that refuses nothing, where no file stands in the way of a path and what stands at the path is
a file of text or nothing (`FileSystem.Keeps`), the directories above the path can be made and the file can be
replaced, and then it holds the new text (`FileSystem.Keeps.save`). The temporary file leaves no trace. -/

namespace HostingClient.FileSystem

variable {fs : FileSystem} {p q path : Path} {n m : FileNode}

/-! ### Paths -/

theorem foldr_putBefore : ∀ (a : List Char) (later : List (List Char)),
    a.foldr putBefore ([], later) =
      ((a.foldr putBefore ([], [])).1, (a.foldr putBefore ([], [])).2 ++ later)
  | [], _ => rfl
  | c :: a, later => by
    rw [List.foldr_cons, List.foldr_cons, foldr_putBefore a later]
    unfold putBefore
    split <;> rfl

theorem names_append (a b : List Char) : names (a ++ '/' :: b) = names a ++ names b := by
  unfold names
  rw [List.foldr_append, List.foldr_cons]
  have hslash : putBefore '/' (b.foldr putBefore ([], [])) =
      ([], (b.foldr putBefore ([], [])).1 :: (b.foldr putBefore ([], [])).2) := if_pos rfl
  rw [hslash, foldr_putBefore]
  simp only [List.map_cons, List.map_append, List.cons_append]

/-- A name put under a directory comes last. -/
theorem resolve_join (directory : String) {name : String} (hname : names name.toList = [name])
    (hadd : ∀ path, addName path name = path ++ [name]) (fs : FileSystem) :
    ∃ above, fs.resolve (join directory name) = above ++ [name] := by
  have hlast : ∃ before, names (join directory name).toList = before ++ [name] := by
    unfold join
    split
    · exact ⟨[], hname⟩
    · split
      · next hslash =>
        obtain ⟨before, hbefore⟩ := List.getLast?_eq_some_iff.mp hslash
        refine ⟨names before, ?_⟩
        rw [String.toList_append, hbefore, List.append_assoc, List.cons_append, List.nil_append, names_append, hname]
      · refine ⟨names directory.toList, ?_⟩
        rw [String.toList_append, String.toList_append, List.append_assoc]
        show names (directory.toList ++ '/' :: name.toList) = _
        rw [names_append, hname]
  obtain ⟨before, hbefore⟩ := hlast
  unfold resolve
  rw [hbefore, List.foldl_append, List.foldl_cons, List.foldl_nil, hadd]
  exact ⟨_, rfl⟩

/-! ### Nodes -/

theorem lookup_filter_ne (h : q ≠ p) : ∀ nodes : List (Path × FileNode),
    (nodes.filter fun e => e.1 != p).lookup q = nodes.lookup q
  | [] => rfl
  | (r, n) :: nodes => by
    have ih := lookup_filter_ne h nodes
    by_cases hr : r = p
    · have hq : (q == r) = false := beq_false_of_ne (hr ▸ h)
      rw [List.filter_cons_of_neg (by simp [hr]), List.lookup_cons, hq]
      exact ih
    · rw [List.filter_cons_of_pos (by simp [hr]), List.lookup_cons, List.lookup_cons, ih]

theorem node?_put (hp : p ≠ []) (q : Path) : (fs.put p n).node? q = if q = p then some n else fs.node? q := by
  unfold node? put drop
  by_cases h : q = p
  · rw [h, if_neg hp, if_pos rfl]
    exact List.lookup_cons_self
  · rw [if_neg h, List.lookup_cons, beq_false_of_ne h]
    dsimp only
    rw [lookup_filter_ne h]

theorem put_put : (fs.put p n).put p m = fs.put p m := by
  unfold put drop
  simp only [List.filter_cons, bne_self_eq_false, Bool.false_eq_true, if_false, List.filter_filter, Bool.and_self]

theorem drop_put (h : ∀ e ∈ fs.nodes, e.1 ≠ p) : (fs.put p n).drop p = fs := by
  have hfilter : fs.nodes.filter (fun e => e.1 != p) = fs.nodes :=
    List.filter_eq_self.mpr fun e he => by simpa using h e he
  unfold put drop
  simp only [List.filter_cons, bne_self_eq_false, Bool.false_eq_true, if_false, hfilter]

theorem isBarred_put (hq : fs.isBarred q = false) (h : n = .directory ∨ p = q) : (fs.put p n).isBarred q = false := by
  rw [isBarred, List.any_eq_false] at hq ⊢
  intro e he
  rcases List.mem_cons.mp he with rfl | he
  · rcases h with rfl | rfl <;> simp
  · exact hq e (List.mem_filter.mp he).1

theorem isBarred_mono (hq : fs.isBarred q = false) (hp : p <+: q) : fs.isBarred p = false := by
  rw [isBarred, List.any_eq_false] at hq ⊢
  intro e he
  have hbar := hq e he
  simp only [Bool.and_eq_true, List.isPrefixOf_iff_prefix, bne_iff_ne, not_and, decide_eq_true_eq] at hbar ⊢
  rintro ⟨hfile, hpre⟩ hne
  refine hbar ⟨hfile, hpre.trans hp⟩ fun heq => hne ?_
  exact hpre.eq_of_length_le (by rw [heq]; exact hp.length_le)

theorem node?_of_isBarred (hq : fs.isBarred q = false) (hp : p <+: q) (hne : p ≠ q) :
    fs.node? p = none ∨ fs.node? p = some .directory := by
  unfold node?
  split
  · exact .inr rfl
  · cases hl : fs.nodes.lookup p with
    | none => exact .inl rfl
    | some n =>
      obtain ⟨before, after, hnodes, -⟩ := List.lookup_eq_some_iff.mp hl
      have hmem : (p, n) ∈ fs.nodes := by rw [hnodes]; simp
      have hbar := List.any_eq_false.mp hq (p, n) hmem
      have hpre : p.isPrefixOf q = true := List.isPrefixOf_iff_prefix.mpr hp
      simp only [hpre, bne_iff_ne, ne_eq, hne, not_false_eq_true, Bool.and_true, decide_eq_true_eq,
        Bool.and_eq_true, and_true, Decidable.not_not] at hbar
      exact .inr (by rw [hbar])

/-! ### Making directories -/

/-- What making some directories leaves as it was. -/
structure Extends (fs later : FileSystem) : Prop where
  refuses : later.refuses = fs.refuses
  workingDirectory : later.workingDirectory = fs.workingDirectory
  isBarred : ∀ q, fs.isBarred q = false → later.isBarred q = false

theorem extends_putAll : ∀ (ps : List Path) (fs : FileSystem),
    Extends fs (ps.foldl (fun fs p => fs.put p .directory) fs)
  | [], _ => ⟨rfl, rfl, fun _ h => h⟩
  | p :: ps, fs => by
    obtain ⟨h1, h2, h3⟩ := extends_putAll ps (fs.put p .directory)
    exact ⟨h1, h2, fun q hq => h3 q (isBarred_put hq (.inl rfl))⟩

theorem node?_putAll : ∀ (ps : List Path) (fs : FileSystem), (∀ p ∈ ps, p ≠ []) → ∀ q,
    (ps.foldl (fun fs p => fs.put p .directory) fs).node? q = if q ∈ ps then some .directory else fs.node? q
  | [], _, _, q => by rw [List.foldl_nil, if_neg List.not_mem_nil]
  | p :: ps, fs, h, q => by
    rw [List.foldl_cons, node?_putAll ps _ (fun r hr => h r (List.mem_cons_of_mem p hr)) q, node?_put (h p (by simp))]
    by_cases hq : q ∈ ps
    · rw [if_pos hq, if_pos (List.mem_cons_of_mem p hq)]
    · by_cases hp : q = p
      · rw [if_neg hq, if_pos hp, if_pos (by simp [hp])]
      · rw [if_neg hq, if_neg hp, if_neg (by simp [hq, hp])]

theorem mem_steps : p ∈ steps path ↔ p <+: path ∧ p ≠ [] := by
  unfold steps
  rw [List.mem_map]
  constructor
  · rintro ⟨k, hk, rfl⟩
    have hlt := List.mem_range.mp hk
    refine ⟨List.take_prefix _ _, fun h => ?_⟩
    have hlen := congrArg List.length h
    rw [List.length_take, List.length_nil] at hlen
    omega
  · rintro ⟨hp, hne⟩
    have hpos : 0 < p.length := List.length_pos_iff.mpr hne
    have hle := hp.length_le
    refine ⟨p.length - 1, List.mem_range.mpr (by omega), ?_⟩
    rw [Nat.sub_add_cancel hpos]
    exact (List.prefix_iff_eq_take.mp hp).symm

/-- **Missing directories are made** where the device is willing and no file stands in the way. -/
theorem makeDirectories_eq (hr : ∀ step, fs.refuses step = false)
    (hsteps : ∀ p, p <+: path → fs.node? p = none ∨ fs.node? p = some .directory) :
    ∃ later, fs.makeDirectories path = some later ∧ Extends fs later ∧ later.node? path = some .directory ∧
      ∀ q, ¬ q <+: path → later.node? q = fs.node? q := by
  have hfiles : ((steps path).any fun p => (fs.node? p).any (· ≠ .directory)) = false := by
    rw [List.any_eq_false]
    intro p hp
    rcases hsteps p (mem_steps.mp hp).1 with h | h <;> simp [h]
  have hne : ∀ p ∈ (steps path).filter fun p => (fs.node? p).isNone, p ≠ [] := fun p hp =>
    (mem_steps.mp (List.mem_filter.mp hp).1).2
  refine ⟨_, ?_, extends_putAll ((steps path).filter fun p => (fs.node? p).isNone) fs, ?_, ?_⟩
  · unfold makeDirectories
    rw [if_neg (Bool.eq_false_iff.mp hfiles), if_neg (by simp [hr])]
  · rw [node?_putAll _ _ hne]
    split
    · rfl
    · next hmem =>
      rcases hsteps path (List.prefix_refl path) with h | h
      · refine absurd (List.mem_filter.mpr ⟨mem_steps.mpr ⟨List.prefix_refl path, ?_⟩, by rw [h]; rfl⟩) hmem
        rintro rfl
        cases h
      · exact h
  · intro q hq
    rw [node?_putAll _ _ hne, if_neg]
    intro hmem
    exact hq (mem_steps.mp (List.mem_filter.mp hmem).1).1

/-! ### The temporary file -/

theorem le_foldl_max : ∀ (lengths : List Nat) (start : Nat),
    start ≤ lengths.foldl max start ∧ ∀ n ∈ lengths, n ≤ lengths.foldl max start
  | [], start => ⟨Nat.le_refl start, nofun⟩
  | n :: lengths, start => by
    obtain ⟨h1, h2⟩ := le_foldl_max lengths (max start n)
    rw [List.foldl_cons]
    refine ⟨by omega, fun m hm => ?_⟩
    rcases List.mem_cons.mp hm with rfl | hm
    · omega
    · exact h2 m hm

theorem freshName_not_mem (taken : List String) : freshName taken ∉ taken := by
  intro h
  have hle := (le_foldl_max (taken.map String.length) 0).2 _ (List.mem_map_of_mem h)
  unfold freshName at hle
  rw [String.length_ofList, List.length_cons, List.length_replicate] at hle
  omega

/-- Nothing stands where the temporary file is made. -/
theorem ne_temporary (directory : Path) : ∀ e ∈ fs.nodes, e.1 ≠ directory ++ [freshName (fs.list directory)] := by
  intro e he heq
  refine freshName_not_mem (fs.list directory) (List.mem_filterMap.mpr ⟨e, he, ?_⟩)
  rw [if_pos ⟨by simp [heq], by simp [heq]⟩, heq, List.getLast?_concat]

/-- **A file is replaced** where the device is willing, as if its content had been put there. -/
theorem replaceFile_eq (hr : ∀ step, fs.refuses step = false) (hb : fs.isBarred path.dropLast = false)
    (hd : fs.node? path.dropLast = some .directory) (ht : fs.node? path ≠ some .directory) (content : List UInt8) :
    fs.replaceFile path content = (.ok (), fs.put path (.file content)) := by
  obtain ⟨temporary, htemp⟩ : ∃ t, t = path.dropLast ++ [freshName (fs.list path.dropLast)] := ⟨_, rfl⟩
  have hne : temporary ≠ [] := by rw [htemp]; simp
  have hfresh : ∀ e ∈ fs.nodes, e.1 ≠ temporary := htemp ▸ ne_temporary path.dropLast
  have hcreate : fs.createTemporary path.dropLast = some (temporary, fs.put temporary (.file [])) := by
    unfold createTemporary
    rw [if_neg (by simp [hr, hb, hd]), htemp]
  have hwrite : (fs.put temporary (.file [])).write temporary content = some (fs.put temporary (.file content)) := by
    unfold write
    rw [if_neg (by rw [put, drop]; simp [hr]), put_put]
  have hsync : (fs.put temporary (.file content)).sync = some (fs.put temporary (.file content)) := by
    unfold sync
    exact if_neg (by rw [put, drop]; simp [hr])
  have htarget : (fs.put temporary (.file content)).node? path ≠ some .directory := by
    rw [node?_put hne]
    split
    · nofun
    · exact ht
  have hrename : (fs.put temporary (.file content)).rename temporary path = some (fs.put path (.file content)) := by
    unfold rename
    rw [if_neg (by simp only [htarget, decide_false, Bool.or_false]; rw [put, drop]; simp [hr]), node?_put hne,
      if_pos rfl, drop_put hfresh]
  unfold replaceFile
  simp only [hcreate, hwrite, hsync, hrename]

/-! ### A file of text -/

/-- Whether a file of text can be kept at a path, with the text that is there: the device is willing, no file stands
in the way, and what stands there is a file of that text or nothing. -/
structure Keeps (fs : FileSystem) (path : Path) (file : Option (List Char)) : Prop where
  willing : ∀ step, fs.refuses step = false
  isBarred : fs.isBarred path = false
  node : match file with
    | none => fs.node? path = none
    | some text => ∃ content, fs.node? path = some (.file content) ∧ Text.Utf8.decode? content = some text

namespace Keeps

theorem readText {file : Option (List Char)} (h : fs.Keeps path file) :
    fs.readText path = file.elim (.error .missing) .ok := by
  have hn := h.node
  unfold FileSystem.readText readBytes
  rw [if_neg (by rw [h.willing, h.isBarred]; nofun)]
  cases file with
  | none =>
    rw [hn]
    rfl
  | some text =>
    obtain ⟨content, hn, ht⟩ := hn
    rw [hn]
    dsimp only [bind, Except.bind]
    rw [ht]
    rfl

theorem node_ne_directory {file : Option (List Char)} (h : fs.Keeps path file) :
    fs.node? path ≠ some .directory := by
  have hn := h.node
  cases file with
  | none => rw [hn]; nofun
  | some text =>
    obtain ⟨content, hn, -⟩ := hn
    rw [hn]
    nofun

/-- **A text is kept**: its directory is made, and it replaces what was there. -/
theorem save {file : Option (List Char)} (h : fs.Keeps path file) (hp : path ≠ []) (text : List Char) :
    ∃ made later, fs.makeDirectories path.dropLast = some made ∧
      made.replaceFile path (Text.Utf8.encode text) = (.ok (), later) ∧
      later.Keeps path (some text) ∧ later.workingDirectory = fs.workingDirectory := by
  have hlen : path.dropLast.length < path.length := by
    have := List.length_pos_iff.mpr hp
    rw [List.length_dropLast]
    omega
  have hproper : ∀ p, p <+: path.dropLast → p <+: path ∧ p ≠ path := fun p hpre =>
    ⟨hpre.trans (List.dropLast_prefix path), fun heq => by
      have := hpre.length_le
      rw [heq] at this
      omega⟩
  have habove : ∀ p, p <+: path.dropLast → fs.node? p = none ∨ fs.node? p = some .directory := fun p hpre =>
    node?_of_isBarred h.isBarred (hproper p hpre).1 (hproper p hpre).2
  obtain ⟨made, hmade, hext, hdir, hother⟩ := makeDirectories_eq h.willing habove
  have hnode : made.node? path = fs.node? path := hother path fun hpre => (hproper path hpre).2 rfl
  have hbarred := hext.isBarred path h.isBarred
  have hwilling : ∀ step, made.refuses step = false := fun step => by rw [hext.refuses, h.willing]
  have hreplace := replaceFile_eq hwilling (isBarred_mono hbarred (List.dropLast_prefix path)) hdir
    (hnode ▸ h.node_ne_directory) (Text.Utf8.encode text)
  refine ⟨made, _, hmade, hreplace, ⟨hwilling, isBarred_put hbarred (.inr rfl), ?_⟩, hext.workingDirectory⟩
  exact ⟨_, by rw [node?_put hp, if_pos rfl], Text.Utf8.decode?_encode text⟩

end Keeps

end HostingClient.FileSystem
