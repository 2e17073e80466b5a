import HostingClient.Json.Record
import HostingClient.Proofs.Json.Written

/-! # Codecs that restore values

A codec restores a value if what it writes for the value is decoded as the value again. The codecs of
leaves restore what they can write; lists, dictionaries and records restore a value if their parts are
restored, one level further in. What is restored is restored through either printer (`Codec.Restores.run_compact`,
`Codec.Restores.run_indented`). -/

namespace HostingClient

open HostingClient.Json

/-- Writing a value and decoding it gives the value back, wherever `depth` levels may still open. -/
structure Codec.Restores {α : Type} (c : Codec α) (depth : Nat) (a : α) : Prop where
  whole : Whole (c.encode a)
  decode : ∀ p : Place, depth ≤ p.depth → c.decode p (outline (c.encode a)) = .ok a

/-! ### Dictionaries from their entries -/

section
variable {α : Type}

theorem insertEntry_append {key : String} {value : α} : ∀ {entries : List (String × α)},
    (∀ e ∈ entries, e.1 < key) → insertEntry key value entries = entries ++ [(key, value)]
  | [], _ => rfl
  | (k, v) :: rest, h => by
    have hk : k < key := h (k, v) (by simp)
    rw [insertEntry, if_neg (String.lt_asymm hk), if_pos hk, insertEntry_append fun e he => h e (by simp [he])]
    rfl

theorem Dict.ext {d d' : Dict α} (h : d.entries = d'.entries) : d = d' := by
  cases d; cases d'; cases h; rfl

/-- An entry is put to the others, or in the place of the one with its key. -/
theorem insertEntry_perm (key : String) (value : α) : ∀ entries : List (String × α),
    (insertEntry key value entries).Perm ((key, value) :: entries) ∨
      ∃ old rest, entries.Perm ((key, old) :: rest) ∧ (insertEntry key value entries).Perm ((key, value) :: rest)
  | [] => .inl (List.Perm.refl _)
  | (k, v) :: entries => by
    rw [insertEntry]
    split
    · exact .inl (List.Perm.refl _)
    · next hk =>
      split
      · rcases insertEntry_perm key value entries with h | ⟨old, rest, h, h'⟩
        · exact .inl ((h.cons _).trans (List.Perm.swap _ _ _))
        · exact .inr ⟨old, (k, v) :: rest, (h.cons _).trans (List.Perm.swap _ _ _),
            (h'.cons _).trans (List.Perm.swap _ _ _)⟩
      · next hk' =>
        obtain rfl : key = k := String.le_antisymm (String.not_lt.mp hk') (String.not_lt.mp hk)
        exact .inr ⟨v, entries, List.Perm.refl _, List.Perm.refl _⟩

/-- A dictionary is told by what its entries are, as their order is fixed. -/
theorem Dict.eq_of_perm {d d' : Dict α} (h : d.entries.Perm d'.entries) : d = d' :=
  Dict.ext (h.eq_of_pairwise (fun _ _ _ _ hlt hgt => absurd hgt (String.lt_asymm hlt)) d.sorted d'.sorted)

theorem Dict.nodup_keys (d : Dict α) : (d.entries.map (·.1)).Nodup :=
  List.pairwise_map.mpr (d.sorted.imp String.ne_of_lt)

/-- Entries with keys of their own are all kept. -/
theorem entries_foldl_insert : ∀ (later : List (String × α)) (d : Dict α), ((d.entries ++ later).map (·.1)).Nodup →
    (later.foldl (fun d e => d.insert e.1 e.2) d).entries.Perm (d.entries ++ later)
  | [], d, _ => by
    rw [List.append_nil]
    exact List.Perm.refl _
  | (k, v) :: later, d, hn => by
    have hmiddle : (d.entries ++ (k, v) :: later).Perm ((k, v) :: d.entries ++ later) := List.perm_middle
    have hn := (hmiddle.map (·.1)).nodup_iff.mp hn
    have hd : (d.insert k v).entries.Perm ((k, v) :: d.entries) := by
      rcases insertEntry_perm k v d.entries with h | ⟨old, rest, h, -⟩
      · exact h
      · have hk : k ∈ (d.entries ++ later).map (·.1) :=
          List.mem_map.mpr ⟨(k, old), List.mem_append_left _ (h.mem_iff.mpr List.mem_cons_self), rfl⟩
        exact absurd hk (List.nodup_cons.mp hn).1
    have hput : ((d.insert k v).entries ++ later).Perm ((k, v) :: d.entries ++ later) := hd.append_right later
    have hlater := entries_foldl_insert later (d.insert k v) ((hput.map (·.1)).nodup_iff.mpr hn)
    exact (hlater.trans hput).trans hmiddle.symm

/-- **The order of entries does not count**, as long as no key is repeated. -/
theorem Dict.ofList_perm {entries entries' : List (String × α)} (hn : (entries.map (·.1)).Nodup)
    (h : entries.Perm entries') : Dict.ofList entries = Dict.ofList entries' := by
  have hn' := (h.map (·.1)).nodup_iff.mp hn
  exact Dict.eq_of_perm (((entries_foldl_insert entries .empty hn).trans h).trans
    (entries_foldl_insert entries' .empty hn').symm)

/-- A dictionary is the dictionary of its own entries. -/
theorem Dict.ofList_entries (d : Dict α) : Dict.ofList d.entries = d :=
  Dict.eq_of_perm (entries_foldl_insert d.entries .empty d.nodup_keys)

end

/-! ### Leaves, lists and dictionaries -/

namespace Codec
variable {α : Type}

theorem restores_text (s : String) : Codec.text.Restores 0 s := ⟨trivial, fun _ _ => rfl⟩

theorem restores_flag (b : Bool) : Codec.flag.Restores 0 b := ⟨trivial, fun _ _ => rfl⟩

theorem Restores.mono {c : Codec α} {m n : Nat} {a : α} (h : c.Restores m a) (hle : m ≤ n) : c.Restores n a :=
  ⟨h.whole, fun p hp => h.decode p (Nat.le_trans hle hp)⟩

theorem wholeItems_map {f : α → Json} : ∀ {as : List α}, (∀ a ∈ as, Whole (f a)) → WholeItems (as.map f)
  | [], _ => trivial
  | a :: as, h => ⟨h a (by simp), wholeItems_map fun b hb => h b (by simp [hb])⟩

theorem wholeMembers_map {f : α → Json} : ∀ {es : List (String × α)}, (∀ e ∈ es, Whole (f e.2)) →
    WholeMembers (es.map fun e => (e.1, f e.2))
  | [], _ => trivial
  | e :: es, h => ⟨h e (by simp), wholeMembers_map fun b hb => h b (by simp [hb])⟩

theorem enter_of_lt {p : Place} {depth : Nat} (h : depth + 1 ≤ p.depth) :
    ∃ q : Place, p.enter = .ok q ∧ depth ≤ q.depth := by
  obtain ⟨n, hn⟩ : ∃ n, p.depth = n + 1 := ⟨p.depth - 1, by omega⟩
  refine ⟨{ p with depth := n }, ?_, by simp only; omega⟩
  rw [Place.enter, hn]

theorem items_outlines {c : Codec α} {depth : Nat} {p : Place} (hp : depth ≤ p.depth) : ∀ {as : List α},
    (∀ a ∈ as, c.Restores depth a) → Decoder.items (c.decode p) (outlines (as.map c.encode)) = .ok as
  | [], _ => rfl
  | a :: as, h => by
    have ih := items_outlines hp fun b hb => h b (List.mem_cons_of_mem a hb)
    rw [List.map_cons, outlines, Decoder.items, (h a (by simp)).decode p hp, ih]
    rfl

theorem restores_list {c : Codec α} {depth : Nat} {as : List α} (h : ∀ a ∈ as, c.Restores depth a) :
    c.list.Restores (depth + 1) as := by
  refine ⟨wholeItems_map fun a ha => (h a ha).whole, fun p hp => ?_⟩
  obtain ⟨q, hq, hle⟩ := enter_of_lt hp
  show Decoder.list c.decode p (.array (outlines (as.map c.encode)) none) = .ok as
  simp only [Decoder.list, hq]
  show (Decoder.items (c.decode q) (outlines (as.map c.encode))).bind _ = _
  rw [items_outlines hle h]
  rfl

theorem members_outlines {c : Codec α} {depth : Nat} {p : Place} (hp : depth ≤ p.depth) :
    ∀ {es : List (String × α)}, (∀ e ∈ es, c.Restores depth e.2) →
      Decoder.members (c.decode p) (memberOutlines (es.map fun e => (e.1, c.encode e.2))) = .ok es
  | [], _ => rfl
  | (k, a) :: es, h => by
    have ih := members_outlines hp fun b hb => h b (List.mem_cons_of_mem (k, a) hb)
    rw [List.map_cons, memberOutlines, Decoder.members, (h (k, a) (by simp)).decode p hp, ih]
    rfl

theorem restores_dict {c : Codec α} {depth : Nat} {d : Dict α} (h : ∀ e ∈ d.entries, c.Restores depth e.2) :
    c.dict.Restores (depth + 1) d := by
  refine ⟨wholeMembers_map fun e he => (h e he).whole, fun p hp => ?_⟩
  obtain ⟨q, hq, hle⟩ := enter_of_lt hp
  show Decoder.dict c.decode p (.object (memberOutlines (d.entries.map fun e => (e.1, c.encode e.2))) none) = .ok d
  simp only [Decoder.dict, hq]
  show (Decoder.members (c.decode q) _).bind _ = _
  rw [members_outlines hle h]
  show Except.ok (Dict.ofList d.entries) = _
  rw [Dict.ofList_entries]

end Codec

/-! ### Records -/

namespace Fields

/-- The codecs of the fields restore their values, and what is not written is what a missing field counts as. -/
def Restores : {τ : Type} → Fields τ → Nat → τ → Prop
  | _, nil, _, _ => True
  | _, cons f rest, depth, (a, as) =>
    (if f.hidden a then f.absent = some a else f.codec.Restores depth a) ∧ rest.Restores depth as

/-- What has been read of the fields once all that is written has been read. -/
def written : {τ : Type} → (fs : Fields τ) → τ → fs.Slots
  | _, nil, _ => ()
  | _, cons f rest, (a, as) => (if f.hidden a then none else some a, rest.written as)

theorem mem_members : ∀ {τ : Type} (fs : Fields τ) (as : τ) {m : String × Json}, m ∈ fs.members as → m.1 ∈ fs.names
  | _, nil, _, _, h => by simp [members] at h
  | _, cons f rest, (a, as), m, h => by
    rw [members] at h
    split at h
    · exact List.mem_cons_of_mem _ (mem_members rest as h)
    · rcases List.mem_cons.mp h with rfl | h
      · simp [names]
      · exact List.mem_cons_of_mem _ (mem_members rest as h)

theorem whole_members {depth : Nat} : ∀ {τ : Type} (fs : Fields τ) (as : τ), fs.Restores depth as →
    WholeMembers (fs.members as)
  | _, nil, _, _ => trivial
  | _, cons f rest, (a, as), h => by
    obtain ⟨ha, has⟩ := h
    have ih := whole_members rest as has
    rw [members]
    split
    · exact ih
    · next hh =>
      rw [if_neg hh] at ha
      exact ⟨ha.whole, ih⟩

section Reading
variable {τ : Type} {fs : Fields τ} {p : Place} {slots : fs.Slots} {k : String} {o : Outline}
  {ms : List (Key × Outline)}

theorem fillAll_nil : fs.fillAll p slots [] = .ok slots := by rw [fillAll.eq_def]

theorem fillAll_known {r : Except DecodeFault fs.Slots} (h : fs.fill p k o slots = some r) :
    fs.fillAll p slots ((.text k, o) :: ms) = r.bind fun later => fs.fillAll p later ms := by
  rw [fillAll.eq_def]
  simp only [Key.read, DecodeFault.lift, bind, Except.bind, h]

theorem fillAll_unknown (h : fs.fill p k o slots = none) :
    fs.fillAll p slots ((.text k, o) :: ms) =
      (DecodeFault.lift o.skip).bind fun _ => fs.fillAll p slots ms := by
  rw [fillAll.eq_def]
  simp only [Key.read, DecodeFault.lift, bind, Except.bind, h]

end Reading

section Cons
variable {α τ : Type} (f : Field α) {rest : Fields τ}

/-- What has been read of a first field and of the other ones. -/
def slotsOf (x : Option α) (slots : rest.Slots) : (cons f rest).Slots := (x, slots)

theorem fill_first (p : Place) (o : Outline) (slots : rest.Slots) :
    (cons f rest).fill p f.name o (slotsOf f none slots) =
      some ((f.codec.decode p o).map fun a => slotsOf f (some a) slots) := by
  rw [fill.eq_def]
  exact if_pos rfl

theorem fill_other (p : Place) {k : String} (hk : k ≠ f.name) (o : Outline) (x : Option α) (slots : rest.Slots) :
    (cons f rest).fill p k o (slotsOf f x slots) =
      (rest.fill p k o slots).map fun r => r.map (slotsOf f x) := by
  rw [fill.eq_def]
  exact if_neg hk

/-- Members that do not belong to the first field are read into the other ones. -/
theorem fillAll_other (p : Place) (x : Option α) :
    ∀ (ms : List (String × Json)) (slots : rest.Slots), (∀ m ∈ ms, m.1 ≠ f.name) →
      (cons f rest).fillAll p (slotsOf f x slots) (memberOutlines ms) =
        (rest.fillAll p slots (memberOutlines ms)).map (slotsOf f x)
  | [], slots, _ => by
    rw [memberOutlines, fillAll_nil, fillAll_nil]
    rfl
  | (k, j) :: ms, slots, hms => by
    have ih := fun slots => fillAll_other p x ms slots fun m hm => hms m (List.mem_cons_of_mem _ hm)
    have hfill := fill_other f p (hms (k, j) (by simp)) (outline j) x slots
    rw [memberOutlines]
    cases hr : rest.fill p k (outline j) slots with
    | none =>
      rw [hr] at hfill
      rw [fillAll_unknown hfill, fillAll_unknown hr]
      cases DecodeFault.lift (outline j).skip with
      | error e => rfl
      | ok u => exact ih slots
    | some r =>
      rw [hr] at hfill
      rw [fillAll_known hfill, fillAll_known hr]
      cases r with
      | error e => rfl
      | ok later => exact ih later

theorem close_read (a : α) (slots : rest.Slots) :
    (cons f rest).close (slotsOf f (some a) slots) = (rest.close slots).map fun as => (a, as) := by
  rw [close.eq_def]
  rfl

theorem close_absent {a : α} (h : f.absent = some a) (slots : rest.Slots) :
    (cons f rest).close (slotsOf f none slots) = (rest.close slots).map fun as => (a, as) := by
  rw [close.eq_def]
  simp only [slotsOf, h]
  rfl

end Cons

/-- Reading what is written of the fields gives their values. -/
theorem fillAll_members {depth : Nat} {p : Place} (hp : depth ≤ p.depth) : ∀ {τ : Type} (fs : Fields τ) (as : τ),
    fs.names.Nodup → fs.Restores depth as →
      fs.fillAll p fs.noSlots (memberOutlines (fs.members as)) = .ok (fs.written as)
  | _, nil, _, _, _ => rfl
  | _, cons f rest, (a, as), hn, h => by
    obtain ⟨ha, has⟩ := h
    obtain ⟨hf, hn⟩ := List.nodup_cons.mp hn
    have ih := fillAll_members hp rest as hn has
    have hms : ∀ m ∈ rest.members as, m.1 ≠ f.name := fun m hm e => hf (e ▸ mem_members rest as hm)
    show (cons f rest).fillAll p (slotsOf f none rest.noSlots) _ =
      .ok (slotsOf f (if f.hidden a then none else some a) (rest.written as))
    rw [members]
    split
    · rw [fillAll_other f p none _ _ hms, ih]
      rfl
    · next hh =>
      rw [if_neg hh] at ha
      have hfill := fill_first f p (outline (f.codec.encode a)) rest.noSlots
      rw [ha.decode p hp] at hfill
      rw [memberOutlines, fillAll_known hfill]
      show (cons f rest).fillAll p (slotsOf f (some a) rest.noSlots) (memberOutlines (rest.members as)) = _
      rw [fillAll_other f p (some a) _ _ hms, ih]
      rfl

theorem close_written {depth : Nat} : ∀ {τ : Type} (fs : Fields τ) (as : τ), fs.Restores depth as →
    fs.close (fs.written as) = .ok as
  | _, nil, _, _ => rfl
  | _, cons f rest, (a, as), h => by
    obtain ⟨ha, has⟩ := h
    have ih := close_written rest as has
    show (cons f rest).close (slotsOf f (if f.hidden a then none else some a) (rest.written as)) = _
    split at ha
    · next hh => rw [if_pos hh, close_absent f ha, ih]; rfl
    · next hh => rw [if_neg hh, close_read, ih]; rfl

end Fields

namespace Record
variable {α : Type}

/-- **A record is restored** if its fields are and have different names. -/
theorem restores (r : Record α) {depth : Nat} {a : α} (hb : r.build (r.parts a) = a) (hn : r.fields.names.Nodup)
    (h : r.fields.Restores depth (r.parts a)) : r.codec.Restores (depth + 1) a := by
  refine ⟨Fields.whole_members r.fields (r.parts a) h, fun p hp => ?_⟩
  obtain ⟨q, hq, hle⟩ := Codec.enter_of_lt hp
  show r.decode p (.object (memberOutlines (r.fields.members (r.parts a))) none) = .ok a
  simp only [decode, hq]
  show (r.fields.fillAll q r.fields.noSlots (memberOutlines (r.fields.members (r.parts a)))).bind _ = _
  rw [Fields.fillAll_members hle r.fields (r.parts a) hn h]
  show (r.fields.close (r.fields.written (r.parts a))).map r.build = _
  rw [Fields.close_written r.fields (r.parts a) h, Except.map, hb]

end Record

namespace Codec
variable {α : Type}

/-! ### Through the printers -/

theorem Restores.run_compact {c : Codec α} {a : α} (h : c.Restores 127 a) :
    c.decode.run (c.encode a).compact = .ok a := by
  rw [Decoder.run_compact _ h.whole]
  exact h.decode .ofText (Nat.le_refl 127)

theorem Restores.run_indented {c : Codec α} {a : α} (h : c.Restores 127 a) :
    c.decode.run (c.encode a).indented = .ok a := by
  rw [Decoder.run_indented _ h.whole]
  exact h.decode .ofText (Nat.le_refl 127)

end Codec

end HostingClient
