import HostingClient.Proofs.Json.Range
import HostingClient.Proofs.Json.Restore
import HostingClient.Proofs.Time.Timestamp

/-! # Codecs that keep what they decode

A codec keeps a value if the value, wherever decoding a text gives it, is restored there when it is written and decoded
again. Leaves are kept; lists, dictionaries, free-form values and records are kept if their parts are, one level
further in (`Record.keeps`). What is kept is restored once it has been decoded from a text
(`Codec.Keeps.restores_of_run`). -/

namespace HostingClient

open HostingClient.Json

/-- Whatever decodes to a value where `depth` levels may open, with integers that fit a word, the value is restored
from there on. -/
def Codec.Keeps {α : Type} (c : Codec α) (depth : Nat) (a : α) : Prop :=
  ∀ (p : Place) (o : Outline), depth ≤ p.depth → o.Fits → c.decode p o = .ok a → c.Restores p.depth a

/-- The level inside brackets is one less. -/
theorem Place.depth_of_enter {p q : Place} (h : p.enter = .ok q) : p.depth = q.depth + 1 := by
  unfold Place.enter at h
  split at h
  · cases h
  · next n hn =>
    cases h
    exact hn

namespace Codec
variable {α : Type} {c : Codec α} {n : Nat}

/-! ### Leaves -/

theorem Restores.keeps {a : α} (h : c.Restores 0 a) : c.Keeps n a := fun _ _ _ _ _ => h.mono (Nat.zero_le _)

theorem keeps_text {s : String} : Codec.text.Keeps n s := (restores_text s).keeps

theorem keeps_flag {b : Bool} : Codec.flag.Keeps n b := (restores_flag b).keeps

theorem restores_natural {m : Nat} (h : m ≤ greatestWord) : Codec.natural.Restores 0 m := by
  have hneg : leastWord ≤ 0 := by decide
  refine ⟨⟨by omega, by exact_mod_cast h⟩, fun p _ => ?_⟩
  simp only [Codec.natural, Json.ofNat, outline, Decoder.natural]
  rw [if_pos (Int.natCast_nonneg m), Int.toNat_natCast]

/-- A natural number that was read fits a word. -/
theorem keeps_natural {m : Nat} : Codec.natural.Keeps n m := by
  intro p o _ hfits h
  have hle : m ≤ greatestWord := by
    unfold Codec.natural Decoder.natural at h
    dsimp only at h
    split at h
    · next i =>
      split at h
      · cases h
        have hi : i ≤ greatestWord := hfits.2
        omega
      · cases h
    · cases h
  exact (restores_natural hle).mono (Nat.zero_le _)

/-- Only instants that can be written are read. -/
theorem keeps_timestamp {t : Time.Instant} : Codec.timestamp.Keeps n t := fun _ _ _ _ h =>
  (restores_timestamp (isReadable_of_decode h)).mono (Nat.zero_le _)

/-- A case that is read has a name under which it is found again. -/
theorem restores_variant [DecidableEq α] {names : List (String × α)} (hnames : ∀ e ∈ names, names.lookup e.1 = some e.2)
    {e : String × α} (he : e ∈ names) : (Codec.variant names).Restores 0 e.2 := by
  cases hfind : names.find? (fun x => x.2 = e.2) with
  | none =>
    have hnot := List.find?_eq_none.mp hfind e he
    simp at hnot
  | some x =>
    have hx : x.2 = e.2 := by simpa using List.find?_some hfind
    have hencode : (Codec.variant names).encode e.2 = .text x.1 := by
      unfold Codec.variant
      simp only [hfind]
      rfl
    have hpick : Decoder.pick names x.1 = .ok e.2 := by
      rw [Decoder.pick, hnames x (List.mem_of_find?_eq_some hfind), hx]
    refine ⟨by rw [hencode]; trivial, fun p _ => ?_⟩
    rw [hencode]
    exact hpick

theorem mem_of_pick {names : List (String × α)} {name : String} {a : α} (h : Decoder.pick names name = .ok a) :
    ∃ e ∈ names, e.2 = a := by
  unfold Decoder.pick at h
  split at h
  · next b hb =>
    cases h
    rw [List.lookup_eq_some_iff] at hb
    obtain ⟨before, after, rfl, -⟩ := hb
    exact ⟨_, List.mem_append_right _ List.mem_cons_self, rfl⟩
  · cases h

/-- A case is read from its name alone, or from what belongs to its name. -/
theorem exists_of_tagged {bare : String → Except DecodeFault α} {inner : String → Except DecodeFault (Decoder α)}
    {p : Place} {o : Outline} {a : α} (h : Decoder.tagged bare inner p o = .ok a) :
    (∃ name, bare name = .ok a) ∨ ∃ name d q value, inner name = .ok d ∧ d q value = .ok a := by
  unfold Decoder.tagged at h
  split at h
  · next name => exact .inl ⟨name, h⟩
  · cases h
  · cases h
  · obtain ⟨q, -, h⟩ := bind_eq_ok.mp h
    split at h
    · cases h
    · cases h
    · cases h
    · next k value rest _ _ _ =>
      obtain ⟨name, -, h⟩ := bind_eq_ok.mp h
      obtain ⟨d, hd, h⟩ := bind_eq_ok.mp h
      obtain ⟨b, hb, h⟩ := bind_eq_ok.mp h
      split at h
      · obtain ⟨-, -, h⟩ := bind_eq_ok.mp h
        cases h
        exact .inr ⟨name, d, q, value, hd, hb⟩
      · cases h
  · cases h

theorem mem_of_variant {names : List (String × α)} {p : Place} {o : Outline} {a : α}
    (h : Decoder.variant names p o = .ok a) : ∃ e ∈ names, e.2 = a := by
  rcases exists_of_tagged h with ⟨name, h⟩ | ⟨name, d, q, value, hd, h⟩
  · exact mem_of_pick h
  · obtain ⟨b, hpick, hd⟩ := bind_eq_ok.mp hd
    cases hd
    dsimp only at h
    split at h
    · cases h
      exact mem_of_pick hpick
    · cases h

theorem keeps_variant [DecidableEq α] {names : List (String × α)} (hnames : ∀ e ∈ names, names.lookup e.1 = some e.2)
    {a : α} : (Codec.variant names).Keeps n a := by
  intro p o _ _ h
  obtain ⟨e, he, rfl⟩ := mem_of_variant h
  exact (restores_variant hnames he).mono (Nat.zero_le _)

/-! ### Options, lists and dictionaries -/

theorem restores_none {depth : Nat} : c.option.Restores depth none := ⟨trivial, fun _ _ => rfl⟩

theorem Restores.some {depth : Nat} {a : α} (h : c.Restores depth a) (hne : c.encode a ≠ .null) :
    c.option.Restores depth (some a) := by
  refine ⟨h.whole, fun p hp => ?_⟩
  have hdecode := h.decode p hp
  show Decoder.option c.decode p (outline (c.encode a)) = .ok (Option.some a)
  unfold Decoder.option
  split
  · next hnull =>
    exfalso
    cases hj : c.encode a <;> rw [hj, outline] at hnull <;> first | exact hne hj | cases hnull
  · rw [hdecode]
    rfl

/-- An optional value is kept if the value is, as long as it is not written as null. -/
theorem keeps_option {x : Option α} (hne : ∀ a, c.encode a ≠ .null) (h : ∀ a, x = some a → c.Keeps n a) :
    c.option.Keeps n x := by
  intro p o hp hfits hd
  unfold Codec.option Decoder.option at hd
  dsimp only at hd
  split at hd
  · cases hd
    exact restores_none
  · obtain ⟨a, ha, rfl⟩ := map_eq_ok.mp hd
    exact (h a rfl p _ hp hfits ha).some (hne a)

theorem exists_of_items {d : Outline → Except DecodeFault α} : ∀ {os : List Outline} {as : List α},
    Decoder.items d os = .ok as → ∀ a ∈ as, ∃ o ∈ os, d o = .ok a
  | [], _, h, a, ha => by
    cases h
    exact absurd ha List.not_mem_nil
  | o :: os, _, h, a, ha => by
    obtain ⟨b, hb, h⟩ := bind_eq_ok.mp h
    obtain ⟨bs, hbs, h⟩ := bind_eq_ok.mp h
    cases h
    rcases List.mem_cons.mp ha with rfl | ha
    · exact ⟨o, List.mem_cons_self, hb⟩
    · obtain ⟨o', ho', ha⟩ := exists_of_items hbs a ha
      exact ⟨o', List.mem_cons_of_mem _ ho', ha⟩

/-- A list is kept if its elements are. -/
theorem keeps_list {as : List α} (h : ∀ a ∈ as, c.Keeps n a) : c.list.Keeps (n + 1) as := by
  intro p o hp hfits hd
  unfold Codec.list Decoder.list at hd
  dsimp only at hd
  split at hd
  · obtain ⟨q, hq, hd⟩ := bind_eq_ok.mp hd
    obtain ⟨bs, hitems, hd⟩ := bind_eq_ok.mp hd
    obtain ⟨-, -, hd⟩ := bind_eq_ok.mp hd
    cases hd
    have hdepth := Place.depth_of_enter hq
    rw [hdepth]
    refine restores_list fun a ha => ?_
    obtain ⟨part, hpart, ha'⟩ := exists_of_items hitems a ha
    exact h a ha q part (by omega) (hfits.of_mem_parts hpart) ha'
  · cases hd

theorem exists_of_members {d : Outline → Except DecodeFault α} : ∀ {os : List (Key × Outline)}
    {es : List (String × α)}, Decoder.members d os = .ok es → ∀ e ∈ es, ∃ m ∈ os, d m.2 = .ok e.2
  | [], _, h, e, he => by
    cases h
    exact absurd he List.not_mem_nil
  | (k, o) :: os, _, h, e, he => by
    obtain ⟨name, -, h⟩ := bind_eq_ok.mp h
    obtain ⟨b, hb, h⟩ := bind_eq_ok.mp h
    obtain ⟨bs, hbs, h⟩ := bind_eq_ok.mp h
    cases h
    rcases List.mem_cons.mp he with rfl | he
    · exact ⟨(k, o), List.mem_cons_self, hb⟩
    · obtain ⟨m, hm, he⟩ := exists_of_members hbs e he
      exact ⟨m, List.mem_cons_of_mem _ hm, he⟩

theorem mem_foldl_insert : ∀ (es : List (String × α)) (d : Dict α) {e : String × α},
    e ∈ (es.foldl (fun d e => d.insert e.1 e.2) d).entries → e ∈ d.entries ∨ e ∈ es
  | [], _, _, h => .inl h
  | x :: es, d, e, h => by
    rcases mem_foldl_insert es (d.insert x.1 x.2) h with h | h
    · rcases mem_insertEntry h with rfl | h
      · exact .inr List.mem_cons_self
      · exact .inl h
    · exact .inr (List.mem_cons_of_mem x h)

theorem mem_of_mem_ofList {es : List (String × α)} {e : String × α} (h : e ∈ (Dict.ofList es).entries) : e ∈ es :=
  (mem_foldl_insert es Dict.empty h).resolve_left List.not_mem_nil

/-- A dictionary is kept if its values are. -/
theorem keeps_dict {d : Dict α} (h : ∀ e ∈ d.entries, c.Keeps n e.2) : c.dict.Keeps (n + 1) d := by
  intro p o hp hfits hd
  unfold Codec.dict Decoder.dict at hd
  dsimp only at hd
  split at hd
  · next os stop =>
    obtain ⟨q, hq, hd⟩ := bind_eq_ok.mp hd
    obtain ⟨es, hmembers, hd⟩ := bind_eq_ok.mp hd
    obtain ⟨-, -, hd⟩ := bind_eq_ok.mp hd
    cases hd
    have hdepth := Place.depth_of_enter hq
    rw [hdepth]
    refine restores_dict fun e he => ?_
    obtain ⟨m, hm, he'⟩ := exists_of_members hmembers e (mem_of_mem_ofList he)
    exact h e he q m.2 (by omega) (hfits.of_mem_parts (List.mem_map_of_mem hm)) he'
  · cases hd

theorem restores_nil {depth : Nat} : c.list.Restores (depth + 1) [] :=
  restores_list fun _ ha => absurd ha List.not_mem_nil

theorem restores_empty {depth : Nat} : c.dict.Restores (depth + 1) Dict.empty :=
  restores_dict fun _ he => absurd he List.not_mem_nil

end Codec

/-! ### Free-form values -/

/-- Wherever at least `depth` levels may open a value is decoded from its own outline. -/
def Settled (depth : Nat) (j : Json) : Prop := ∀ d, depth ≤ d → Decoder.anyValue d (outline j) = .ok j

theorem anyItems_outlines {depth d : Nat} (hd : depth ≤ d) : ∀ {js : List Json}, (∀ j ∈ js, Settled depth j) →
    Decoder.anyItems d (outlines js) = .ok js
  | [], _ => rfl
  | j :: js, h => by
    have ih := anyItems_outlines hd fun x hx => h x (List.mem_cons_of_mem j hx)
    rw [outlines, Decoder.anyItems, h j List.mem_cons_self d hd, ih]
    rfl

/-- Members in order are put behind those that were decoded before them. -/
theorem anyMembers_outlines {depth d : Nat} (hd : depth ≤ d) : ∀ {es done : List (String × Json)},
    SortedEntries (done ++ es) → (∀ e ∈ es, Settled depth e.2) →
      Decoder.anyMembers d done (memberOutlines es) = .ok (done ++ es)
  | [], done, _, _ => by
    rw [memberOutlines, Decoder.anyMembers, List.append_nil]
  | (k, j) :: es, done, hsorted, h => by
    have hlast : insertEntry k j done = done ++ [(k, j)] :=
      insertEntry_append fun e he => (List.pairwise_append.mp hsorted).2.2 e he (k, j) List.mem_cons_self
    have hsorted' : SortedEntries ((done ++ [(k, j)]) ++ es) := by simpa using hsorted
    have ih := anyMembers_outlines hd hsorted' fun e he => h e (List.mem_cons_of_mem _ he)
    have hj : Decoder.anyValue d (outline j) = .ok j := h (k, j) List.mem_cons_self d hd
    rw [memberOutlines, Decoder.anyMembers, hj]
    simp only [Key.read, DecodeFault.lift, bind, Except.bind, hlast, ih, List.append_assoc, List.singleton_append]

mutual
/-- **A free-form value that was decoded is decoded from its own outline**, since its members were sorted. -/
theorem settled_of_anyValue : ∀ {depth : Nat} {o : Outline} {j : Json}, Decoder.anyValue depth o = .ok j →
    Settled depth j
  | _, .null, _, h => by
    rw [Decoder.anyValue] at h
    cases h
    exact fun d _ => by rw [outline, Decoder.anyValue]
  | _, .bool b, _, h => by
    rw [Decoder.anyValue] at h
    cases h
    exact fun d _ => by rw [outline, Decoder.anyValue]
  | _, .number n, _, h => by
    rw [Decoder.anyValue] at h
    obtain ⟨n', -, rfl⟩ := map_eq_ok.mp h
    exact fun d _ => by rw [outline, Decoder.anyValue]; rfl
  | _, .text s, _, h => by
    rw [Decoder.anyValue] at h
    obtain ⟨s', -, rfl⟩ := map_eq_ok.mp h
    exact fun d _ => by rw [outline, Decoder.anyValue]; rfl
  | 0, .array os stop, _, h => by cases h
  | depth + 1, .array os stop, _, h => by
    rw [Decoder.anyValue] at h
    obtain ⟨js, hjs, h⟩ := bind_eq_ok.mp h
    obtain ⟨-, -, h⟩ := bind_eq_ok.mp h
    cases h
    have hitems := settled_of_anyItems hjs
    intro d hd
    obtain ⟨d, rfl⟩ : ∃ e, d = e + 1 := ⟨d - 1, by omega⟩
    rw [outline, Decoder.anyValue, anyItems_outlines (Nat.le_of_succ_le_succ hd) hitems]
    rfl
  | 0, .object os stop, _, h => by cases h
  | depth + 1, .object os stop, _, h => by
    rw [Decoder.anyValue] at h
    obtain ⟨es, hes, h⟩ := bind_eq_ok.mp h
    obtain ⟨-, -, h⟩ := bind_eq_ok.mp h
    cases h
    obtain ⟨hsorted, hvalues⟩ :=
      settled_of_anyMembers hes List.Pairwise.nil fun e he => absurd he List.not_mem_nil
    intro d hd
    obtain ⟨d, rfl⟩ : ∃ e, d = e + 1 := ⟨d - 1, by omega⟩
    have hmembers : Decoder.anyMembers d [] (memberOutlines es) = .ok es :=
      anyMembers_outlines (Nat.le_of_succ_le_succ hd) hsorted hvalues
    rw [outline, Decoder.anyValue, hmembers]
    rfl
  | _, .broken f g, _, h => by
    rw [Decoder.anyValue] at h
    cases h

theorem settled_of_anyItems : ∀ {depth : Nat} {os : List Outline} {js : List Json},
    Decoder.anyItems depth os = .ok js → ∀ j ∈ js, Settled depth j
  | _, [], _, h => by
    rw [Decoder.anyItems] at h
    cases h
    exact fun j hj => absurd hj List.not_mem_nil
  | _, o :: os, _, h => by
    rw [Decoder.anyItems] at h
    obtain ⟨j, hj, h⟩ := bind_eq_ok.mp h
    obtain ⟨js, hjs, h⟩ := bind_eq_ok.mp h
    cases h
    have hfirst := settled_of_anyValue hj
    have hrest := settled_of_anyItems hjs
    intro x hx
    rcases List.mem_cons.mp hx with rfl | hx
    · exact hfirst
    · exact hrest x hx

theorem settled_of_anyMembers : ∀ {depth : Nat} {done : List (String × Json)} {os : List (Key × Outline)}
    {es : List (String × Json)}, Decoder.anyMembers depth done os = .ok es → SortedEntries done →
      (∀ e ∈ done, Settled depth e.2) → SortedEntries es ∧ ∀ e ∈ es, Settled depth e.2
  | _, _, [], _, h, hsorted, hdone => by
    rw [Decoder.anyMembers] at h
    cases h
    exact ⟨hsorted, hdone⟩
  | _, done, (k, o) :: os, _, h, hsorted, hdone => by
    rw [Decoder.anyMembers] at h
    obtain ⟨name, -, h⟩ := bind_eq_ok.mp h
    obtain ⟨j, hj, h⟩ := bind_eq_ok.mp h
    have hvalue := settled_of_anyValue hj
    refine settled_of_anyMembers h (sorted_insertEntry hsorted) fun e he => ?_
    rcases mem_insertEntry he with rfl | he
    · exact hvalue
    · exact hdone e he
end

/-- A free-form value is kept if all its numbers are integers. -/
theorem Codec.keeps_any {n : Nat} {j : Json} (h : Whole j) : Codec.any.Keeps n j :=
  fun _ _ _ _ hd => ⟨h, fun q hq => settled_of_anyValue hd q.depth hq⟩

/-! ### Records -/

/-- The field keeps a value: it is restored, or it is not written and stands for a missing field. -/
def Field.Keeps {α : Type} (f : Field α) (depth : Nat) (a : α) : Prop :=
  ∀ (p : Place) (os : List Outline), depth ≤ p.depth → (∀ o ∈ os, o.Fits) → f.Accepted p os a →
    if f.hidden a then f.absent = some a else f.codec.Restores p.depth a

namespace Fields

/-- All fields keep their values. -/
def Keeps (depth : Nat) : {τ : Type} → Fields τ → τ → Prop
  | _, nil, _ => True
  | _, cons f rest, (a, as) => f.Keeps depth a ∧ rest.Keeps depth as

theorem Keeps.restores {depth : Nat} {p : Place} {os : List Outline} (hp : depth ≤ p.depth)
    (hos : ∀ o ∈ os, o.Fits) : ∀ {τ : Type} {fs : Fields τ} {as : τ}, fs.Keeps depth as → fs.Accepted p os as →
      fs.Restores p.depth as
  | _, nil, _, _, _ => trivial
  | _, cons _ _, (_, _), h, ha => ⟨h.1 p os hp hos ha.1, Keeps.restores hp hos h.2 ha.2⟩

end Fields

section
variable {α : Type} {n : Nat} {name : String} {c : Codec α}

theorem Codec.Keeps.required {a : α} (h : c.Keeps n a) : (Field.required name c).Keeps n a := by
  intro p os hp hos ha
  rcases ha with ⟨o, ho, hd⟩ | hd | hd
  · exact h p o hp (hos o ho) hd
  · cases hd
  · cases hd

theorem Codec.Keeps.defaulted {a value : α} (h : c.Keeps n a) (hvalue : c.Restores n value) :
    (Field.defaulted name c value).Keeps n a := by
  intro p os hp hos ha
  rcases ha with ⟨o, ho, hd⟩ | hd | hd
  · exact h p o hp (hos o ho) hd
  · cases hd
    exact hvalue.mono hp
  · cases hd
    exact hvalue.mono hp

theorem Codec.Keeps.optional {x : Option α} (h : c.option.Keeps n x) : (Field.optional name c).Keeps n x := by
  intro p os hp hos ha
  rcases ha with ⟨o, ho, hd⟩ | hd | hd
  · exact h p o hp (hos o ho) hd
  · cases hd
    exact Codec.restores_none
  · cases hd

theorem Codec.Keeps.open? {x : Option α} (h : c.option.Keeps n x) : (Field.open? name c).Keeps n x :=
  h.defaulted Codec.restores_none

/-- An unset field need not be written if that is what a missing one counts as. -/
theorem Field.Keeps.hideUnset {f : Field (Option α)} {x : Option α} (h : f.Keeps n x)
    (hshown : ∀ x, f.hidden x = false) (habsent : f.absent = some none) : f.hideUnset.Keeps n x := by
  intro p os hp hos ha
  cases x with
  | none => exact habsent
  | some a =>
    have hkept := h p os hp hos ha
    rw [hshown] at hkept
    exact hkept

end

/-- **A record is kept if its fields are.** -/
theorem Record.keeps {α : Type} (r : Record α) {n : Nat} {a : α} (hparts : ∀ as, r.parts (r.build as) = as)
    (hnames : r.fields.names.Nodup) (h : r.fields.Keeps n (r.parts a)) : r.codec.Keeps (n + 1) a := by
  intro p o hp hfits hd
  obtain ⟨q, as, hq, rfl, has⟩ := Record.accepted_of_decode hd
  have hdepth := Place.depth_of_enter hq
  rw [hparts] at h
  have hrestores := h.restores (by omega) (fun o ho => hfits.of_mem_parts ho) has
  rw [hdepth]
  exact r.restores (by rw [hparts]) hnames (by rwa [hparts])

/-- **What is kept survives**: a value that was decoded from a text is restored from what is written of it. -/
theorem Codec.Keeps.restores_of_run {α : Type} {c : Codec α} {a : α} {text : String} (h : c.Keeps 127 a)
    (hd : c.decode.run text = .ok a) : c.Restores 127 a := by
  unfold Decoder.run Decoder.document at hd
  obtain ⟨b, hb, hd⟩ := bind_eq_ok.mp hd
  split at hd
  · cases hd
  · cases hd
    exact h .ofText _ (Nat.le_refl 127) (fits_readDocument _) hb

end HostingClient
