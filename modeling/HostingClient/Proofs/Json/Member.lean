import HostingClient.Proofs.Json.Accepted

/-! # What a field is read from

The value of a field in a record that has been decoded is that of the member with the name of the field, or of the
item at the place of the field (`Record.decode_source`), whatever else the object or array holds. -/

namespace HostingClient

open HostingClient.Json

namespace Fields

/-- A field among some fields. -/
inductive Ref {α : Type} (f : Field α) : {τ : Type} → Fields τ → Type 1 where
  | here {τ : Type} {rest : Fields τ} : Ref f (cons f rest)
  | there {β τ : Type} {g : Field β} {rest : Fields τ} (i : Ref f rest) : Ref f (cons g rest)

namespace Ref
variable {α : Type} {f : Field α}

/-- What has been read of the field. -/
def slot : {τ : Type} → {fs : Fields τ} → Ref f fs → fs.Slots → Option α
  | _, _, here, slots => slots.1
  | _, _, there i, slots => i.slot slots.2

/-- The value of the field. -/
def value : {τ : Type} → {fs : Fields τ} → Ref f fs → τ → α
  | _, _, here, as => as.1
  | _, _, there i, as => i.value as.2

/-- The place of the field. -/
def index : {τ : Type} → {fs : Fields τ} → Ref f fs → Nat
  | _, _, here => 0
  | _, _, there i => i.index + 1

/-- Whether an outline has a part for the field. -/
def IsSource {τ : Type} {fs : Fields τ} (i : Ref f fs) (part : Outline) : Outline → Prop
  | .object members _ => ∃ k, k.read = .ok f.name ∧ (k, part) ∈ members
  | .array items _ => items[i.index]? = some part
  | _ => False

variable {p : Place}

theorem name_mem : ∀ {τ : Type} {fs : Fields τ}, Ref f fs → f.name ∈ fs.names
  | _, _, here => by
    rw [names]
    exact List.mem_cons_self
  | _, _, there i => by
    rw [names]
    exact List.mem_cons_of_mem _ i.name_mem

/-- A member with the name of the field is read as the field, if the field has not been read yet. -/
theorem fill_eq {o : Outline} : ∀ {τ : Type} {fs : Fields τ} (i : Ref f fs) (slots : fs.Slots), fs.names.Nodup →
    ∃ r, fs.fill p f.name o slots = some r ∧ ∀ later, r = .ok later →
      i.slot slots = none ∧ ∃ a, f.codec.decode p o = .ok a ∧ i.slot later = some a
  | _, _, here, slots, _ => by
    rw [fill.eq_def]
    refine ⟨_, if_pos rfl, fun later h => ?_⟩
    split at h
    · cases h
    · next hnone =>
      obtain ⟨a, ha, rfl⟩ := map_eq_ok.mp h
      exact ⟨hnone, a, ha, rfl⟩
  | _, _, there (g := g) i, slots, hn => by
    obtain ⟨hg, hn⟩ := List.nodup_cons.mp hn
    have hne : f.name ≠ g.name := fun he => hg (he ▸ i.name_mem)
    obtain ⟨r, hr, hread⟩ := fill_eq i slots.2 hn
    rw [fill.eq_def]
    refine ⟨_, (if_neg hne).trans (by rw [hr]; rfl), fun later h => ?_⟩
    obtain ⟨rest, rfl, rfl⟩ := map_eq_ok.mp h
    exact hread rest rfl

/-- Members of other names leave the field alone. -/
theorem slot_fill {name : String} (hname : name ≠ f.name) {o : Outline} :
    ∀ {τ : Type} {fs : Fields τ} (i : Ref f fs) {slots later : fs.Slots},
      fs.fill p name o slots = some (.ok later) → i.slot later = i.slot slots
  | _, _, here, slots, later, h => by
    rw [fill.eq_def] at h
    dsimp only at h
    rw [if_neg hname] at h
    obtain ⟨r, -, hmap⟩ := Option.map_eq_some_iff.mp h
    obtain ⟨rest, -, rfl⟩ := map_eq_ok.mp hmap
    rfl
  | _, _, there i, slots, later, h => by
    rw [fill.eq_def] at h
    dsimp only at h
    split at h
    · split at h
      · cases h
      · obtain ⟨a, -, rfl⟩ := map_eq_ok.mp (Option.some.inj h)
        rfl
    · obtain ⟨r, hr, hmap⟩ := Option.map_eq_some_iff.mp h
      obtain ⟨rest, rfl, rfl⟩ := map_eq_ok.mp hmap
      exact slot_fill hname i hr

/-- One member: it is the value of the field if it has its name, and else leaves the field alone. -/
theorem fillAll_cons {τ : Type} {fs : Fields τ} (i : Ref f fs) (hn : fs.names.Nodup) {slots later : fs.Slots}
    {k : Key} {o : Outline} {members : List (Key × Outline)}
    (h : fs.fillAll p slots ((k, o) :: members) = .ok later) :
    ∃ next, fs.fillAll p next members = .ok later ∧
      (k.read = .ok f.name ∧ i.slot slots = none ∧ (∃ a, f.codec.decode p o = .ok a ∧ i.slot next = some a) ∨
        k.read ≠ .ok f.name ∧ i.slot next = i.slot slots) := by
  rw [fillAll.eq_def] at h
  obtain ⟨name, hname, h⟩ := bind_eq_ok.mp h
  have hread : k.read = .ok name := by
    cases hk : k.read with
    | ok n =>
      rw [hk] at hname
      exact congrArg Except.ok (Except.ok.inj hname)
    | error e =>
      rw [hk] at hname
      cases hname
  rw [hread]
  by_cases hf : name = f.name
  · subst hf
    obtain ⟨r, hr, hfilled⟩ := i.fill_eq (p := p) (o := o) slots hn
    rw [hr] at h
    obtain ⟨next, rfl, h⟩ := bind_eq_ok.mp h
    exact ⟨next, h, .inl ⟨rfl, hfilled next rfl⟩⟩
  · have hne : (Except.ok name : Except SyntaxFault String) ≠ .ok f.name := fun he => hf (Except.ok.inj he)
    split at h
    · next r hr =>
      obtain ⟨next, rfl, h⟩ := bind_eq_ok.mp h
      exact ⟨next, h, .inr ⟨hne, i.slot_fill hf hr⟩⟩
    · obtain ⟨u, -, h⟩ := bind_eq_ok.mp h
      exact ⟨slots, h, .inr ⟨hne, rfl⟩⟩

/-- What has been read of a field stays. -/
theorem slot_fillAll {τ : Type} {fs : Fields τ} (i : Ref f fs) (hn : fs.names.Nodup) :
    ∀ {members : List (Key × Outline)} {slots later : fs.Slots}, fs.fillAll p slots members = .ok later →
      ∀ {a : α}, i.slot slots = some a → i.slot later = some a
  | [], slots, later, h, a, ha => by
    rw [fillAll.eq_def] at h
    obtain rfl := Except.ok.inj h
    exact ha
  | (k, o) :: members, slots, later, h, a, ha => by
    obtain ⟨next, hnext, hstep⟩ := i.fillAll_cons hn h
    refine slot_fillAll i hn hnext ?_
    rcases hstep with ⟨-, hnone, -⟩ | ⟨-, hsame⟩
    · rw [hnone] at ha
      cases ha
    · rw [hsame, ha]

/-- The member with the name of a field is the value of the field. -/
theorem fillAll_source {τ : Type} {fs : Fields τ} (i : Ref f fs) (hn : fs.names.Nodup) {k : Key} {part : Outline}
    (hk : k.read = .ok f.name) : ∀ {members : List (Key × Outline)} {slots later : fs.Slots},
      fs.fillAll p slots members = .ok later → (k, part) ∈ members →
        ∃ a, f.codec.decode p part = .ok a ∧ i.slot later = some a
  | (k', o) :: members, slots, later, h, hmem => by
    obtain ⟨next, hnext, hstep⟩ := i.fillAll_cons hn h
    rcases List.mem_cons.mp hmem with he | hmem
    · cases he
      rcases hstep with ⟨-, -, a, ha, hslot⟩ | ⟨hne, -⟩
      · exact ⟨a, ha, i.slot_fillAll hn hnext hslot⟩
      · exact absurd hk hne
    · exact fillAll_source i hn hk hnext hmem

theorem value_close : ∀ {τ : Type} {fs : Fields τ} (i : Ref f fs) {slots : fs.Slots} {as : τ} {a : α},
    fs.close slots = .ok as → i.slot slots = some a → i.value as = a
  | _, _, here, slots, as, a, h, ha => by
    have ha : slots.1 = some a := ha
    rcases (close_cons h).1 with hslot | ⟨hnone, -⟩
    · exact Option.some.inj (hslot.symm.trans ha)
    · rw [hnone] at ha
      cases ha
  | _, _, there i, slots, as, a, h, ha => value_close i (close_cons h).2 ha

/-- The item at the place of a field is the value of the field. -/
theorem ofItems_source {stop : Option SyntaxFault} {part : Outline} : ∀ {τ : Type} {fs : Fields τ} (i : Ref f fs)
    {items : List Outline} {as : τ}, fs.ofItems p stop items = .ok as → items[i.index]? = some part →
      f.codec.decode p part = .ok (i.value as)
  | _, _, here, o :: items, as, h, hpart => by
    obtain rfl : o = part := Option.some.inj hpart
    rw [ofItems.eq_def] at h
    obtain ⟨a, ha, h⟩ := bind_eq_ok.mp h
    obtain ⟨rest, -, h⟩ := bind_eq_ok.mp h
    obtain rfl := Except.ok.inj h
    exact ha
  | _, _, there i, o :: items, as, h, hpart => by
    rw [ofItems.eq_def] at h
    obtain ⟨a, -, h⟩ := bind_eq_ok.mp h
    obtain ⟨rest, hrest, h⟩ := bind_eq_ok.mp h
    obtain rfl := Except.ok.inj h
    exact ofItems_source i hrest hpart

end Ref

end Fields

/-- **A field is read from its part of a record**: the member with its name, or the item at its place. -/
theorem Record.decode_source {α β : Type} {r : Record β} {f : Field α} (i : Fields.Ref f r.fields)
    (hn : r.fields.names.Nodup) {p : Place} {o part : Outline} {b : β} (h : r.decode p o = .ok b)
    (hpart : i.IsSource part o) :
    ∃ q as, f.codec.decode q part = .ok (i.value as) ∧ r.build as = b := by
  cases o with
  | array items stop =>
    obtain ⟨q, -, h⟩ := bind_eq_ok.mp h
    obtain ⟨as, has, hb⟩ := map_eq_ok.mp h
    exact ⟨q, as, i.ofItems_source has hpart, hb⟩
  | object members stop =>
    obtain ⟨q, -, h⟩ := bind_eq_ok.mp h
    obtain ⟨slots, hslots, h⟩ := bind_eq_ok.mp h
    obtain ⟨u, -, h⟩ := bind_eq_ok.mp h
    obtain ⟨as, has, hb⟩ := map_eq_ok.mp h
    obtain ⟨k, hk, hmem⟩ := hpart
    obtain ⟨a, ha, hslot⟩ := i.fillAll_source hn hk hslots hmem
    exact ⟨q, as, by rw [i.value_close has hslot]; exact ha, hb⟩
  | _ => exact hpart.elim

end HostingClient
