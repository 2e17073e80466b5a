import HostingClient.Json.Record
import HostingClient.Proofs.Outcome

/-! # What decoding can give

A record that has been decoded is built from values of its fields, each of which was decoded itself from a part of the
outline, one level further in, or stands for a field that is missing (`Record.accepted_of_decode`). So what holds of
all that the fields accept holds of the record. -/

namespace HostingClient

open HostingClient.Json

/-- The outlines of which an outline is made. -/
def Json.Outline.parts : Outline → List Outline
  | .array items _ => items
  | .object members _ => members.map (·.2)
  | _ => []

/-- Whether a value of a field can come from decoding one of some outlines at a place. -/
def Field.Accepted {α : Type} (f : Field α) (p : Place) (os : List Outline) (a : α) : Prop :=
  (∃ o ∈ os, f.codec.decode p o = .ok a) ∨ f.absent = some a ∨ f.beyond = some a

namespace Fields

/-- Whether the values of the fields can come from decoding some outlines. -/
def Accepted (p : Place) (os : List Outline) : {τ : Type} → Fields τ → τ → Prop
  | _, nil, _ => True
  | _, cons f rest, (a, as) => f.Accepted p os a ∧ rest.Accepted p os as

/-- Whether what has been read of the fields can come from decoding some outlines. -/
def Filled (p : Place) (os : List Outline) : {τ : Type} → (fs : Fields τ) → fs.Slots → Prop
  | _, nil, _ => True
  | _, cons f rest, slots => (∀ a, slots.1 = some a → f.Accepted p os a) ∧ rest.Filled p os slots.2

section
variable {p : Place} {os : List Outline}

theorem filled_cons {α τ : Type} {f : Field α} {rest : Fields τ} {slots : (cons f rest).Slots} :
    (cons f rest).Filled p os slots ↔
      (∀ a, slots.1 = some a → f.Accepted p os a) ∧ rest.Filled p os slots.2 := Iff.rfl

theorem filled_noSlots : ∀ {τ : Type} (fs : Fields τ), fs.Filled p os fs.noSlots
  | _, nil => by rw [Filled]; trivial
  | _, cons _ rest => filled_cons.mpr ⟨nofun, filled_noSlots rest⟩

theorem filled_fill {name : String} {o : Outline} (ho : o ∈ os) : ∀ {τ : Type} (fs : Fields τ)
    {slots later : fs.Slots}, fs.Filled p os slots → fs.fill p name o slots = some (.ok later) →
      fs.Filled p os later
  | _, nil, _, _, _, h => by cases h
  | _, cons f rest, slots, later, hs, h => by
    obtain ⟨hx, hs⟩ := filled_cons.mp hs
    rw [fill.eq_def] at h
    dsimp only at h
    split at h
    · split at h
      · cases h
      · obtain ⟨a, ha, rfl⟩ := map_eq_ok.mp (Option.some.inj h)
        exact ⟨fun b hb => by cases hb; exact .inl ⟨o, ho, ha⟩, hs⟩
    · obtain ⟨r, hr, hmap⟩ := Option.map_eq_some_iff.mp h
      obtain ⟨slots', hs', rfl⟩ := map_eq_ok.mp hmap
      rw [hs'] at hr
      exact ⟨hx, filled_fill ho rest hs hr⟩

theorem filled_fillAll {τ : Type} (fs : Fields τ) : ∀ (ms : List (Key × Outline)) {slots later : fs.Slots},
    (∀ m ∈ ms, m.2 ∈ os) → fs.Filled p os slots → fs.fillAll p slots ms = .ok later → fs.Filled p os later
  | [], _, _, _, hs, h => by
    rw [fillAll.eq_def] at h
    cases h
    exact hs
  | (k, o) :: ms, slots, later, hms, hs, h => by
    have hrest : ∀ m ∈ ms, m.2 ∈ os := fun m hm => hms m (List.mem_cons_of_mem _ hm)
    rw [fillAll.eq_def] at h
    obtain ⟨name, -, h⟩ := bind_eq_ok.mp h
    split at h
    · next r hr =>
      obtain ⟨next, rfl, h⟩ := bind_eq_ok.mp h
      exact filled_fillAll fs ms hrest (filled_fill (hms _ List.mem_cons_self) fs hs hr) h
    · obtain ⟨-, -, h⟩ := bind_eq_ok.mp h
      exact filled_fillAll fs ms hrest hs h

/-- The value of a first field is what has been read of it, or what it has when it is missing. -/
theorem close_cons {α τ : Type} {f : Field α} {rest : Fields τ} {slots : (cons f rest).Slots} {as : α × τ}
    (h : (cons f rest).close slots = .ok as) :
    (slots.1 = some as.1 ∨ slots.1 = none ∧ f.absent = some as.1) ∧ rest.close slots.2 = .ok as.2 := by
  rw [close.eq_def] at h
  dsimp only at h
  split at h
  · next hslot =>
    obtain ⟨_, ha, h⟩ := bind_eq_ok.mp h
    obtain ⟨bs, hbs, h⟩ := bind_eq_ok.mp h
    cases ha
    cases h
    exact ⟨.inl hslot, hbs⟩
  · next hslot habsent =>
    obtain ⟨_, ha, h⟩ := bind_eq_ok.mp h
    obtain ⟨bs, hbs, h⟩ := bind_eq_ok.mp h
    cases ha
    cases h
    exact ⟨.inr ⟨hslot, habsent⟩, hbs⟩
  · cases h

theorem accepted_close : ∀ {τ : Type} (fs : Fields τ) {slots : fs.Slots} {as : τ}, fs.Filled p os slots →
    fs.close slots = .ok as → fs.Accepted p os as
  | _, nil, _, _, _, _ => trivial
  | _, cons f rest, slots, as, hs, h => by
    obtain ⟨hx, hs⟩ := filled_cons.mp hs
    obtain ⟨hvalue, hrest⟩ := close_cons h
    refine ⟨?_, accepted_close rest hs hrest⟩
    rcases hvalue with hslot | ⟨-, habsent⟩
    · exact hx _ hslot
    · exact .inr (.inl habsent)

theorem accepted_ofItems {stop : Option SyntaxFault} : ∀ {τ : Type} (fs : Fields τ) (items : List Outline) {as : τ},
    (∀ o ∈ items, o ∈ os) → fs.ofItems p stop items = .ok as → fs.Accepted p os as
  | _, nil, _, _, _, _ => trivial
  | _, cons f rest, o :: items, _, hos, h => by
    rw [ofItems.eq_def] at h
    obtain ⟨a, ha, h⟩ := bind_eq_ok.mp h
    obtain ⟨bs, hbs, h⟩ := bind_eq_ok.mp h
    cases h
    have hrest : ∀ o ∈ items, o ∈ os := fun o ho => hos o (List.mem_cons_of_mem _ ho)
    exact ⟨.inl ⟨o, hos o List.mem_cons_self, ha⟩, accepted_ofItems rest items hrest hbs⟩
  | _, cons f rest, [], _, hos, h => by
    rw [ofItems.eq_def] at h
    obtain ⟨-, -, h⟩ := bind_eq_ok.mp h
    split at h
    · cases h
    · next a ha =>
      obtain ⟨bs, hbs, h⟩ := bind_eq_ok.mp h
      cases h
      exact ⟨.inr (.inr ha), accepted_ofItems rest [] hos hbs⟩

end

end Fields

/-- **A decoded record is built from values that its fields accept.** -/
theorem Record.accepted_of_decode {α : Type} {r : Record α} {p : Place} {o : Outline} {a : α}
    (h : r.decode p o = .ok a) :
    ∃ q as, p.enter = .ok q ∧ r.build as = a ∧ r.fields.Accepted q o.parts as := by
  unfold Record.decode at h
  split at h
  · obtain ⟨q, hq, h⟩ := bind_eq_ok.mp h
    obtain ⟨as, has, ha⟩ := map_eq_ok.mp h
    exact ⟨q, as, hq, ha, Fields.accepted_ofItems r.fields _ (fun _ ho => ho) has⟩
  · obtain ⟨q, hq, h⟩ := bind_eq_ok.mp h
    obtain ⟨slots, hslots, h⟩ := bind_eq_ok.mp h
    obtain ⟨-, -, h⟩ := bind_eq_ok.mp h
    obtain ⟨as, has, ha⟩ := map_eq_ok.mp h
    have hfilled := Fields.filled_fillAll r.fields _ (fun m hm => List.mem_map_of_mem hm)
      (Fields.filled_noSlots r.fields) hslots
    exact ⟨q, as, hq, ha, Fields.accepted_close r.fields hfilled has⟩
  · cases h

end HostingClient
