import HostingClient.Proofs.Json.Accepted
import HostingClient.Proofs.Json.Faultless
import HostingClient.Proofs.Json.Restore

/-! # Objects read as records

What an object must hold to be read as a record, said without the order in which it is read
(`Record.decode_object_iff`): each field has one member with its name, or none if it has a value of its own, and all
other members have a name and can be skipped. So the order of members does not matter (`Fields.reads_perm`), members
of unknown names do not matter (`Fields.reads_unknown`), and a known name that is repeated is refused
(`Fields.not_reads_repeated`). -/

namespace HostingClient

open HostingClient.Json

theorem Json.Key.eq_text_of_read {k : Key} {name : String} (h : k.read = .ok name) : k = .text name := by
  cases k with
  | text s =>
    cases h
    rfl
  | _ => cases h

/-! ### One field -/

namespace Field
variable {α : Type} {f : Field α} {p : Place} {ms ms' : List (Key × Outline)}

/-- Whether a field gets a value from the members with its name: from the only one, or its own value if there is
none. -/
def Reads (f : Field α) (p : Place) (ms : List (Key × Outline)) (a : α) : Prop :=
  ms = [] ∧ f.absent = some a ∨ ∃ m, ms = [m] ∧ f.codec.decode p m.2 = .ok a

/-- Whether reading the members with the name of a field takes what has been read of it from `x` to `y`. -/
def Fills (f : Field α) (p : Place) (x : Option α) (ms : List (Key × Outline)) (y : Option α) : Prop :=
  ms = [] ∧ y = x ∨ ∃ m a, ms = [m] ∧ x = none ∧ f.codec.decode p m.2 = .ok a ∧ y = some a

theorem reads_perm (h : ms.Perm ms') {a : α} (hr : f.Reads p ms a) : f.Reads p ms' a := by
  rcases hr with ⟨rfl, ha⟩ | ⟨m, rfl, ha⟩
  · exact .inl ⟨List.nil_perm.mp h, ha⟩
  · exact .inr ⟨m, List.perm_singleton.mp h.symm, ha⟩

/-- Only the first member with the name of a field is read, and only if nothing has been read of the field yet. -/
theorem fills_cons {x y : Option α} {m : Key × Outline} : f.Fills p x (m :: ms) y ↔
    x = none ∧ ∃ a, f.codec.decode p m.2 = .ok a ∧ f.Fills p (some a) ms y := by
  constructor
  · rintro (⟨hms, -⟩ | ⟨m', a, hms, rfl, ha, rfl⟩)
    · cases hms
    · cases hms
      exact ⟨rfl, a, ha, .inl ⟨rfl, rfl⟩⟩
  · rintro ⟨rfl, a, ha, ⟨rfl, rfl⟩ | ⟨_, _, _, hx, _⟩⟩
    · exact .inr ⟨m, a, rfl, rfl, ha, rfl⟩
    · cases hx

/-- A field has its value once its members have been read and nothing more comes. -/
theorem reads_iff_fills {a : α} :
    f.Reads p ms a ↔ ∃ y, f.Fills p none ms y ∧ (y = some a ∨ y = none ∧ f.absent = some a) := by
  constructor
  · rintro (⟨rfl, ha⟩ | ⟨m, rfl, ha⟩)
    · exact ⟨none, .inl ⟨rfl, rfl⟩, .inr ⟨rfl, ha⟩⟩
    · exact ⟨some a, .inr ⟨m, a, rfl, rfl, ha, rfl⟩, .inl rfl⟩
  · rintro ⟨y, ⟨rfl, rfl⟩ | ⟨m, b, rfl, -, hb, rfl⟩, hy⟩
    · rcases hy with hy | ⟨-, ha⟩
      · cases hy
      · exact .inl ⟨rfl, ha⟩
    · rcases hy with hy | ⟨hy, -⟩
      · cases hy
        exact .inr ⟨m, rfl, hb⟩
      · cases hy

end Field

/-! ### All fields -/

/-- The members with a name. -/
def Json.named (name : String) (ms : List (Key × Outline)) : List (Key × Outline) :=
  ms.filter fun m => m.1 = .text name

/-- The members without a name. -/
def Json.unnamed (name : String) (ms : List (Key × Outline)) : List (Key × Outline) :=
  ms.filter fun m => m.1 ≠ .text name

section
variable {name other : String} {k : Key} {o : Outline} {ms : List (Key × Outline)}

theorem Json.named_cons_self : named name ((.text name, o) :: ms) = (.text name, o) :: named name ms :=
  List.filter_cons_of_pos (by simp)

theorem Json.named_cons_of_ne (h : k ≠ .text name) : named name ((k, o) :: ms) = named name ms :=
  List.filter_cons_of_neg (by simp [h])

theorem Json.unnamed_cons_self : unnamed name ((.text name, o) :: ms) = unnamed name ms :=
  List.filter_cons_of_neg (by simp)

theorem Json.unnamed_cons_of_ne (h : k ≠ .text name) : unnamed name ((k, o) :: ms) = (k, o) :: unnamed name ms :=
  List.filter_cons_of_pos (by simp [h])

end

namespace Fields
variable {p : Place}

/-- Whether members give the values of the fields. Each field takes the members with its name; what is left must have
names and be fit to be skipped. -/
def Reads (p : Place) : {τ : Type} → Fields τ → List (Key × Outline) → τ → Prop
  | _, nil, ms, _ => ∀ m ∈ ms, (∃ name, m.1 = .text name) ∧ m.2.skip = .ok ()
  | _, cons f rest, ms, (a, as) => f.Reads p (named f.name ms) a ∧ rest.Reads p (unnamed f.name ms) as

section
variable {α τ : Type} {f : Field α} {rest : Fields τ} {k : Key} {o : Outline} {ms : List (Key × Outline)} {a : α}
  {as : τ}

/-- A member with the name of the first field is its only one, and gives its value. -/
theorem reads_cons_self : (cons f rest).Reads p ((.text f.name, o) :: ms) (a, as) ↔
    (named f.name ms = [] ∧ f.codec.decode p o = .ok a) ∧ rest.Reads p (unnamed f.name ms) as := by
  show f.Reads p (named f.name ((.text f.name, o) :: ms)) a ∧ _ ↔ _
  rw [named_cons_self, unnamed_cons_self]
  refine and_congr_left fun _ => ⟨?_, fun ⟨hms, ha⟩ => .inr ⟨_, congrArg _ hms, ha⟩⟩
  rintro (⟨hms, -⟩ | ⟨m, hms, ha⟩)
  · cases hms
  · obtain ⟨rfl, hnil⟩ := List.cons.inj hms
    exact ⟨hnil, ha⟩

/-- Any other member is left to the other fields. -/
theorem reads_cons_of_ne (hk : k ≠ .text f.name) : (cons f rest).Reads p ((k, o) :: ms) (a, as) ↔
    f.Reads p (named f.name ms) a ∧ rest.Reads p ((k, o) :: unnamed f.name ms) as := by
  show f.Reads p (named f.name ((k, o) :: ms)) a ∧ _ ↔ _
  rw [named_cons_of_ne hk, unnamed_cons_of_ne hk]

end

section Filling
variable {α τ : Type} {f : Field α} {rest : Fields τ}

theorem fillAll_error {fs : Fields τ} {k : Key} (hk : ∀ name, k ≠ .text name) {o : Outline}
    {ms : List (Key × Outline)} {slots later : fs.Slots} : fs.fillAll p slots ((k, o) :: ms) ≠ .ok later := by
  intro h
  rw [fillAll.eq_def] at h
  obtain ⟨name, hname, -⟩ := bind_eq_ok.mp h
  exact hk name (Key.eq_text_of_read (lift_eq_ok.mp hname))

theorem fillAll_nil_iff : ∀ {ms : List (Key × Outline)} {slots later : (nil).Slots},
    nil.fillAll p slots ms = .ok later ↔ nil.Reads p ms ()
  | [], slots, later => iff_of_true rfl (List.forall_mem_nil _)
  | (k, o) :: ms, slots, later => by
    have hcons : nil.Reads p ((k, o) :: ms) () ↔
        ((∃ name, k = .text name) ∧ o.skip = .ok ()) ∧ nil.Reads p ms () := List.forall_mem_cons
    rw [hcons]
    by_cases hk : ∃ name, k = .text name
    · obtain ⟨name, rfl⟩ := hk
      rw [fillAll_unknown rfl]
      constructor
      · intro h
        obtain ⟨_, ho, h⟩ := bind_eq_ok.mp h
        exact ⟨⟨⟨name, rfl⟩, lift_eq_ok.mp ho⟩, fillAll_nil_iff.mp h⟩
      · rintro ⟨⟨-, ho⟩, h⟩
        rw [ho]
        exact fillAll_nil_iff.mpr h
    · exact iff_of_false (fillAll_error fun name hname => hk ⟨name, hname⟩) fun h => hk h.1.1

/-- The first field takes the members with its name, and the other fields what is left. -/
theorem fillAll_cons_iff : ∀ {ms : List (Key × Outline)} {x y : Option α} {slots later : rest.Slots},
    (cons f rest).fillAll p (slotsOf f x slots) ms = .ok (slotsOf f y later) ↔
      f.Fills p x (named f.name ms) y ∧ rest.fillAll p slots (unnamed f.name ms) = .ok later
  | [], x, y, slots, later => by
    show Except.ok (slotsOf f x slots) = .ok (slotsOf f y later) ↔
      (([] : List (Key × Outline)) = [] ∧ y = x ∨ _) ∧ rest.fillAll p slots [] = .ok later
    rw [fillAll_nil]
    constructor
    · intro h
      cases h
      exact ⟨.inl ⟨rfl, rfl⟩, rfl⟩
    · rintro ⟨⟨-, rfl⟩ | ⟨m, a, hm, -⟩, h⟩
      · cases h
        rfl
      · cases hm
  | (k, o) :: ms, x, y, slots, later => by
    by_cases hk : ∃ name, k = .text name
    · obtain ⟨name, rfl⟩ := hk
      by_cases hf : name = f.name
      · subst hf
        rw [named_cons_self, unnamed_cons_self, Field.fills_cons]
        cases x with
        | some b =>
          have hfill : (cons f rest).fill p f.name o (slotsOf f (some b) slots) =
              some (.error (.duplicateField f.name)) := by
            rw [fill.eq_def]
            exact if_pos rfl
          rw [fillAll_known hfill]
          exact iff_of_false (fun h => by cases h) fun h => by cases h.1.1
        | none =>
          rw [fillAll_known (fill_first f p o slots)]
          constructor
          · intro h
            obtain ⟨next, hnext, h⟩ := bind_eq_ok.mp h
            obtain ⟨a, ha, rfl⟩ := map_eq_ok.mp hnext
            obtain ⟨hfills, hrest⟩ := fillAll_cons_iff.mp h
            exact ⟨⟨rfl, a, ha, hfills⟩, hrest⟩
          · rintro ⟨⟨-, a, ha, hfills⟩, hrest⟩
            rw [ha]
            exact fillAll_cons_iff.mpr ⟨hfills, hrest⟩
      · have hne : Key.text name ≠ .text f.name := fun h => hf (Key.text.inj h)
        rw [named_cons_of_ne hne, unnamed_cons_of_ne hne]
        have hfill := fill_other f p hf o x slots
        cases hr : rest.fill p name o slots with
        | none =>
          rw [hr] at hfill
          rw [fillAll_unknown hfill, fillAll_unknown hr]
          cases DecodeFault.lift o.skip with
          | error e => exact iff_of_false (fun h => by cases h) fun h => by cases h.2
          | ok u => exact fillAll_cons_iff
        | some r =>
          rw [hr] at hfill
          rw [fillAll_known hfill, fillAll_known hr]
          cases r with
          | error e => exact iff_of_false (fun h => by cases h) fun h => by cases h.2
          | ok next => exact fillAll_cons_iff
    · have hk : ∀ name, k ≠ .text name := fun name hname => hk ⟨name, hname⟩
      rw [unnamed_cons_of_ne (hk f.name)]
      exact iff_of_false (fillAll_error hk) fun h => fillAll_error hk h.2

end Filling

/-- **Reading members one after the other gives what they give the fields**, in whatever order they are. -/
theorem reads_iff : ∀ {τ : Type} {fs : Fields τ} {ms : List (Key × Outline)} {as : τ},
    fs.Reads p ms as ↔ ∃ slots, fs.fillAll p fs.noSlots ms = .ok slots ∧ fs.close slots = .ok as
  | _, nil, ms, () =>
    ⟨fun h => ⟨(), fillAll_nil_iff.mpr h, rfl⟩, fun ⟨_, h, _⟩ => fillAll_nil_iff.mp h⟩
  | _, cons f rest, ms, (a, as) => by
    constructor
    · rintro ⟨hf, hrest⟩
      obtain ⟨y, hfills, hy⟩ := Field.reads_iff_fills.mp hf
      obtain ⟨slots, hslots, hclose⟩ := reads_iff.mp hrest
      refine ⟨slotsOf f y slots, fillAll_cons_iff.mpr ⟨hfills, hslots⟩, ?_⟩
      rcases hy with rfl | ⟨rfl, ha⟩
      · rw [close_read, hclose]
        rfl
      · rw [close_absent f ha, hclose]
        rfl
    · rintro ⟨⟨y, slots⟩, hfill, hclose⟩
      obtain ⟨hfills, hslots⟩ := fillAll_cons_iff.mp hfill
      obtain ⟨hy, hrest⟩ := close_cons hclose
      exact ⟨Field.reads_iff_fills.mpr ⟨y, hfills, hy⟩, reads_iff.mpr ⟨slots, hslots, hrest⟩⟩

theorem reads_perm {ms ms' : List (Key × Outline)} (h : ms.Perm ms') : ∀ {τ : Type} {fs : Fields τ} {as : τ},
    fs.Reads p ms as → fs.Reads p ms' as
  | _, nil, _, hr => fun m hm => hr m (h.mem_iff.mpr hm)
  | _, cons f rest, (a, as), hr => by
    obtain ⟨hf, hrest⟩ := hr
    exact ⟨Field.reads_perm (h.filter _) hf, reads_perm (h.filter _) hrest⟩

/-- A member of an unknown name only has to be fit to be skipped. -/
theorem reads_unknown {name : String} {o : Outline} : ∀ {τ : Type} {fs : Fields τ} {ms : List (Key × Outline)}
    {as : τ}, name ∉ fs.names → (fs.Reads p ((.text name, o) :: ms) as ↔ o.skip = .ok () ∧ fs.Reads p ms as)
  | _, nil, ms, (), _ => by
    have hcons : nil.Reads p ((.text name, o) :: ms) () ↔
        ((∃ n, Key.text name = .text n) ∧ o.skip = .ok ()) ∧ nil.Reads p ms () := List.forall_mem_cons
    rw [hcons]
    exact ⟨fun h => ⟨h.1.2, h.2⟩, fun h => ⟨⟨⟨name, rfl⟩, h.1⟩, h.2⟩⟩
  | _, cons f rest, ms, (a, as), hn => by
    rw [names, List.mem_cons, not_or] at hn
    have hne : Key.text name ≠ .text f.name := fun h => hn.1 (Key.text.inj h)
    rw [reads_cons_of_ne hne, reads_unknown hn.2]
    exact and_left_comm

/-- A known name must not be repeated. -/
theorem not_reads_repeated {name : String} {o o' : Outline} : ∀ {τ : Type} {fs : Fields τ}
    {ms : List (Key × Outline)} {as : τ}, name ∈ fs.names →
      ¬ fs.Reads p ((.text name, o) :: (.text name, o') :: ms) as
  | _, nil, _, _, hn => fun _ => List.not_mem_nil hn
  | _, cons f rest, ms, (a, as), hn => by
    intro has
    by_cases hname : name = f.name
    · subst hname
      have hnone := (reads_cons_self.mp has).1.1
      rw [named_cons_self] at hnone
      cases hnone
    · have hne : Key.text name ≠ .text f.name := fun h => hname (Key.text.inj h)
      have hrest := ((reads_cons_of_ne hne).mp has).2
      rw [unnamed_cons_of_ne hne] at hrest
      exact not_reads_repeated ((List.mem_cons.mp hn).resolve_left hname) hrest

end Fields

/-- **What an object must hold to be read as a record.** -/
theorem Record.decode_object_iff {α : Type} {r : Record α} {p : Place} {ms : List (Key × Outline)}
    {stop : Option SyntaxFault} {a : α} : r.decode p (.object ms stop) = .ok a ↔
      stop = none ∧ ∃ q as, p.enter = .ok q ∧ r.fields.Reads q ms as ∧ r.build as = a := by
  constructor
  · intro h
    obtain ⟨q, hq, h⟩ := bind_eq_ok.mp h
    obtain ⟨slots, hslots, h⟩ := bind_eq_ok.mp h
    obtain ⟨_, hstop, h⟩ := bind_eq_ok.mp h
    obtain ⟨as, has, ha⟩ := map_eq_ok.mp h
    exact ⟨eq_none_of_finish (lift_eq_ok.mp hstop), q, as, hq, Fields.reads_iff.mpr ⟨slots, hslots, has⟩, ha⟩
  · rintro ⟨rfl, q, as, hq, hreads, rfl⟩
    obtain ⟨slots, hslots, has⟩ := Fields.reads_iff.mp hreads
    refine bind_eq_ok.mpr ⟨q, hq, bind_eq_ok.mpr ⟨slots, hslots, ?_⟩⟩
    exact bind_eq_ok.mpr ⟨(), rfl, map_eq_ok.mpr ⟨as, has, rfl⟩⟩

end HostingClient
