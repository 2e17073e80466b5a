import HostingClient.Proofs.Json.Kept
import HostingClient.Proofs.Json.Object

/-! # Values read in two steps

A value may be read as a free-form one first, which is decoded then. The free-form value is tidied: the members of its
objects are sorted, and of those with one name the last is left (`tidies_of_anyValue`). Records do not see this
(`Record.tidy`): what is read of a text is read of its free-form value, and if no name is repeated in the text, what is
read of the free-form value is read of the text (`Decoder.Tidy.ofValue_of_run`, `Decoder.Tidy.run_of_ofValue`). -/

namespace HostingClient

open HostingClient.Json

/-! ### Repeated names -/

namespace Json.Outline

mutual
/-- Whether no object has a name twice. -/
def Unrepeated : Outline → Prop
  | array items _ => UnrepeatedItems items
  | object members _ => (members.map (·.1)).Nodup ∧ UnrepeatedMembers members
  | null | bool _ | number _ | text _ | broken _ _ => True

/-- Whether no object in some items has a name twice. -/
def UnrepeatedItems : List Outline → Prop
  | [] => True
  | o :: rest => o.Unrepeated ∧ UnrepeatedItems rest

/-- Whether no object in some members has a name twice. -/
def UnrepeatedMembers : List (Key × Outline) → Prop
  | [] => True
  | (_, o) :: rest => o.Unrepeated ∧ UnrepeatedMembers rest
end

end Json.Outline

/-! ### The relation -/

mutual
/-- What may change in a value when it is tidied. -/
inductive Tidies : Outline → Outline → Prop where
  | same {o : Outline} : Tidies o o
  | array {os os' : List Outline} {stop : Option SyntaxFault} (h : TidiesItems os os') :
      Tidies (.array os stop) (.array os' stop)
  | object {ms ms' : List (Key × Outline)} {stop : Option SyntaxFault} (h : TidiesMembers ms ms') :
      Tidies (.object ms stop) (.object ms' stop)

/-- What may change in the items of an array. -/
inductive TidiesItems : List Outline → List Outline → Prop where
  | nil : TidiesItems [] []
  | cons {o o' : Outline} {os os' : List Outline} (h : Tidies o o') (hs : TidiesItems os os') :
      TidiesItems (o :: os) (o' :: os')

/-- What may change in the members of an object, one change after the other: their order, their values, and members
that are dropped for a later one of the same name. -/
inductive TidiesMembers : List (Key × Outline) → List (Key × Outline) → Prop where
  | order {ms ms' : List (Key × Outline)} (h : ms.Perm ms') : TidiesMembers ms ms'
  | value {k : Key} {o o' : Outline} {ms : List (Key × Outline)} (h : Tidies o o') :
      TidiesMembers ((k, o) :: ms) ((k, o') :: ms)
  | last {name : String} {o o' : Outline} {ms : List (Key × Outline)} :
      TidiesMembers ((.text name, o) :: (.text name, o') :: ms) ((.text name, o') :: ms)
  | trans {ms ms' ms'' : List (Key × Outline)} (h : TidiesMembers ms ms') (h' : TidiesMembers ms' ms'') :
      TidiesMembers ms ms''
end

theorem TidiesItems.refl : ∀ os : List Outline, TidiesItems os os
  | [] => .nil
  | _ :: os => .cons .same (refl os)

/-! ### Tidied values can be skipped as well -/

theorem Json.Outline.skipItems_cons_iff {o : Outline} {os : List Outline} :
    skipItems (o :: os) = .ok () ↔ o.skip = .ok () ∧ skipItems os = .ok () := by
  rw [skipItems]
  constructor
  · intro h
    obtain ⟨_, ho, hos⟩ := bind_eq_ok.mp h
    exact ⟨ho, hos⟩
  · rintro ⟨ho, hos⟩
    exact bind_eq_ok.mpr ⟨(), ho, hos⟩

theorem Json.Outline.skipMembers_iff : ∀ {ms : List (Key × Outline)},
    skipMembers ms = .ok () ↔ ∀ m ∈ ms, m.1.skip = .ok () ∧ m.2.skip = .ok ()
  | [] => iff_of_true rfl (List.forall_mem_nil _)
  | (k, o) :: ms => by
    rw [List.forall_mem_cons, ← skipMembers_iff, skipMembers]
    constructor
    · intro h
      obtain ⟨_, hk, h⟩ := bind_eq_ok.mp h
      obtain ⟨_, ho, hms⟩ := bind_eq_ok.mp h
      exact ⟨⟨hk, ho⟩, hms⟩
    · rintro ⟨⟨hk, ho⟩, hms⟩
      exact bind_eq_ok.mpr ⟨(), hk, bind_eq_ok.mpr ⟨(), ho, hms⟩⟩

mutual
theorem Tidies.skip : ∀ {o o' : Outline}, Tidies o o' → o.skip = .ok () → o'.skip = .ok ()
  | _, _, .same, ho => ho
  | _, _, .array h, ho => by
    rw [Outline.skip] at ho ⊢
    obtain ⟨_, hos, hstop⟩ := bind_eq_ok.mp ho
    exact bind_eq_ok.mpr ⟨(), h.skip hos, hstop⟩
  | _, _, .object h, ho => by
    rw [Outline.skip] at ho ⊢
    obtain ⟨_, hms, hstop⟩ := bind_eq_ok.mp ho
    exact bind_eq_ok.mpr ⟨(), Outline.skipMembers_iff.mpr (h.skip (Outline.skipMembers_iff.mp hms)), hstop⟩

theorem TidiesItems.skip : ∀ {os os' : List Outline}, TidiesItems os os' → Outline.skipItems os = .ok () →
    Outline.skipItems os' = .ok ()
  | _, _, .nil, hos => hos
  | _, _, .cons h hs, hos => by
    obtain ⟨ho, hos⟩ := Outline.skipItems_cons_iff.mp hos
    exact Outline.skipItems_cons_iff.mpr ⟨h.skip ho, hs.skip hos⟩

theorem TidiesMembers.skip : ∀ {ms ms' : List (Key × Outline)}, TidiesMembers ms ms' →
    (∀ m ∈ ms, m.1.skip = .ok () ∧ m.2.skip = .ok ()) → ∀ m ∈ ms', m.1.skip = .ok () ∧ m.2.skip = .ok ()
  | _, _, .order h, hms => fun m hm => hms m (h.mem_iff.mpr hm)
  | _, _, .value h, hms => by
    obtain ⟨⟨hk, ho⟩, hms⟩ := List.forall_mem_cons.mp hms
    exact List.forall_mem_cons.mpr ⟨⟨hk, h.skip ho⟩, hms⟩
  | _, _, .last, hms => (List.forall_mem_cons.mp hms).2
  | _, _, .trans h h', hms => h'.skip (h.skip hms)
end

/-! ### Free-form values are tidied -/

theorem Json.memberOutlines_eq_map : ∀ es : List (String × Json),
    memberOutlines es = es.map fun e => (.text e.1, outline e.2)
  | [] => rfl
  | (k, j) :: es => by rw [memberOutlines, memberOutlines_eq_map es, List.map_cons]

theorem Json.memberOutlines_perm {es es' : List (String × Json)} (h : es.Perm es') :
    (memberOutlines es).Perm (memberOutlines es') := by
  rw [memberOutlines_eq_map, memberOutlines_eq_map]
  exact h.map _

/-- Putting a member to those at hand, with more to come, tidies them; if no name is repeated, nothing is dropped. -/
theorem tidies_insertEntry (name : String) (j : Json) (done : List (String × Json)) (ms : List (Key × Outline)) :
    TidiesMembers ((.text name, outline j) :: (memberOutlines done ++ ms))
        (memberOutlines (insertEntry name j done) ++ ms) ∧
      (.text name ∉ (memberOutlines done ++ ms).map (·.1) →
        ((.text name, outline j) :: (memberOutlines done ++ ms)).Perm
          (memberOutlines (insertEntry name j done) ++ ms)) := by
  rcases insertEntry_perm name j done with h | ⟨old, rest, h, h'⟩
  · have hperm := ((memberOutlines_perm h).append_right ms).symm
    exact ⟨.order hperm, fun _ => hperm⟩
  · have hold := (memberOutlines_perm h).append_right ms
    have hnew := ((memberOutlines_perm h').append_right ms).symm
    refine ⟨?_, fun hname => ?_⟩
    · exact .trans (.order ((hold.cons _).trans (List.Perm.swap _ _ _))) (.trans .last (.order hnew))
    · exact absurd ((hold.map (·.1)).mem_iff.mpr List.mem_cons_self) hname

mutual
/-- **What is kept of a value as a free-form one is the tidied value**, and if no name is repeated in the value, it is
the value of what is kept. -/
theorem tidies_of_anyValue : ∀ {depth : Nat} {o : Outline} {j : Json}, Decoder.anyValue depth o = .ok j →
    Tidies o (outline j) ∧ (o.Unrepeated → Tidies (outline j) o)
  | _, .null, _, h => by
    rw [Decoder.anyValue] at h
    cases h
    exact ⟨.same, fun _ => .same⟩
  | _, .bool _, _, h => by
    rw [Decoder.anyValue] at h
    cases h
    exact ⟨.same, fun _ => .same⟩
  | _, .number _, _, h => by
    rw [Decoder.anyValue] at h
    obtain ⟨n, hn, rfl⟩ := map_eq_ok.mp h
    rw [lift_eq_ok.mp hn]
    exact ⟨.same, fun _ => .same⟩
  | _, .text _, _, h => by
    rw [Decoder.anyValue] at h
    obtain ⟨s, hs, rfl⟩ := map_eq_ok.mp h
    rw [lift_eq_ok.mp hs]
    exact ⟨.same, fun _ => .same⟩
  | 0, .array _ _, _, h => by cases h
  | depth + 1, .array os stop, _, h => by
    rw [Decoder.anyValue] at h
    obtain ⟨js, hjs, h⟩ := bind_eq_ok.mp h
    obtain ⟨_, hstop, h⟩ := bind_eq_ok.mp h
    obtain rfl := eq_none_of_finish (lift_eq_ok.mp hstop)
    cases h
    obtain ⟨hthere, hback⟩ := tidies_of_anyItems hjs
    exact ⟨.array hthere, fun hos => .array (hback hos)⟩
  | 0, .object _ _, _, h => by cases h
  | depth + 1, .object ms stop, _, h => by
    rw [Decoder.anyValue] at h
    obtain ⟨es, hes, h⟩ := bind_eq_ok.mp h
    obtain ⟨_, hstop, h⟩ := bind_eq_ok.mp h
    obtain rfl := eq_none_of_finish (lift_eq_ok.mp hstop)
    cases h
    obtain ⟨hthere, hback⟩ := tidies_of_anyMembers hes
    exact ⟨.object hthere, fun hms => .object (hback hms.1 hms.2)⟩
  | _, .broken _ _, _, h => by
    rw [Decoder.anyValue] at h
    cases h

theorem tidies_of_anyItems : ∀ {depth : Nat} {os : List Outline} {js : List Json},
    Decoder.anyItems depth os = .ok js →
      TidiesItems os (outlines js) ∧ (Outline.UnrepeatedItems os → TidiesItems (outlines js) os)
  | _, [], _, h => by
    rw [Decoder.anyItems] at h
    cases h
    exact ⟨.nil, fun _ => .nil⟩
  | _, o :: os, _, h => by
    rw [Decoder.anyItems] at h
    obtain ⟨j, hj, h⟩ := bind_eq_ok.mp h
    obtain ⟨js, hjs, h⟩ := bind_eq_ok.mp h
    cases h
    obtain ⟨hthere, hback⟩ := tidies_of_anyValue hj
    obtain ⟨hsthere, hsback⟩ := tidies_of_anyItems hjs
    exact ⟨.cons hthere hsthere, fun hos => .cons (hback hos.1) (hsback hos.2)⟩

theorem tidies_of_anyMembers : ∀ {depth : Nat} {done : List (String × Json)} {ms : List (Key × Outline)}
    {es : List (String × Json)}, Decoder.anyMembers depth done ms = .ok es →
      TidiesMembers (memberOutlines done ++ ms) (memberOutlines es) ∧
        (((memberOutlines done ++ ms).map (·.1)).Nodup → Outline.UnrepeatedMembers ms →
          TidiesMembers (memberOutlines es) (memberOutlines done ++ ms))
  | _, done, [], _, h => by
    rw [Decoder.anyMembers] at h
    cases h
    rw [List.append_nil]
    exact ⟨.order (List.Perm.refl _), fun _ _ => .order (List.Perm.refl _)⟩
  | depth, done, (k, o) :: ms, es, hes => by
    rw [Decoder.anyMembers] at hes
    obtain ⟨name, hname, h⟩ := bind_eq_ok.mp hes
    obtain ⟨j, hj, h⟩ := bind_eq_ok.mp h
    obtain rfl := Key.eq_text_of_read (lift_eq_ok.mp hname)
    obtain ⟨hthere, hback⟩ := tidies_of_anyValue hj
    obtain ⟨hsthere, hsback⟩ := tidies_of_anyMembers h
    -- the member is taken to the front, tidied, and put to the others
    have hfront : (memberOutlines done ++ (.text name, o) :: ms).Perm
        ((.text name, o) :: (memberOutlines done ++ ms)) := List.perm_middle
    obtain ⟨hput, hdistinct⟩ := tidies_insertEntry name j done ms
    refine ⟨.trans (.order hfront) (.trans (.value hthere) (.trans hput hsthere)), fun hnames hms => ?_⟩
    have hnames := (hfront.map (·.1)).nodup_iff.mp hnames
    have hperm := hdistinct (List.nodup_cons.mp hnames).1
    have hkept := (hperm.map (·.1)).nodup_iff.mp hnames
    exact .trans (hsback hkept hms.2) (.trans (.order hperm.symm) (.trans (.value (hback hms.1)) (.order hfront.symm)))
end

/-! ### Decoders that do not see it -/

/-- What the decoder reads of a value, it reads of the tidied value, in any place with as many levels below it. -/
def Decoder.Tidy {α : Type} (d : Decoder α) : Prop :=
  ∀ ⦃p q : Place⦄ ⦃o o' : Outline⦄ ⦃a : α⦄, p.depth = q.depth → Tidies o o' → d p o = .ok a → d q o' = .ok a

theorem Place.enter_of_depth {p q p' : Place} (hd : p.depth = q.depth) (hp : p.enter = .ok p') :
    ∃ q', q.enter = .ok q' ∧ p'.depth = q'.depth := by
  cases p with
  | mk n surplus =>
    cases n with
    | zero => cases hp
    | succ n =>
      cases hp
      refine ⟨{ q with depth := n }, ?_, rfl⟩
      rw [Place.enter, ← hd]

namespace Decoder
variable {α : Type} {d : Decoder α}

/-- A decoder of leaves has nothing to see. -/
theorem tidy_leaf (hplace : ∀ p q o, d p o = d q o) (harray : ∀ p os stop a, d p (.array os stop) ≠ .ok a)
    (hobject : ∀ p ms stop a, d p (.object ms stop) ≠ .ok a) : d.Tidy := by
  intro p q o o' a _ h ha
  cases h with
  | same => rwa [hplace q p]
  | array _ => exact absurd ha (harray _ _ _ _)
  | object _ => exact absurd ha (hobject _ _ _ _)

@[simp]
theorem tidy_text : Codec.text.decode.Tidy := tidy_leaf (fun _ _ _ => rfl) nofun nofun

@[simp]
theorem tidy_natural : Codec.natural.decode.Tidy := tidy_leaf (fun _ _ _ => rfl) nofun nofun

@[simp]
theorem tidy_timestamp : Codec.timestamp.decode.Tidy := tidy_leaf (fun _ _ _ => rfl) nofun nofun

theorem Tidy.items (h : d.Tidy) {p q : Place} (hd : p.depth = q.depth) :
    ∀ {os os' : List Outline} {as : List α}, TidiesItems os os' →
      Decoder.items (d p) os = .ok as → Decoder.items (d q) os' = .ok as
  | _, _, _, .nil, has => has
  | _, _, _, .cons ho hos, has => by
    obtain ⟨a, ha, has⟩ := bind_eq_ok.mp has
    obtain ⟨bs, hbs, has⟩ := bind_eq_ok.mp has
    exact bind_eq_ok.mpr ⟨a, h hd ho ha, bind_eq_ok.mpr ⟨bs, h.items hd hos hbs, has⟩⟩

theorem Tidy.list (h : d.Tidy) : d.list.Tidy := by
  intro p q o o' as hd ho has
  have harray : ∀ {os os' stop}, TidiesItems os os' → d.list p (.array os stop) = .ok as →
      d.list q (.array os' stop) = .ok as := by
    intro os os' stop hos has
    obtain ⟨p', hp', has⟩ := bind_eq_ok.mp has
    obtain ⟨bs, hbs, has⟩ := bind_eq_ok.mp has
    obtain ⟨q', hq', hd'⟩ := Place.enter_of_depth hd hp'
    exact bind_eq_ok.mpr ⟨q', hq', bind_eq_ok.mpr ⟨bs, h.items hd' hos hbs, has⟩⟩
  cases ho with
  | same =>
    cases o with
    | array os stop => exact harray (.refl os) has
    | _ => cases has
  | array hos => exact harray hos has
  | object _ => cases has

@[simp]
theorem tidy_list {c : Codec α} (h : c.decode.Tidy) : c.list.decode.Tidy := h.list

end Decoder

/-! ### Records -/

namespace Fields

/-- The decoders of the fields do not see that values are tidied. -/
def Tidy : {τ : Type} → Fields τ → Prop
  | _, nil => True
  | _, cons f rest => f.codec.decode.Tidy ∧ rest.Tidy

theorem Tidy.ofItems {stop : Option SyntaxFault} {p q : Place} (hd : p.depth = q.depth) :
    ∀ {τ : Type} {fs : Fields τ} {os os' : List Outline} {as : τ}, fs.Tidy → TidiesItems os os' →
      fs.ofItems p stop os = .ok as → fs.ofItems q stop os' = .ok as
  | _, nil, _, _, _, _, .nil, has => has
  | _, nil, _, _, _, _, .cons _ _, has => by cases has
  | _, cons f rest, _, _, _, hfs, .nil, has => by
    rw [ofItems.eq_def] at has ⊢
    obtain ⟨_, hstop, has⟩ := bind_eq_ok.mp has
    refine bind_eq_ok.mpr ⟨(), hstop, ?_⟩
    split at has
    · cases has
    · obtain ⟨bs, hbs, has⟩ := bind_eq_ok.mp has
      exact bind_eq_ok.mpr ⟨bs, Tidy.ofItems hd hfs.2 .nil hbs, has⟩
  | _, cons f rest, _, _, _, hfs, .cons h hs, has => by
    rw [ofItems.eq_def] at has ⊢
    obtain ⟨a, ha, has⟩ := bind_eq_ok.mp has
    obtain ⟨bs, hbs, has⟩ := bind_eq_ok.mp has
    exact bind_eq_ok.mpr ⟨a, hfs.1 hd h ha, bind_eq_ok.mpr ⟨bs, Tidy.ofItems hd hfs.2 hs hbs, has⟩⟩

/-- What members give the fields, they give them in any place with as many levels below it. -/
theorem Tidy.reads_place {p q : Place} (hd : p.depth = q.depth) : ∀ {τ : Type} {fs : Fields τ}
    {ms : List (Key × Outline)} {as : τ}, fs.Tidy → fs.Reads p ms as → fs.Reads q ms as
  | _, nil, _, _, _, has => has
  | _, cons f rest, _, (a, as), hfs, has => by
    refine ⟨?_, reads_place hd hfs.2 has.2⟩
    rcases has.1 with habsent | ⟨m, hm, ha⟩
    · exact .inl habsent
    · exact .inr ⟨m, hm, hfs.1 hd .same ha⟩

theorem Tidy.reads_value {p : Place} {o o' : Outline} (h : Tidies o o') {k : Key} : ∀ {τ : Type} {fs : Fields τ}
    {ms : List (Key × Outline)} {as : τ}, fs.Tidy → fs.Reads p ((k, o) :: ms) as → fs.Reads p ((k, o') :: ms) as
  | _, nil, ms, _, _, has => by
    obtain ⟨⟨hk, ho⟩, hms⟩ := List.forall_mem_cons.mp has
    exact List.forall_mem_cons.mpr ⟨⟨hk, h.skip ho⟩, hms⟩
  | _, cons f rest, ms, (a, as), hfs, has => by
    by_cases hk : k = .text f.name
    · subst hk
      obtain ⟨⟨hms, ha⟩, hrest⟩ := reads_cons_self.mp has
      exact reads_cons_self.mpr ⟨⟨hms, hfs.1 rfl h ha⟩, hrest⟩
    · obtain ⟨hf, hrest⟩ := (reads_cons_of_ne hk).mp has
      exact (reads_cons_of_ne hk).mpr ⟨hf, reads_value h hfs.2 hrest⟩

/-- Of repeated members, which are none of the fields, the last one is left. -/
theorem reads_last {p : Place} {name : String} {o o' : Outline} {τ : Type} {fs : Fields τ}
    {ms : List (Key × Outline)} {as : τ} (has : fs.Reads p ((.text name, o) :: (.text name, o') :: ms) as) :
    fs.Reads p ((.text name, o') :: ms) as :=
  ((reads_unknown fun hname => not_reads_repeated hname has).mp has).2

theorem Tidy.reads {p : Place} {τ : Type} {fs : Fields τ} (hfs : fs.Tidy) : ∀ {ms ms' : List (Key × Outline)} {as : τ},
    TidiesMembers ms ms' → fs.Reads p ms as → fs.Reads p ms' as
  | _, _, _, .order h, has => reads_perm h has
  | _, _, _, .value h, has => hfs.reads_value h has
  | _, _, _, .last, has => reads_last has
  | _, _, _, .trans h h', has => hfs.reads h' (hfs.reads h has)

end Fields

/-- **A record does not see that it is tidied** if its fields do not. -/
theorem Record.tidy {α : Type} {r : Record α} (h : r.fields.Tidy) : r.decode.Tidy := by
  intro p q o o' a hd ho ha
  have harray : ∀ {os os' stop}, TidiesItems os os' → r.decode p (.array os stop) = .ok a →
      r.decode q (.array os' stop) = .ok a := by
    intro os os' stop hos ha
    obtain ⟨p', hp', ha⟩ := bind_eq_ok.mp ha
    obtain ⟨as, has, ha⟩ := map_eq_ok.mp ha
    obtain ⟨q', hq', hd'⟩ := Place.enter_of_depth hd hp'
    exact bind_eq_ok.mpr ⟨q', hq', map_eq_ok.mpr ⟨as, h.ofItems hd' hos has, ha⟩⟩
  have hobject : ∀ {ms ms' stop}, TidiesMembers ms ms' → r.decode p (.object ms stop) = .ok a →
      r.decode q (.object ms' stop) = .ok a := by
    intro ms ms' stop hms ha
    obtain ⟨hstop, p', as, hp', has, ha⟩ := Record.decode_object_iff.mp ha
    obtain ⟨q', hq', hd'⟩ := Place.enter_of_depth hd hp'
    exact Record.decode_object_iff.mpr ⟨hstop, q', as, hq', h.reads hms (h.reads_place hd' has), ha⟩
  cases ho with
  | same =>
    cases o with
    | array os stop => exact harray (.refl os) ha
    | object ms stop => exact hobject (.order (List.Perm.refl ms)) ha
    | _ => cases ha
  | array hos => exact harray hos ha
  | object hms => exact hobject hms ha

/-! ### Texts -/

namespace Decoder
variable {α : Type} {d : Decoder α} {text : String} {a : α} {j : Json}

theorem run_eq_ok_iff : d.run text = .ok a ↔ d .ofText (readDocument (symbolsOf text.toList)).value = .ok a ∧
    (readDocument (symbolsOf text.toList)).surplus = false := by
  unfold run document
  constructor
  · intro h
    obtain ⟨b, hb, h⟩ := bind_eq_ok.mp h
    split at h
    · cases h
    · next hsurplus =>
      cases h
      exact ⟨hb, Bool.eq_false_iff.mpr hsurplus⟩
  · rintro ⟨ha, hsurplus⟩
    exact bind_eq_ok.mpr ⟨a, ha, if_neg (Bool.eq_false_iff.mp hsurplus)⟩

/-- What is read of a text is read of its free-form value. -/
theorem Tidy.ofValue_of_run (h : d.Tidy) (hj : any.run text = .ok j) (ha : d.run text = .ok a) :
    d.ofValue j = .ok a := by
  have hdepth : Place.ofText.depth = Place.ofValue.depth := rfl
  exact h hdepth (tidies_of_anyValue (run_eq_ok_iff.mp hj).1).1 (run_eq_ok_iff.mp ha).1

/-- What is read of the free-form value of a text without repeated names is read of the text. -/
theorem Tidy.run_of_ofValue (h : d.Tidy) {t : Tree} (ht : SpellsDocument t (symbolsOf text.toList))
    (hnames : t.outline.Unrepeated) (hj : any.run text = .ok j) (ha : d.ofValue j = .ok a) : d.run text = .ok a := by
  have hdepth : Place.ofValue.depth = Place.ofText.depth := rfl
  rw [run_spelled _ ht] at hj ⊢
  exact h hdepth ((tidies_of_anyValue hj).2 hnames) ha

end Decoder

end HostingClient
