import HostingClient.Proofs.Json.Object

/-! # Rearranged records

A server may write the members of a record in any order, and add members of names that the client does not know,
everywhere in what it sends: the record is read as the same (`Rearranges.decode`). A name that the client knows must
not be repeated (`Repeats.decode_ne`). Both go through whatever holds further records: options, lists, and records
written as arrays. The members of a dictionary may be written in any order as well, if no name is repeated
(`Decoder.dict_perm`). -/

namespace HostingClient

open HostingClient.Json

/-! ### Dictionaries in any order -/

namespace Decoder

section
variable {α : Type} {d : Outline → Except DecodeFault α}

theorem members_cons_iff {k : Key} {o : Outline} {ms : List (Key × Outline)} {es : List (String × α)} :
    members d ((k, o) :: ms) = .ok es ↔
      ∃ name a rest, k = .text name ∧ d o = .ok a ∧ members d ms = .ok rest ∧ es = (name, a) :: rest := by
  rw [members]
  constructor
  · intro h
    obtain ⟨name, hname, h⟩ := bind_eq_ok.mp h
    obtain ⟨a, ha, h⟩ := bind_eq_ok.mp h
    obtain ⟨rest, hrest, h⟩ := bind_eq_ok.mp h
    exact ⟨name, a, rest, Key.eq_text_of_read (lift_eq_ok.mp hname), ha, hrest, (Except.ok.inj h).symm⟩
  · rintro ⟨name, a, rest, rfl, ha, hrest, rfl⟩
    exact bind_eq_ok.mpr ⟨name, rfl, bind_eq_ok.mpr ⟨a, ha, bind_eq_ok.mpr ⟨rest, hrest, rfl⟩⟩⟩

/-- The names of members are the keys of the entries that they are read as. -/
theorem keys_of_members : ∀ {ms : List (Key × Outline)} {es : List (String × α)}, members d ms = .ok es →
    ms.map (·.1) = es.map fun e => .text e.1
  | [], _, h => by
    cases h
    rfl
  | (_, _) :: _, _, h => by
    obtain ⟨name, a, rest, rfl, -, hrest, rfl⟩ := members_cons_iff.mp h
    rw [List.map_cons, List.map_cons, keys_of_members hrest]

/-- Members in another order are read as the same entries in another order. -/
theorem members_perm {ms ms' : List (Key × Outline)} (h : ms.Perm ms') : ∀ {es : List (String × α)},
    members d ms = .ok es → ∃ es', members d ms' = .ok es' ∧ es.Perm es' := by
  induction h with
  | nil => exact fun hes => ⟨_, hes, List.Perm.refl _⟩
  | cons m _ ih =>
    intro es hes
    obtain ⟨name, a, rest, hk, ha, hrest, rfl⟩ := members_cons_iff.mp hes
    obtain ⟨rest', hrest', hperm⟩ := ih hrest
    exact ⟨_, members_cons_iff.mpr ⟨name, a, rest', hk, ha, hrest', rfl⟩, hperm.cons _⟩
  | swap m m' ms =>
    intro es hes
    obtain ⟨name', a', rest', hk', ha', hrest', rfl⟩ := members_cons_iff.mp hes
    obtain ⟨name, a, rest, hk, ha, hrest, rfl⟩ := members_cons_iff.mp hrest'
    exact ⟨_, members_cons_iff.mpr ⟨name, a, _, hk, ha, members_cons_iff.mpr ⟨name', a', rest, hk', ha', hrest, rfl⟩,
      rfl⟩, List.Perm.swap _ _ _⟩
  | trans _ _ ih ih' =>
    intro es hes
    obtain ⟨es', hes', hperm⟩ := ih hes
    obtain ⟨es'', hes'', hperm'⟩ := ih' hes'
    exact ⟨es'', hes'', hperm.trans hperm'⟩

end

/-- **The order of the members of a dictionary does not count**, as long as no name is repeated. -/
theorem dict_perm {α : Type} {d : Decoder α} {ms ms' : List (Key × Outline)} (hn : (ms.map (·.1)).Nodup)
    (h : ms.Perm ms') {p : Place} {stop : Option SyntaxFault} {entries : Dict α}
    (he : d.dict p (.object ms stop) = .ok entries) : d.dict p (.object ms' stop) = .ok entries := by
  obtain ⟨q, hq, he⟩ := bind_eq_ok.mp he
  obtain ⟨es, hes, he⟩ := bind_eq_ok.mp he
  obtain ⟨es', hes', hperm⟩ := members_perm h hes
  have hkeys : (es.map (·.1)).Nodup := by
    rw [keys_of_members hes] at hn
    exact List.pairwise_map.mpr ((List.pairwise_map.mp hn).imp fun hne heq => hne (congrArg Key.text heq))
  rw [Dict.ofList_perm hkeys hperm] at he
  exact bind_eq_ok.mpr ⟨q, hq, bind_eq_ok.mpr ⟨es', hes', he⟩⟩

end Decoder

/-! ### The relation -/

mutual
/-- What may change in a value without being seen by a codec: the members of the records in it, and the order of those
of dictionaries. -/
inductive Rearranges : {α : Type} → Codec α → Outline → Outline → Prop where
  | same {α : Type} {c : Codec α} {o : Outline} : Rearranges c o o
  | option {α : Type} {c : Codec α} {o o' : Outline} (h : Rearranges c o o') : Rearranges c.option o o'
  | list {α : Type} {c : Codec α} {os os' : List Outline} (h : RearrangesItems c os os') :
      Rearranges c.list (.array os none) (.array os' none)
  | dict {α : Type} {c : Codec α} {ms ms' : List (Key × Outline)} (hn : (ms.map (·.1)).Nodup) (h : ms.Perm ms') :
      Rearranges c.dict (.object ms none) (.object ms' none)
  | array {α : Type} {r : Record α} {os os' : List Outline} (h : RearrangesFields r.fields os os') :
      Rearranges r.codec (.array os none) (.array os' none)
  | object {α : Type} {r : Record α} {ms ms' : List (Key × Outline)} (h : RearrangesMembers r.fields ms ms') :
      Rearranges r.codec (.object ms none) (.object ms' none)

/-- What may change in the items of a list. -/
inductive RearrangesItems : {α : Type} → Codec α → List Outline → List Outline → Prop where
  | nil {α : Type} {c : Codec α} : RearrangesItems c [] []
  | cons {α : Type} {c : Codec α} {o o' : Outline} {os os' : List Outline} (h : Rearranges c o o')
      (hs : RearrangesItems c os os') : RearrangesItems c (o :: os) (o' :: os')

/-- What may change in a record that is written as an array. -/
inductive RearrangesFields : {τ : Type} → Fields τ → List Outline → List Outline → Prop where
  | nil {τ : Type} {fs : Fields τ} : RearrangesFields fs [] []
  | cons {α τ : Type} {f : Field α} {rest : Fields τ} {o o' : Outline} {os os' : List Outline}
      (h : Rearranges f.codec o o') (hs : RearrangesFields rest os os') :
      RearrangesFields (.cons f rest) (o :: os) (o' :: os')

/-- What may change in a record that is written as an object, one change after the other: the order of its members,
members of unknown names, which are added, and the values of its fields. -/
inductive RearrangesMembers : {τ : Type} → Fields τ → List (Key × Outline) → List (Key × Outline) → Prop where
  | order {τ : Type} {fs : Fields τ} {ms ms' : List (Key × Outline)} (h : ms.Perm ms') : RearrangesMembers fs ms ms'
  | unknown {τ : Type} {fs : Fields τ} {ms : List (Key × Outline)} {name : String} {o : Outline}
      (hn : name ∉ fs.names) (ho : o.skip = .ok ()) : RearrangesMembers fs ms ((.text name, o) :: ms)
  | value {τ : Type} {fs : Fields τ} {ms : List (Key × Outline)} {name : String} {o o' : Outline}
      (h : RearrangesMember fs name o o') : RearrangesMembers fs ((.text name, o) :: ms) ((.text name, o') :: ms)
  | trans {τ : Type} {fs : Fields τ} {ms ms' ms'' : List (Key × Outline)} (h : RearrangesMembers fs ms ms')
      (h' : RearrangesMembers fs ms' ms'') : RearrangesMembers fs ms ms''

/-- What may change in the value of the field with a name. -/
inductive RearrangesMember : {τ : Type} → Fields τ → String → Outline → Outline → Prop where
  | first {α τ : Type} {f : Field α} {rest : Fields τ} {o o' : Outline} (h : Rearranges f.codec o o') :
      RearrangesMember (.cons f rest) f.name o o'
  | later {α τ : Type} {f : Field α} {rest : Fields τ} {name : String} {o o' : Outline} (hn : name ≠ f.name)
      (h : RearrangesMember rest name o o') : RearrangesMember (.cons f rest) name o o'
end

/-! ### Rearranged values are read as the same -/

/-- A value that is not null does not become null. -/
theorem Rearranges.eq_null_iff : ∀ {α : Type} {c : Codec α} {o o' : Outline}, Rearranges c o o' →
    (o = .null ↔ o' = .null)
  | _, _, _, _, same => Iff.rfl
  | _, _, _, _, option h => h.eq_null_iff
  | _, _, _, _, list _ | _, _, _, _, dict _ _ | _, _, _, _, array _ | _, _, _, _, object _ => iff_of_false nofun nofun

theorem Decoder.option_of_ne {α : Type} {d : Decoder α} {p : Place} {o : Outline} (h : o ≠ .null) :
    Decoder.option d p o = (d p o).map some := by
  unfold Decoder.option
  split
  · exact absurd rfl h
  · rfl

mutual
/-- **Rearranging is not seen.** What is read of a value is read of the rearranged value. -/
theorem Rearranges.decode : ∀ {α : Type} {c : Codec α} {o o' : Outline}, Rearranges c o o' →
    ∀ {p : Place} {a : α}, c.decode p o = .ok a → c.decode p o' = .ok a
  | _, _, _, _, .same, _, _, ha => ha
  | _, _, o, o', .option (c := c) h, p, a, ha => by
    have hnull := h.eq_null_iff
    show Decoder.option c.decode p o' = .ok a
    have ha : Decoder.option c.decode p o = .ok a := ha
    by_cases ho : o = .null
    · rw [hnull.mp ho, ← ho]
      exact ha
    · rw [Decoder.option_of_ne ho] at ha
      obtain ⟨b, hb, rfl⟩ := map_eq_ok.mp ha
      rw [Decoder.option_of_ne fun ho' => ho (hnull.mpr ho'), h.decode hb]
      rfl
  | _, _, _, _, .list h, p, a, ha => by
    obtain ⟨q, hq, ha⟩ := bind_eq_ok.mp ha
    obtain ⟨as, has, ha⟩ := bind_eq_ok.mp ha
    exact bind_eq_ok.mpr ⟨q, hq, bind_eq_ok.mpr ⟨as, h.items has, ha⟩⟩
  | _, _, _, _, .dict hn h, _, _, ha => Decoder.dict_perm hn h ha
  | _, _, _, _, .array h, p, a, ha => by
    obtain ⟨q, hq, ha⟩ := bind_eq_ok.mp ha
    obtain ⟨as, has, ha⟩ := map_eq_ok.mp ha
    exact bind_eq_ok.mpr ⟨q, hq, map_eq_ok.mpr ⟨as, h.ofItems has, ha⟩⟩
  | _, _, _, _, .object h, p, a, ha => by
    obtain ⟨hstop, q, as, hq, has, ha⟩ := Record.decode_object_iff.mp ha
    exact Record.decode_object_iff.mpr ⟨hstop, q, as, hq, h.reads has, ha⟩

theorem RearrangesItems.items : ∀ {α : Type} {c : Codec α} {os os' : List Outline}, RearrangesItems c os os' →
    ∀ {p : Place} {as : List α}, Decoder.items (c.decode p) os = .ok as → Decoder.items (c.decode p) os' = .ok as
  | _, _, _, _, .nil, _, _, has => has
  | _, _, _, _, .cons h hs, _, _, has => by
    obtain ⟨a, ha, has⟩ := bind_eq_ok.mp has
    obtain ⟨bs, hbs, has⟩ := bind_eq_ok.mp has
    exact bind_eq_ok.mpr ⟨a, h.decode ha, bind_eq_ok.mpr ⟨bs, hs.items hbs, has⟩⟩

theorem RearrangesFields.ofItems : ∀ {τ : Type} {fs : Fields τ} {os os' : List Outline}, RearrangesFields fs os os' →
    ∀ {p : Place} {as : τ}, fs.ofItems p none os = .ok as → fs.ofItems p none os' = .ok as
  | _, _, _, _, .nil, _, _, has => has
  | _, _, _, _, .cons h hs, _, _, has => by
    rw [Fields.ofItems.eq_def] at has ⊢
    obtain ⟨a, ha, has⟩ := bind_eq_ok.mp has
    obtain ⟨bs, hbs, has⟩ := bind_eq_ok.mp has
    exact bind_eq_ok.mpr ⟨a, h.decode ha, bind_eq_ok.mpr ⟨bs, hs.ofItems hbs, has⟩⟩

theorem RearrangesMembers.reads : ∀ {τ : Type} {fs : Fields τ} {ms ms' : List (Key × Outline)},
    RearrangesMembers fs ms ms' → ∀ {p : Place} {as : τ}, fs.Reads p ms as → fs.Reads p ms' as
  | _, _, _, _, .order h, _, _, has => Fields.reads_perm h has
  | _, _, _, _, .unknown hn ho, _, _, has => (Fields.reads_unknown hn).mpr ⟨ho, has⟩
  | _, _, _, _, .value h, _, _, has => h.reads has
  | _, _, _, _, .trans h h', _, _, has => h'.reads (h.reads has)

theorem RearrangesMember.reads : ∀ {τ : Type} {fs : Fields τ} {name : String} {o o' : Outline},
    RearrangesMember fs name o o' → ∀ {p : Place} {ms : List (Key × Outline)} {as : τ},
      fs.Reads p ((.text name, o) :: ms) as → fs.Reads p ((.text name, o') :: ms) as
  | _, _, _, _, _, .first h, _, _, (_, _), has => by
    obtain ⟨⟨hms, ha⟩, hrest⟩ := Fields.reads_cons_self.mp has
    exact Fields.reads_cons_self.mpr ⟨⟨hms, h.decode ha⟩, hrest⟩
  | _, _, _, _, _, .later hn h, _, _, (_, _), has => by
    have hne := fun he => hn (Key.text.inj he)
    obtain ⟨hf, hrest⟩ := (Fields.reads_cons_of_ne hne).mp has
    exact (Fields.reads_cons_of_ne hne).mpr ⟨hf, h.reads hrest⟩
end

/-! ### Repeated names are refused -/

mutual
/-- Whether a record in a value has a name twice that the codec knows. -/
inductive Repeats : {α : Type} → Codec α → Outline → Prop where
  | option {α : Type} {c : Codec α} {o : Outline} (h : Repeats c o) : Repeats c.option o
  | list {α : Type} {c : Codec α} {os : List Outline} {stop : Option SyntaxFault} {o : Outline} (ho : o ∈ os)
      (h : Repeats c o) : Repeats c.list (.array os stop)
  | array {α : Type} {r : Record α} {os : List Outline} {stop : Option SyntaxFault} (h : RepeatsItem r.fields os) :
      Repeats r.codec (.array os stop)
  | name {α : Type} {r : Record α} {ms rest : List (Key × Outline)} {stop : Option SyntaxFault} {name : String}
      {o o' : Outline} (hn : name ∈ r.fields.names) (hms : ms.Perm ((.text name, o) :: (.text name, o') :: rest)) :
      Repeats r.codec (.object ms stop)
  | member {α : Type} {r : Record α} {ms : List (Key × Outline)} {stop : Option SyntaxFault} {name : String}
      {o : Outline} (hm : (.text name, o) ∈ ms) (h : RepeatsMember r.fields name o) :
      Repeats r.codec (.object ms stop)

/-- Whether there is such a name in a record that is written as an array. -/
inductive RepeatsItem : {τ : Type} → Fields τ → List Outline → Prop where
  | first {α τ : Type} {f : Field α} {rest : Fields τ} {o : Outline} {os : List Outline} (h : Repeats f.codec o) :
      RepeatsItem (.cons f rest) (o :: os)
  | later {α τ : Type} {f : Field α} {rest : Fields τ} {o : Outline} {os : List Outline} (h : RepeatsItem rest os) :
      RepeatsItem (.cons f rest) (o :: os)

/-- Whether there is such a name in the value of the field with a name. -/
inductive RepeatsMember : {τ : Type} → Fields τ → String → Outline → Prop where
  | first {α τ : Type} {f : Field α} {rest : Fields τ} {o : Outline} (h : Repeats f.codec o) :
      RepeatsMember (.cons f rest) f.name o
  | later {α τ : Type} {f : Field α} {rest : Fields τ} {name : String} {o : Outline} (hn : name ≠ f.name)
      (h : RepeatsMember rest name o) : RepeatsMember (.cons f rest) name o
end

theorem Repeats.ne_null : ∀ {α : Type} {c : Codec α} {o : Outline}, Repeats c o → o ≠ .null
  | _, _, _, option h => h.ne_null
  | _, _, _, list _ _ | _, _, _, array _ | _, _, _, name _ _ | _, _, _, member _ _ => nofun

theorem Decoder.items_mem {α : Type} {d : Outline → Except DecodeFault α} {o : Outline} : ∀ {os : List Outline}
    {as : List α}, Decoder.items d os = .ok as → o ∈ os → ∃ a, d o = .ok a
  | o' :: os, as, h, ho => by
    obtain ⟨a, ha, h⟩ := bind_eq_ok.mp h
    obtain ⟨bs, hbs, -⟩ := bind_eq_ok.mp h
    rcases List.mem_cons.mp ho with rfl | ho
    · exact ⟨a, ha⟩
    · exact items_mem hbs ho

mutual
/-- **A record with a known name twice is not read**, nor is anything that holds one. -/
theorem Repeats.decode_ne : ∀ {α : Type} {c : Codec α} {o : Outline}, Repeats c o →
    ∀ {p : Place} {a : α}, c.decode p o ≠ .ok a
  | _, _, _, .option (c := c) h, p, a, ha => by
    have ha : Decoder.option c.decode p _ = .ok a := ha
    rw [Decoder.option_of_ne h.ne_null] at ha
    obtain ⟨b, hb, -⟩ := map_eq_ok.mp ha
    exact h.decode_ne hb
  | _, _, _, .list ho h, p, a, ha => by
    obtain ⟨q, hq, ha⟩ := bind_eq_ok.mp ha
    obtain ⟨as, has, -⟩ := bind_eq_ok.mp ha
    obtain ⟨b, hb⟩ := Decoder.items_mem has ho
    exact h.decode_ne hb
  | _, _, _, .array h, p, a, ha => by
    obtain ⟨q, hq, ha⟩ := bind_eq_ok.mp ha
    obtain ⟨as, has, -⟩ := map_eq_ok.mp ha
    exact h.ofItems_ne has
  | _, _, _, .name hn hms, p, a, ha => by
    obtain ⟨-, q, as, -, has, -⟩ := Record.decode_object_iff.mp ha
    exact Fields.not_reads_repeated hn (Fields.reads_perm hms has)
  | _, _, _, .member hm h, p, a, ha => by
    obtain ⟨-, q, as, -, has, -⟩ := Record.decode_object_iff.mp ha
    obtain ⟨before, after, rfl⟩ := List.append_of_mem hm
    exact h.not_reads (Fields.reads_perm List.perm_middle has)

theorem RepeatsItem.ofItems_ne : ∀ {τ : Type} {fs : Fields τ} {os : List Outline}, RepeatsItem fs os →
    ∀ {p : Place} {stop : Option SyntaxFault} {as : τ}, fs.ofItems p stop os ≠ .ok as
  | _, _, _, .first h, _, _, _, has => by
    rw [Fields.ofItems.eq_def] at has
    obtain ⟨a, ha, -⟩ := bind_eq_ok.mp has
    exact h.decode_ne ha
  | _, _, _, .later h, _, _, _, has => by
    rw [Fields.ofItems.eq_def] at has
    obtain ⟨a, -, has⟩ := bind_eq_ok.mp has
    obtain ⟨bs, hbs, -⟩ := bind_eq_ok.mp has
    exact h.ofItems_ne hbs

theorem RepeatsMember.not_reads : ∀ {τ : Type} {fs : Fields τ} {name : String} {o : Outline},
    RepeatsMember fs name o → ∀ {p : Place} {ms : List (Key × Outline)} {as : τ},
      ¬ fs.Reads p ((.text name, o) :: ms) as
  | _, _, _, _, .first h, _, _, (_, _), has => h.decode_ne (Fields.reads_cons_self.mp has).1.2
  | _, _, _, _, .later hn h, _, _, (_, _), has =>
    h.not_reads ((Fields.reads_cons_of_ne fun he => hn (Key.text.inj he)).mp has).2
end

end HostingClient
