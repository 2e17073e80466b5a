import HostingClient.Json.Record
import HostingClient.Proofs.Json.Spelling
import HostingClient.Proofs.Outcome

/-! # Texts without a fault

The reader finds no fault in a text exactly if it is a text of the grammar (`readDocument_faultless_iff`). A decoder
that gives a value has looked at the whole text, so what it was given is a text of the grammar
(`Decoder.IsStrict.exists_spells`). -/

namespace HostingClient.Json

open HostingClient.Text HostingClient.Number

/-! ### Leaves -/

theorem exists_spells_of_scanText {s rest : List Symbol} {pieces : List Piece}
    (h : scanText s = (pieces, .closed rest)) : ∃ t, SpellsText pieces t ∧ s = t ++ rest := by
  fun_induction scanText s generalizing pieces with
  | case1 | case4 | case5 | case7 | case8 | case10 | case11 => cases h
  | case3 rest' =>
    cases h
    exact ⟨_, .close, rfl⟩
  | case2 width tail pieces' e hscan ih =>
    cases h
    obtain ⟨t, ht, rfl⟩ := ih hscan
    exact ⟨_, .stray ht, rfl⟩
  | case6 x y z w tail n hn pieces' e hscan _ ih =>
    cases h
    obtain ⟨t, ht, rfl⟩ := ih hscan
    exact ⟨_, .unit hn ht, rfl⟩
  | case9 k tail hu d hd pieces' e hscan _ ih =>
    cases h
    obtain ⟨t, ht, rfl⟩ := ih hscan
    exact ⟨_, .escape hd ht, rfl⟩
  | case12 c tail h1 h2 h3 pieces' e hscan ih =>
    cases h
    obtain ⟨t, ht, rfl⟩ := ih hscan
    exact ⟨_, .char h1 h2 h3 ht, rfl⟩

theorem exists_of_readWord {value o : Outline} {after : Option (List Symbol)} (hskip : o.skip = .ok ()) :
    ∀ {word : List Char} {s : List Symbol}, readWord value word s = (o, after) →
      ∃ rest, after = some rest ∧ o = value ∧ s = symbolsOf word ++ rest
  | [], s, h => by
    cases h
    exact ⟨s, rfl, rfl, rfl⟩
  | _ :: _, [], h => by
    cases h
    cases hskip
  | c :: word, x :: s, h => by
    rw [readWord] at h
    split at h
    · next hx =>
      obtain ⟨rest, rfl, rfl, rfl⟩ := exists_of_readWord hskip h
      exact ⟨rest, rfl, rfl, by rw [hx]; rfl⟩
    · cases h
      cases hskip

theorem exists_digits_of_spanDigits {s r : List Symbol} {ds : List Nat} (h : spanDigits s = (ds, r)) :
    ∃ w, (∀ c ∈ w, c.isDigit = true) ∧ digitValues w = ds ∧ s = symbolsOf w ++ r := by
  fun_induction spanDigits s generalizing ds with
  | case1 c tail hc ds' r' hspan ih =>
    cases h
    obtain ⟨w, hw, hds, rfl⟩ := ih hspan
    exact ⟨c :: w, List.forall_mem_cons.mpr ⟨hc, hw⟩, by rw [← hds]; rfl, rfl⟩
  | case2 | case3 =>
    cases h
    exact ⟨[], nofun, rfl, rfl⟩

theorem exists_isDigits_of_spanDigits {s r : List Symbol} {d : Nat} {ds : List Nat} (h : spanDigits s = (d :: ds, r)) :
    ∃ w, IsDigits w ∧ digitValues w = d :: ds ∧ s = symbolsOf w ++ r := by
  obtain ⟨w, hw, hds, hs⟩ := exists_digits_of_spanDigits h
  refine ⟨w, ⟨?_, hw⟩, hds, hs⟩
  rintro rfl
  cases hds

theorem missingDigit_ne {s rest : List Symbol} {l : Lexeme} : missingDigit s ≠ .number l rest := by
  cases s <;> nofun

/-- The digits of a power of ten, as far as they go. -/
theorem exists_isDigits_of_power {negative down : Bool} {whole fraction : List Nat} {s rest : List Symbol} {l : Lexeme}
    (h : (match spanDigits s with
      | ([], r) => missingDigit r
      | (digits, r) => .number ⟨negative, whole, fraction, some (down, digits)⟩ r) = .number l rest) :
    ∃ w, IsDigits w ∧ s = symbolsOf w ++ rest ∧ l = ⟨negative, whole, fraction, some (down, digitValues w)⟩ := by
  cases hspan : spanDigits s with
  | mk ds r =>
    rw [hspan] at h
    cases ds with
    | nil => exact absurd h missingDigit_ne
    | cons d ds =>
      obtain ⟨w, hw, hds, rfl⟩ := exists_isDigits_of_spanDigits hspan
      cases h
      exact ⟨w, hw, rfl, by rw [hds]⟩

theorem exists_spells_of_scanPower {negative : Bool} {whole fraction : List Nat} {s rest : List Symbol} {l : Lexeme}
    (h : scanPower negative whole fraction s = .number l rest) :
    ∃ power p, SpellsPower power p ∧ s = symbolsOf p ++ rest ∧ l = ⟨negative, whole, fraction, power⟩ := by
  unfold scanPower at h
  split at h
  · next c tail =>
    split at h
    · next he =>
      split at h
      next down after hsign =>
      obtain ⟨w, hw, rfl, rfl⟩ := exists_isDigits_of_power h
      split at hsign
      · cases hsign
        exact ⟨_, _, .up he hw, rfl, rfl⟩
      · cases hsign
        exact ⟨_, _, .down he hw, rfl, rfl⟩
      · cases hsign
        exact ⟨_, _, .plain he hw, rfl, rfl⟩
    · cases h
      exact ⟨none, [], .none, rfl, rfl⟩
  · cases h
    exact ⟨none, [], .none, rfl, rfl⟩

/-- The digits in front of a point: the first is no zero, unless it is the only one. -/
theorem exists_whole {s r : List Symbol} {whole : List Nat} (hspan : spanDigits s = (whole, r))
    (hne : whole = [] → False) (hzero : ∀ d ds, whole = 0 :: d :: ds → False) :
    ∃ w, IsDigits w ∧ (w.head? = some '0' → w = ['0']) ∧ digitValues w = whole ∧ s = symbolsOf w ++ r := by
  obtain ⟨d, ds, rfl⟩ := List.exists_cons_of_ne_nil hne
  obtain ⟨w, hw, hds, hs⟩ := exists_isDigits_of_spanDigits hspan
  refine ⟨w, hw, fun hhead => ?_, hds, hs⟩
  obtain ⟨tail, rfl⟩ := List.head?_eq_some_iff.mp hhead
  cases tail with
  | nil => rfl
  | cons c cs => exact (hzero _ _ hds.symm).elim

theorem exists_spells_of_scanUnsigned {negative : Bool} {s rest : List Symbol} {l : Lexeme}
    (h : scanUnsigned negative s = .number l rest) :
    ∃ t, SpellsUnsigned negative l t ∧ s = symbolsOf t ++ rest := by
  unfold scanUnsigned at h
  split at h
  · exact absurd h missingDigit_ne
  · cases h
  · next whole r hne hzero hspan =>
    obtain ⟨w, hw, hhead, rfl, rfl⟩ := exists_whole hspan hne hzero
    cases hfraction : spanDigits r with
    | mk fraction r' =>
      rw [hfraction] at h
      cases fraction with
      | nil => exact absurd h missingDigit_ne
      | cons d ds =>
        obtain ⟨f, hf, hds, rfl⟩ := exists_isDigits_of_spanDigits hfraction
        obtain ⟨power, p, hp, rfl, rfl⟩ := exists_spells_of_scanPower h
        rw [← hds]
        exact ⟨_, .mk hw hhead (.digits hf) hp, by simp⟩
  · next whole r hne hzero _ hspan =>
    obtain ⟨w, hw, hhead, rfl, rfl⟩ := exists_whole hspan hne hzero
    obtain ⟨power, p, hp, rfl, rfl⟩ := exists_spells_of_scanPower h
    exact ⟨_, .mk hw hhead .none hp, by simp⟩

theorem exists_spells_of_scanNumber {s rest : List Symbol} {l : Lexeme} (h : scanNumber s = .number l rest) :
    ∃ t, SpellsNumber l t ∧ s = symbolsOf t ++ rest := by
  unfold scanNumber at h
  split at h
  · obtain ⟨t, ht, rfl⟩ := exists_spells_of_scanUnsigned h
    exact ⟨_, .minus ht, rfl⟩
  · obtain ⟨t, ht, rfl⟩ := exists_spells_of_scanUnsigned h
    exact ⟨_, .plain ht, rfl⟩

theorem exists_spells_of_readText {s : List Symbol} {o : Outline} {after : Option (List Symbol)}
    (h : readText s = (o, after)) (hskip : o.skip = .ok ()) :
    ∃ pieces t rest, after = some rest ∧ SpellsText pieces t ∧ s = t ++ rest ∧
      o = .text ((assemble none pieces).map String.ofList) := by
  unfold readText at h
  split at h
  · next pieces rest hscan =>
    cases h
    obtain ⟨t, ht, rfl⟩ := exists_spells_of_scanText hscan
    exact ⟨pieces, t, rest, rfl, ht, rfl, rfl⟩
  · split at h <;> (cases h; cases hskip)

/-- A leaf without a fault is one of the grammar. -/
theorem exists_spells_of_readLeaf {s : List Symbol} {o : Outline} {after : Option (List Symbol)}
    (h : readLeaf s = (o, after)) (hskip : o.skip = .ok ()) :
    ∃ t v rest, after = some rest ∧ Spells t v ∧ s = v ++ rest ∧ t.outline = o := by
  unfold readLeaf at h
  split at h
  · next c tail =>
    split at h
    · next hc =>
      obtain ⟨pieces, v, rest, rfl, hv, rfl, rfl⟩ := exists_spells_of_readText h hskip
      exact ⟨_, _, rest, rfl, .text hv, by rw [hc]; rfl, rfl⟩
    split at h
    · next hc =>
      obtain ⟨rest, rfl, rfl, rfl⟩ := exists_of_readWord hskip h
      exact ⟨_, _, rest, rfl, .null, by rw [hc]; rfl, rfl⟩
    split at h
    · next hc =>
      obtain ⟨rest, rfl, rfl, rfl⟩ := exists_of_readWord hskip h
      exact ⟨_, _, rest, rfl, .true, by rw [hc]; rfl, rfl⟩
    split at h
    · next hc =>
      obtain ⟨rest, rfl, rfl, rfl⟩ := exists_of_readWord hskip h
      exact ⟨_, _, rest, rfl, .false, by rw [hc]; rfl, rfl⟩
    split at h
    · split at h
      · next l r hscan =>
        cases h
        obtain ⟨v, hv, hs⟩ := exists_spells_of_scanNumber hscan
        exact ⟨_, _, r, rfl, .number hv, hs, rfl⟩
      · cases h
        cases hskip
    · cases h
      cases hskip
  · cases h
    cases hskip
  · cases h
    cases hskip

/-! ### Blanks -/

theorem exists_gap : ∀ s : List Symbol, ∃ g, IsGapText g ∧ s = symbolsOf g ++ skipGaps s
  | [] => ⟨[], isGapText_nil, rfl⟩
  | x :: s => by
    cases hx : isGap x with
    | false => exact ⟨[], isGapText_nil, (List.dropWhile_cons_of_neg (by rw [hx]; nofun)).symm⟩
    | true =>
      obtain ⟨g, hg, hs⟩ := exists_gap s
      obtain ⟨c, rfl⟩ : ∃ c, x = .char c := by
        cases x with
        | char c => exact ⟨c, rfl⟩
        | stray b => cases hx
      refine ⟨c :: g, List.forall_mem_cons.mpr ⟨hx, hg⟩, ?_⟩
      rw [skipGaps, List.dropWhile_cons_of_pos hx]
      exact congrArg (.char c :: ·) hs

theorem skipGaps_skipGaps (s : List Symbol) : skipGaps (skipGaps s) = skipGaps s := by
  obtain ⟨g, hg, hs⟩ := exists_gap s
  have h := skipGaps_append hg (skipGaps s)
  rw [← hs] at h
  exact h.symm

theorem eq_nil_of_skipGaps {g : List Char} (hg : IsGapText g) {s : List Symbol}
    (h : skipGaps (symbolsOf g ++ s) = symbolsOf g ++ s) : g = [] := by
  cases g with
  | nil => rfl
  | cons c g =>
    have hc := hg c List.mem_cons_self
    have hlength := congrArg List.length h
    rw [symbolsOf, List.map_cons, List.cons_append, skipGaps, List.dropWhile_cons_of_pos hc,
      List.length_cons] at hlength
    have hle := (List.dropWhile_suffix (l := List.map Symbol.char g ++ s) isGap).length_le
    omega

/-! ### Values -/

theorem eq_none_of_finish {stop : Option SyntaxFault} {u : Unit} (h : finish stop = .ok u) : stop = none := by
  cases stop with
  | none => rfl
  | some f => cases h

theorem skip_array {items : List Outline} {stop : Option SyntaxFault} (h : (Outline.array items stop).skip = .ok ()) :
    Outline.skipItems items = .ok () ∧ stop = none := by
  rw [Outline.skip] at h
  obtain ⟨_, hitems, hstop⟩ := bind_eq_ok.mp h
  exact ⟨hitems, eq_none_of_finish hstop⟩

theorem skip_object {members : List (Key × Outline)} {stop : Option SyntaxFault}
    (h : (Outline.object members stop).skip = .ok ()) : Outline.skipMembers members = .ok () ∧ stop = none := by
  rw [Outline.skip] at h
  obtain ⟨_, hmembers, hstop⟩ := bind_eq_ok.mp h
  exact ⟨hmembers, eq_none_of_finish hstop⟩

theorem skipItems_cons {o : Outline} {items : List Outline} (h : Outline.skipItems (o :: items) = .ok ()) :
    o.skip = .ok () ∧ Outline.skipItems items = .ok () := by
  rw [Outline.skipItems] at h
  obtain ⟨_, ho, hitems⟩ := bind_eq_ok.mp h
  exact ⟨ho, hitems⟩

theorem skipMembers_cons {k : Key} {o : Outline} {members : List (Key × Outline)}
    (h : Outline.skipMembers ((k, o) :: members) = .ok ()) :
    k.skip = .ok () ∧ o.skip = .ok () ∧ Outline.skipMembers members = .ok () := by
  rw [Outline.skipMembers] at h
  obtain ⟨_, hk, h⟩ := bind_eq_ok.mp h
  obtain ⟨_, ho, hmembers⟩ := bind_eq_ok.mp h
  exact ⟨hk, ho, hmembers⟩

/-- A name without a fault is a text of the grammar. -/
theorem exists_spells_of_readKey {s : List Symbol} {k : Key} {after : Option (List Symbol)}
    (h : readKey s = (k, after)) (hskip : k.skip = .ok ()) :
    ∃ pieces t rest, after = some rest ∧ SpellsText pieces t ∧ s = t ++ rest ∧ k = .ofPieces pieces := by
  cases hscan : scanText s with
  | mk pieces e =>
    cases e with
    | closed rest =>
      obtain ⟨t, ht, rfl⟩ := exists_spells_of_scanText hscan
      obtain ⟨rfl, rfl⟩ := Prod.mk.inj ((readKey_spelled ht rest).symm.trans h)
      exact ⟨pieces, t, rest, rfl, ht, rfl, rfl⟩
    | cut f =>
      have hbroken : ∃ g, readText s = (.broken g f, none) := by
        rw [readText, hscan]
        dsimp only
        split <;> exact ⟨_, rfl⟩
      obtain ⟨g, hg⟩ := hbroken
      rw [readKey, hg] at h
      cases h
      cases hskip

-- By induction on the fuel, with no bound on it: where it runs out there is a fault.
mutual
/-- A value without a fault is a text of the grammar with blanks in front of it. -/
theorem exists_spells_of_readValue : ∀ (fuel : Nat) {s : List Symbol} {o : Outline} {after : Option (List Symbol)},
    readValue fuel s = (o, after) → o.skip = .ok () →
      ∃ t g v rest, after = some rest ∧ IsGapText g ∧ Spells t v ∧ s = symbolsOf g ++ (v ++ rest) ∧ t.outline = o
  | 0, _, _, _, h, hskip => by
    cases h
    cases hskip
  | fuel + 1, s, o, after, h, hskip => by
    obtain ⟨g, hg, hs⟩ := exists_gap s
    rw [readValue] at h
    split at h
    · next tail hfirst =>
      obtain ⟨g', hg', htail⟩ := exists_gap tail
      rw [hfirst] at hs
      split at h
      · cases h
        cases (skip_array hskip).2
      · next rest hnext =>
        cases h
        rw [hnext] at htail
        exact ⟨_, g, _, rest, rfl, hg, .emptyArray hg', by rw [hs, htail]; simp, rfl⟩
      · cases hitems : readItems fuel (skipGaps tail) with
        | mk items ends =>
          obtain ⟨stop, after'⟩ := ends
          rw [hitems] at h
          cases h
          obtain ⟨hinner, rfl⟩ := skip_array hskip
          obtain ⟨ts, v, rest, rfl, hv, hread, rfl⟩ :=
            exists_spells_of_readItems fuel hitems hinner rfl (skipGaps_skipGaps tail)
          exact ⟨.array ts, g, _, rest, rfl, hg, .array hg' hv, by rw [hs, htail, hread]; simp, rfl⟩
    · next tail hfirst =>
      obtain ⟨g', hg', htail⟩ := exists_gap tail
      rw [hfirst] at hs
      split at h
      · cases h
        cases (skip_object hskip).2
      · next rest hnext =>
        cases h
        rw [hnext] at htail
        exact ⟨_, g, _, rest, rfl, hg, .emptyObject hg', by rw [hs, htail]; simp, rfl⟩
      · cases hmembers : readMembers fuel (skipGaps tail) with
        | mk members ends =>
          obtain ⟨stop, after'⟩ := ends
          rw [hmembers] at h
          cases h
          obtain ⟨hinner, rfl⟩ := skip_object hskip
          obtain ⟨ts, v, rest, rfl, hv, hread, rfl⟩ := exists_spells_of_readMembers fuel hmembers hinner rfl
          exact ⟨.object ts, g, _, rest, rfl, hg, .object hg' hv, by rw [hs, htail, hread]; simp, rfl⟩
    · obtain ⟨t, v, rest, rfl, hv, hread, rfl⟩ := exists_spells_of_readLeaf h hskip
      exact ⟨t, g, v, rest, rfl, hg, hv, hread ▸ hs, rfl⟩

/-- Items without a fault, up to the closing bracket. -/
theorem exists_spells_of_readItems : ∀ (fuel : Nat) {s : List Symbol} {items : List Outline}
    {stop : Option SyntaxFault} {after : Option (List Symbol)}, readItems fuel s = (items, stop, after) →
      Outline.skipItems items = .ok () → stop = none → skipGaps s = s →
        ∃ ts v rest, after = some rest ∧ SpellsItems ts v ∧ s = v ++ rest ∧ Tree.outlines ts = items
  | 0, _, _, _, _, h, _, hstop, _ => by
    cases h
    cases hstop
  | fuel + 1, s, items, stop, after, h, hskip, hstop, hgap => by
    -- the first item has no blanks in front of it
    have hfirst : ∀ {item next}, readValue fuel s = (item, some next) → item.skip = .ok () →
        ∃ t v, Spells t v ∧ s = v ++ next ∧ t.outline = item := fun hread hitem => by
      obtain ⟨t, g, v, rest, hnext, hg, hv, hs, ho⟩ := exists_spells_of_readValue fuel hread hitem
      cases hnext
      obtain rfl := eq_nil_of_skipGaps hg (hs ▸ hgap)
      exact ⟨t, v, hv, hs, ho⟩
    rw [readItems] at h
    split at h
    · cases h
      cases hstop
    · next item next hread =>
      obtain ⟨g, hg, hnext⟩ := exists_gap next
      split at h
      · cases h
        cases hstop
      · next rest hend =>
        cases h
        obtain ⟨t, v, hv, rfl, rfl⟩ := hfirst hread (skipItems_cons hskip).1
        exact ⟨[t], _, rest, rfl, .last hv hg, by rw [hnext, hend]; simp, rfl⟩
      · next tail hcomma =>
        obtain ⟨g', hg', htail⟩ := exists_gap tail
        split at h
        · cases h
          cases hstop
        · cases hmore : readItems fuel (skipGaps tail) with
          | mk more ends =>
            obtain ⟨stop', after'⟩ := ends
            rw [hmore] at h
            cases h
            obtain ⟨hitem, hrest⟩ := skipItems_cons hskip
            obtain ⟨t, v, hv, rfl, rfl⟩ := hfirst hread hitem
            obtain ⟨ts, v', rest, rfl, hv', hlast, rfl⟩ :=
              exists_spells_of_readItems fuel hmore hrest hstop (skipGaps_skipGaps tail)
            exact ⟨t :: ts, _, rest, rfl, .more hv hg hg' hv', by rw [hnext, hcomma, htail, hlast]; simp, rfl⟩
      · cases h
        cases hstop

/-- Members without a fault, up to the closing bracket. -/
theorem exists_spells_of_readMembers : ∀ (fuel : Nat) {s : List Symbol} {members : List (Key × Outline)}
    {stop : Option SyntaxFault} {after : Option (List Symbol)}, readMembers fuel s = (members, stop, after) →
      Outline.skipMembers members = .ok () → stop = none →
        ∃ ts v rest, after = some rest ∧ SpellsMembers ts v ∧ s = v ++ rest ∧ Tree.memberOutlines ts = members
  | 0, _, _, _, _, h, _, hstop => by
    cases h
    cases hstop
  | fuel + 1, s, members, stop, after, h, hskip, hstop => by
    rw [readMembers.eq_def] at h
    dsimp only at h
    split at h
    · cases h
      cases hstop
    · split at h
      · cases h
        cases hstop
      · next tail key next hkey =>
        obtain ⟨g₁, h₁, hnext⟩ := exists_gap next
        split at h
        · cases h
          cases hstop
        · next colon hcolon =>
          split at h
          · cases h
            cases hstop
          · next value after' hvalue =>
            obtain ⟨g, hg, hafter⟩ := exists_gap after'
            split at h
            · cases h
              cases hstop
            · next rest hend =>
              cases h
              obtain ⟨hk, ho, -⟩ := skipMembers_cons hskip
              obtain ⟨name, k, _, hrest, hname, rfl, rfl⟩ := exists_spells_of_readKey hkey hk
              cases hrest
              obtain ⟨t, g₂, v, _, hrest, h₂, hv, hs, rfl⟩ := exists_spells_of_readValue fuel hvalue ho
              cases hrest
              exact ⟨[(name, t)], _, rest, rfl, .last hname h₁ h₂ hv hg,
                by rw [hnext, hcolon, hs, hafter, hend]; simp, rfl⟩
            · next comma hcomma =>
              obtain ⟨g', hg', htail⟩ := exists_gap comma
              cases hmore : readMembers fuel (skipGaps comma) with
              | mk more ends =>
                obtain ⟨stop', after''⟩ := ends
                rw [hmore] at h
                cases h
                obtain ⟨hk, ho, hmembers⟩ := skipMembers_cons hskip
                obtain ⟨name, k, _, hrest, hname, rfl, rfl⟩ := exists_spells_of_readKey hkey hk
                cases hrest
                obtain ⟨t, g₂, v, _, hrest, h₂, hv, hs, rfl⟩ := exists_spells_of_readValue fuel hvalue ho
                cases hrest
                obtain ⟨ts, v', rest, rfl, hv', hlast, rfl⟩ := exists_spells_of_readMembers fuel hmore hmembers hstop
                exact ⟨(name, t) :: ts, _, rest, rfl, .more hname h₁ h₂ hv hg hg' hv',
                  by rw [hnext, hcolon, hs, hafter, hcomma, htail, hlast]; simp, rfl⟩
            · cases h
              cases hstop
        · cases h
          cases hstop
    · cases h
      cases hstop
end

/-! ### Documents -/

theorem skip_ofPieces (pieces : List Piece) : (Key.ofPieces pieces).skip = .ok () := by
  unfold Key.ofPieces
  split <;> rfl

mutual
theorem Tree.skip_outline : ∀ t : Tree, t.outline.skip = .ok ()
  | .null | .bool _ | .number _ | .text _ => rfl
  | .array items => by
    rw [outline, Outline.skip, skipItems_outlines items]
    rfl
  | .object members => by
    rw [outline, Outline.skip, skipMembers_outlines members]
    rfl

theorem Tree.skipItems_outlines : ∀ items : List Tree, Outline.skipItems (Tree.outlines items) = .ok ()
  | [] => rfl
  | t :: items => by
    rw [outlines, Outline.skipItems, skip_outline t]
    exact skipItems_outlines items

theorem Tree.skipMembers_outlines : ∀ members : List (List Piece × Tree),
    Outline.skipMembers (Tree.memberOutlines members) = .ok ()
  | [] => rfl
  | (name, t) :: members => by
    rw [memberOutlines, Outline.skipMembers, skip_ofPieces, skip_outline t]
    exact skipMembers_outlines members
end

/-- A document without a fault is a text of the grammar. -/
theorem exists_spells_of_readDocument {s : List Symbol} (hskip : (readDocument s).value.skip = .ok ())
    (hsurplus : (readDocument s).surplus = false) : ∃ t, SpellsDocument t s := by
  unfold readDocument at hskip hsurplus
  cases hread : readValue (2 * s.length + 2) s with
  | mk o after =>
    rw [hread] at hskip hsurplus
    have ho : o.skip = .ok () := by
      cases after <;> exact hskip
    obtain ⟨t, g, v, rest, rfl, hg, hv, hs, -⟩ := exists_spells_of_readValue _ hread ho
    obtain ⟨g', hg', hrest⟩ := exists_gap rest
    have hempty : skipGaps rest = [] := by simpa using hsurplus
    rw [hempty, List.append_nil] at hrest
    exact ⟨t, g, v, g', hg, hg', hv, by rw [← hrest, hs]⟩

/-- **The reader finds no fault in a text exactly if it is a text of the grammar.** -/
theorem readDocument_faultless_iff {s : List Symbol} :
    (readDocument s).value.skip = .ok () ∧ (readDocument s).surplus = false ↔ ∃ t, SpellsDocument t s := by
  constructor
  · rintro ⟨hskip, hsurplus⟩
    exact exists_spells_of_readDocument hskip hsurplus
  · rintro ⟨t, ht⟩
    rw [readDocument_spelled ht]
    exact ⟨t.skip_outline, rfl⟩

end HostingClient.Json

namespace HostingClient

open HostingClient.Json

/-! ### Decoders -/

theorem lift_eq_ok {α : Type} {x : Except SyntaxFault α} {a : α} : DecodeFault.lift x = .ok a ↔ x = .ok a := by
  cases x with
  | error f => exact iff_of_false nofun nofun
  | ok b => exact ⟨fun h => congrArg _ (Except.ok.inj h), fun h => congrArg _ (Except.ok.inj h)⟩

namespace Decoder
variable {α : Type}

/-- Whether a decoder gives a value only where no fault is. -/
def IsStrict (d : Decoder α) : Prop := ∀ ⦃p : Place⦄ ⦃o : Outline⦄ ⦃a : α⦄, d p o = .ok a → o.skip = .ok ()

theorem isStrict_text : text.IsStrict := by
  intro p o a h
  cases o with
  | text s => rfl
  | _ => cases h

theorem isStrict_real : real.IsStrict := by
  intro p o a h
  cases o with
  | number n => rfl
  | _ => cases h

theorem IsStrict.option {d : Decoder α} (hd : d.IsStrict) : (option d).IsStrict := by
  intro p o a h
  cases o with
  | null => rfl
  | _ =>
    obtain ⟨b, hb, -⟩ := map_eq_ok.mp h
    exact hd hb

/-- A decoder sees of a text of the grammar only the outline of its tree. -/
theorem run_spelled (d : Decoder α) {t : Tree} {text : String} (h : SpellsDocument t (symbolsOf text.toList)) :
    d.run text = d .ofText t.outline := by
  rw [run, readDocument_spelled h, document]
  cases d .ofText t.outline <;> rfl

/-- What a decoder has given a value for is a text of the grammar. -/
theorem IsStrict.exists_spells {d : Decoder α} (hd : d.IsStrict) {bytes : List UInt8} {a : α}
    (h : d.runBytes bytes = .ok a) : ∃ t, SpellsDocument t (Text.Utf8.symbols bytes) := by
  obtain ⟨b, hb, h⟩ := bind_eq_ok.mp h
  refine exists_spells_of_readDocument (hd hb) ?_
  split at h
  · cases h
  · next hsurplus => exact Bool.eq_false_iff.mpr hsurplus

end Decoder

namespace Fields

/-- Whether the decoders of all fields are strict. -/
def IsStrict : {τ : Type} → Fields τ → Prop
  | _, nil => True
  | _, cons f rest => f.codec.decode.IsStrict ∧ rest.IsStrict

variable {p : Place}

theorem skip_fill {name : String} {o : Outline} : ∀ {τ : Type} (fs : Fields τ), fs.IsStrict →
    ∀ {slots later : fs.Slots}, fs.fill p name o slots = some (.ok later) → o.skip = .ok ()
  | _, nil, _, _, _, h => by cases h
  | _, cons f rest, hstrict, slots, later, h => by
    obtain ⟨hf, hrest⟩ := hstrict
    rw [fill.eq_def] at h
    dsimp only at h
    split at h
    · split at h
      · cases h
      · obtain ⟨a, ha, -⟩ := map_eq_ok.mp (Option.some.inj h)
        exact hf ha
    · obtain ⟨r, hr, hmap⟩ := Option.map_eq_some_iff.mp h
      obtain ⟨next, rfl, -⟩ := map_eq_ok.mp hmap
      exact skip_fill rest hrest hr

theorem skipMembers_fillAll {τ : Type} {fs : Fields τ} (hstrict : fs.IsStrict) :
    ∀ {members : List (Key × Outline)} {slots later : fs.Slots}, fs.fillAll p slots members = .ok later →
      Outline.skipMembers members = .ok ()
  | [], _, _, _ => rfl
  | (k, o) :: members, slots, later, h => by
    rw [fillAll.eq_def] at h
    obtain ⟨name, hname, h⟩ := bind_eq_ok.mp h
    have hk : k.skip = .ok () := by
      cases k with
      | text s => rfl
      | unreadable => rfl
      | _ => cases hname
    rw [Outline.skipMembers, hk]
    split at h
    · next r hr =>
      obtain ⟨next, rfl, h⟩ := bind_eq_ok.mp h
      rw [skip_fill fs hstrict hr]
      exact skipMembers_fillAll hstrict h
    · obtain ⟨_, ho, h⟩ := bind_eq_ok.mp h
      rw [lift_eq_ok.mp ho]
      exact skipMembers_fillAll hstrict h

theorem skipItems_ofItems {stop : Option SyntaxFault} : ∀ {τ : Type} (fs : Fields τ), fs.IsStrict →
    ∀ {items : List Outline} {as : τ}, fs.ofItems p stop items = .ok as →
      Outline.skipItems items = .ok () ∧ stop = none
  | _, nil, _, [], _, h => by
    obtain ⟨_, hstop, -⟩ := map_eq_ok.mp h
    exact ⟨rfl, eq_none_of_finish (lift_eq_ok.mp hstop)⟩
  | _, cons f rest, hstrict, o :: items, _, h => by
    obtain ⟨hf, hrest⟩ := hstrict
    rw [ofItems.eq_def] at h
    obtain ⟨a, ha, h⟩ := bind_eq_ok.mp h
    obtain ⟨as, has, -⟩ := bind_eq_ok.mp h
    obtain ⟨hitems, hstop⟩ := skipItems_ofItems rest hrest has
    rw [Outline.skipItems, hf ha]
    exact ⟨hitems, hstop⟩
  | _, cons f rest, _, [], _, h => by
    rw [ofItems.eq_def] at h
    obtain ⟨_, hstop, -⟩ := bind_eq_ok.mp h
    exact ⟨rfl, eq_none_of_finish (lift_eq_ok.mp hstop)⟩

end Fields

/-- A record is strict if its fields are. -/
theorem Record.isStrict {α : Type} {r : Record α} (hr : r.fields.IsStrict) : r.decode.IsStrict := by
  intro p o a h
  unfold Record.decode at h
  split at h
  · obtain ⟨q, -, h⟩ := bind_eq_ok.mp h
    obtain ⟨as, has, -⟩ := map_eq_ok.mp h
    obtain ⟨hitems, rfl⟩ := Fields.skipItems_ofItems r.fields hr has
    rw [Outline.skip, hitems]
    rfl
  · obtain ⟨q, -, h⟩ := bind_eq_ok.mp h
    obtain ⟨slots, hslots, h⟩ := bind_eq_ok.mp h
    obtain ⟨_, hstop, -⟩ := bind_eq_ok.mp h
    obtain rfl := eq_none_of_finish (lift_eq_ok.mp hstop)
    rw [Outline.skip, Fields.skipMembers_fillAll hr hslots]
    rfl
  · cases h

end HostingClient
