import HostingClient.Json.Leaf
import HostingClient.Json.Printer
import HostingClient.Proofs.Number.Digits

/-! # Leaves both ways

What a text in quotes and a number are made of, as the grammar of JSON has it, and that the reader takes them apart
into just this, whatever follows them. What follows a number must not look like more of it. A text, a word or a whole
number that was written is one of the leaves of the grammar, so it is read as what it was. -/

namespace HostingClient.Json

open HostingClient.Text HostingClient.Number

/-- Some characters as symbols. -/
abbrev symbolsOf (s : List Char) : List Symbol := s.map Symbol.char

/-! ### Texts -/

/-- A text in quotes, without the opening one: what each of its pieces may be written as. -/
inductive SpellsText : List Piece → List Symbol → Prop where
  | close : SpellsText [] [.char '"']
  | char {c : Char} {pieces : List Piece} {s : List Symbol} (h1 : c ≠ '"') (h2 : c ≠ '\\') (h3 : ¬ c < ' ')
      (h : SpellsText pieces s) : SpellsText (.char c :: pieces) (.char c :: s)
  | escape {k d : Char} {pieces : List Piece} {s : List Symbol} (hd : escaped? k = some d)
      (h : SpellsText pieces s) : SpellsText (.char d :: pieces) (.char '\\' :: .char k :: s)
  | unit {x y z w : Char} {n : Nat} {pieces : List Piece} {s : List Symbol} (hn : hexUnit? x y z w = some n)
      (h : SpellsText pieces s) :
      SpellsText (.unit n :: pieces)
        (.char '\\' :: .char 'u' :: .char x :: .char y :: .char z :: .char w :: s)
  | stray {b : Nat} {pieces : List Piece} {s : List Symbol} (h : SpellsText pieces s) :
      SpellsText (.stray :: pieces) (.stray b :: s)

theorem scanText_spelled {pieces : List Piece} {s : List Symbol} (h : SpellsText pieces s) (rest : List Symbol) :
    scanText (s ++ rest) = (pieces, .closed rest) := by
  induction h with
  | close =>
    rw [List.singleton_append, scanText.eq_def]
    simp only [if_true]
  | char h1 h2 h3 _ ih =>
    rw [List.cons_append, scanText.eq_def]
    simp only [h1, h2, h3, if_false, ih]
  | @escape k _ _ _ hd _ ih =>
    have hu : k ≠ 'u' := by
      rintro rfl
      cases hd
    rw [List.cons_append, List.cons_append, scanText.eq_def]
    simp only [hu, hd, if_true, if_false, ih, show ('\\' : Char) ≠ '"' by decide]
  | unit hn _ ih =>
    simp only [List.cons_append]
    rw [scanText.eq_def]
    simp only [hn, if_true, if_false, ih, show ('\\' : Char) ≠ '"' by decide]
  | stray _ ih =>
    rw [List.cons_append, scanText.eq_def]
    simp only [ih]

/-- The name that some pieces are. -/
def Key.ofPieces (pieces : List Piece) : Key :=
  match assemble none pieces with
  | .ok k => .text (String.ofList k)
  | .error _ => .unreadable

theorem Key.ofPieces_quoted {pieces : List Piece} {k : String} (h : assemble none pieces = .ok k.toList) :
    Key.ofPieces pieces = .text k := by
  rw [ofPieces, h]
  exact congrArg Key.text String.ofList_toList

theorem readText_spelled {pieces : List Piece} {s : List Symbol} (h : SpellsText pieces s) (rest : List Symbol) :
    readText (s ++ rest) = (.text ((assemble none pieces).map String.ofList), some rest) := by
  rw [readText, scanText_spelled h]

/-- The name of a member, after its opening quote. -/
theorem readKey_spelled {pieces : List Piece} {s : List Symbol} (h : SpellsText pieces s) (rest : List Symbol) :
    readKey (s ++ rest) = (Key.ofPieces pieces, some rest) := by
  rw [readKey, readText_spelled h, Key.ofPieces]
  cases assemble none pieces <;> rfl

theorem hexUnit?_control :
    ∀ n < 32, hexUnit? '0' '0' (hexChar (n / 16)) (hexChar (n % 16)) = some n := by decide

/-- A character inside quotes is one piece, which stands for the character. -/
theorem spells_quoteChar (c : Char) :
    ∃ piece, (∀ {pieces s}, SpellsText pieces s → SpellsText (piece :: pieces) (symbolsOf (quoteChar c) ++ s)) ∧
      ∀ pieces s, assemble none pieces = .ok s → assemble none (piece :: pieces) = .ok (c :: s) := by
  have plain : ∀ pieces s, assemble none pieces = .ok s →
      assemble none (Piece.char c :: pieces) = .ok (c :: s) := by
    intro pieces s h
    rw [assemble, h]; rfl
  unfold quoteChar
  by_cases h1 : c = '"'
  · subst h1; exact ⟨.char '"', .escape rfl, plain⟩
  by_cases h2 : c = '\\'
  · subst h2; exact ⟨.char '\\', .escape rfl, plain⟩
  by_cases h3 : c = '\x08'
  · subst h3; exact ⟨.char '\x08', .escape rfl, plain⟩
  by_cases h4 : c = '\x0C'
  · subst h4; exact ⟨.char '\x0C', .escape rfl, plain⟩
  by_cases h5 : c = '\n'
  · subst h5; exact ⟨.char '\n', .escape rfl, plain⟩
  by_cases h6 : c = '\r'
  · subst h6; exact ⟨.char '\r', .escape rfl, plain⟩
  by_cases h7 : c = '\t'
  · subst h7; exact ⟨.char '\t', .escape rfl, plain⟩
  rw [if_neg h1, if_neg h2, if_neg h3, if_neg h4, if_neg h5, if_neg h6, if_neg h7]
  by_cases h8 : c < ' '
  · have hn : c.toNat < 32 := h8
    rw [if_pos h8]
    refine ⟨.unit c.toNat, .unit (hexUnit?_control c.toNat hn), fun pieces s h => ?_⟩
    have ht : isTrailing c.toNat = false := by simp [isTrailing]; omega
    have hl : isLeading c.toNat = false := by simp [isLeading]; omega
    rw [assemble.eq_def]
    simp only [ht, hl, h, Char.ofNat_toNat]
    rfl
  · rw [if_neg h8]
    exact ⟨.char c, .char h1 h2 h8, plain⟩

/-- A text in quotes consists of its characters. -/
theorem spells_quote : ∀ s : List Char,
    ∃ pieces, SpellsText pieces (symbolsOf (s.flatMap quoteChar) ++ [.char '"']) ∧ assemble none pieces = .ok s
  | [] => ⟨[], .close, rfl⟩
  | c :: s => by
    obtain ⟨pieces, hspells, hs⟩ := spells_quote s
    obtain ⟨piece, hpiece, hc⟩ := spells_quoteChar c
    refine ⟨piece :: pieces, ?_, hc pieces s hs⟩
    rw [List.flatMap_cons, symbolsOf, List.map_append, List.append_assoc]
    exact hpiece hspells

theorem symbolsOf_quote (s : String) :
    symbolsOf (quote s) = .char '"' :: (symbolsOf (s.toList.flatMap quoteChar) ++ [.char '"']) := by
  simp [quote]

/-! ### Words -/

theorem readLeaf_null (rest : List Symbol) :
    readLeaf (symbolsOf ['n', 'u', 'l', 'l'] ++ rest) = (.null, some rest) := by simp [readLeaf, readWord]

theorem readLeaf_true (rest : List Symbol) :
    readLeaf (symbolsOf ['t', 'r', 'u', 'e'] ++ rest) = (.bool true, some rest) := by simp [readLeaf, readWord]

theorem readLeaf_false (rest : List Symbol) :
    readLeaf (symbolsOf ['f', 'a', 'l', 's', 'e'] ++ rest) = (.bool false, some rest) := by simp [readLeaf, readWord]

/-! ### Numbers -/

/-- The text does not go on with a digit. -/
def EndsDigits (rest : List Symbol) : Prop := ∀ c t, rest = .char c :: t → c.isDigit = false

/-- The text does not go on as a number would. -/
def EndsNumber (rest : List Symbol) : Prop :=
  ∀ c t, rest = .char c :: t → c.isDigit = false ∧ c ≠ '.' ∧ c ≠ 'e' ∧ c ≠ 'E'

theorem endsNumber_cons {c : Char} (h : c.isDigit = false ∧ c ≠ '.' ∧ c ≠ 'e' ∧ c ≠ 'E') (t : List Symbol) :
    EndsNumber (.char c :: t) := fun c' t' e => by cases e; exact h

theorem endsDigits_cons {c : Char} (h : c.isDigit = false) (t : List Symbol) : EndsDigits (.char c :: t) :=
  fun c' t' e => by cases e; exact h

theorem EndsNumber.digits {rest : List Symbol} (h : EndsNumber rest) : EndsDigits rest := fun c t e => (h c t e).1

/-- The values of some digits. -/
abbrev digitValues (ds : List Char) : List Nat := ds.map fun c => c.toNat - '0'.toNat

/-- At least one digit and nothing else. -/
def IsDigits (ds : List Char) : Prop := ds ≠ [] ∧ ∀ c ∈ ds, c.isDigit = true

/-- A fraction, which may be missing. -/
inductive SpellsFraction : List Nat → List Char → Prop where
  | none : SpellsFraction [] []
  | digits {ds : List Char} (h : IsDigits ds) : SpellsFraction (digitValues ds) ('.' :: ds)

/-- A power of ten, which may be missing. -/
inductive SpellsPower : Option (Bool × List Nat) → List Char → Prop where
  | none : SpellsPower none []
  | plain {e : Char} {ds : List Char} (he : e = 'e' ∨ e = 'E') (h : IsDigits ds) :
      SpellsPower (some (false, digitValues ds)) (e :: ds)
  | up {e : Char} {ds : List Char} (he : e = 'e' ∨ e = 'E') (h : IsDigits ds) :
      SpellsPower (some (false, digitValues ds)) (e :: '+' :: ds)
  | down {e : Char} {ds : List Char} (he : e = 'e' ∨ e = 'E') (h : IsDigits ds) :
      SpellsPower (some (true, digitValues ds)) (e :: '-' :: ds)

/-- A number after its sign: digits, with no zero in front of others, a fraction and a power of ten. -/
inductive SpellsUnsigned (negative : Bool) : Lexeme → List Char → Prop where
  | mk {w f p : List Char} {fraction : List Nat} {power : Option (Bool × List Nat)} (hw : IsDigits w)
      (hzero : w.head? = some '0' → w = ['0']) (hf : SpellsFraction fraction f) (hp : SpellsPower power p) :
      SpellsUnsigned negative ⟨negative, digitValues w, fraction, power⟩ (w ++ (f ++ p))

/-- A number. -/
inductive SpellsNumber : Lexeme → List Char → Prop where
  | plain {l : Lexeme} {s : List Char} (h : SpellsUnsigned false l s) : SpellsNumber l s
  | minus {l : Lexeme} {s : List Char} (h : SpellsUnsigned true l s) : SpellsNumber l ('-' :: s)

theorem spanDigits_append {rest : List Symbol} (hr : EndsDigits rest) :
    ∀ ds : List Char, (∀ c ∈ ds, c.isDigit = true) →
      spanDigits (symbolsOf ds ++ rest) = (digitValues ds, rest)
  | [], _ => by
    cases rest with
    | nil => rfl
    | cons x t =>
      cases x with
      | char c => simp [spanDigits, hr c t rfl]
      | stray w => rfl
  | c :: ds, h => by
    have ih := spanDigits_append hr ds fun d hd => h d (by simp [hd])
    simp only [symbolsOf, List.map_cons, List.cons_append, spanDigits, h c (by simp), if_true] at ih ⊢
    rw [ih]

theorem IsDigits.values_ne_nil {ds : List Char} (h : IsDigits ds) : digitValues ds ≠ [] := fun he =>
  h.1 (List.map_eq_nil_iff.mp he)

theorem ne_of_isDigit {c d : Char} (hc : c.isDigit = true) (hd : d.isDigit = false) : c ≠ d := by
  rintro rfl
  rw [hc] at hd
  cases hd

theorem scanPower_spelled {power : Option (Bool × List Nat)} {p : List Char} (h : SpellsPower power p)
    {rest : List Symbol} (hr : EndsNumber rest) (negative : Bool) (whole fraction : List Nat) :
    scanPower negative whole fraction (symbolsOf p ++ rest) = .number ⟨negative, whole, fraction, power⟩ rest := by
  -- the digits of a power, and that they are not its sign
  have hdigits : ∀ {ds : List Char}, IsDigits ds → ∃ n ns, spanDigits (symbolsOf ds ++ rest) = (n :: ns, rest) ∧
      digitValues ds = n :: ns := fun {ds} hds => by
    obtain ⟨n, ns, hn⟩ := List.exists_cons_of_ne_nil hds.values_ne_nil
    exact ⟨n, ns, by rw [spanDigits_append hr.digits ds hds.2, hn], hn⟩
  cases h with
  | none =>
    cases rest with
    | nil => rfl
    | cons x t =>
      cases x with
      | char c =>
        obtain ⟨-, -, h1, h2⟩ := hr c t rfl
        simp [scanPower, h1, h2]
      | stray w => rfl
  | @plain e ds he hds =>
    obtain ⟨n, ns, hspan, hn⟩ := hdigits hds
    obtain ⟨d, ds', rfl⟩ := List.exists_cons_of_ne_nil hds.1
    have hd := hds.2 d List.mem_cons_self
    have hplus : d ≠ '+' := ne_of_isDigit hd (by decide)
    have hminus : d ≠ '-' := ne_of_isDigit hd (by decide)
    rw [symbolsOf, List.map_cons, List.cons_append] at hspan ⊢
    rw [List.map_cons, List.cons_append, scanPower, if_pos he]
    · simp only [hspan, hn]
    · intro r hr
      cases hr
      exact hplus rfl
    · intro r hr
      cases hr
      exact hminus rfl
  | up he hds =>
    obtain ⟨n, ns, hspan, hn⟩ := hdigits hds
    rw [symbolsOf, List.map_cons, List.map_cons, List.cons_append, List.cons_append, scanPower, if_pos he, hn]
    simp only [hspan]
  | down he hds =>
    obtain ⟨n, ns, hspan, hn⟩ := hdigits hds
    rw [symbolsOf, List.map_cons, List.map_cons, List.cons_append, List.cons_append, scanPower, if_pos he, hn]
    simp only [hspan]

/-- What follows the digits in front of a power of ten. -/
theorem SpellsPower.head {power : Option (Bool × List Nat)} {p : List Char} (h : SpellsPower power p)
    {rest : List Symbol} (hr : EndsNumber rest) {c : Char} {t : List Symbol}
    (he : symbolsOf p ++ rest = .char c :: t) : c.isDigit = false ∧ c ≠ '.' := by
  cases h with
  | none =>
    obtain ⟨hdigit, hpoint, -⟩ := hr c t he
    exact ⟨hdigit, hpoint⟩
  | plain hletter _ | up hletter _ | down hletter _ =>
    obtain ⟨hc, -⟩ := List.cons.inj he
    cases hc
    rcases hletter with rfl | rfl <;> decide

theorem digitValue_eq_zero {c : Char} (hd : c.isDigit = true) (h : c.toNat - '0'.toNat = 0) : c = '0' := by
  have h0 : '0'.toNat ≤ c.toNat := by
    simp only [Char.isDigit, Bool.and_eq_true, decide_eq_true_eq] at hd
    exact hd.1
  exact Char.toNat_inj.mp (by omega)

/-- No zero stands in front of other digits. -/
theorem digitValues_ne_zero_cons {w : List Char} (hw : IsDigits w) (hzero : w.head? = some '0' → w = ['0'])
    (d : Nat) (ds : List Nat) : digitValues w ≠ 0 :: d :: ds := by
  intro h
  obtain ⟨c, cs, rfl⟩ := List.exists_cons_of_ne_nil hw.1
  obtain ⟨hc, hcs⟩ := List.cons.inj h
  have hc0 := digitValue_eq_zero (hw.2 c List.mem_cons_self) hc
  obtain ⟨-, rfl⟩ := List.cons.inj (hzero (by rw [hc0]; rfl))
  cases hcs

/-- A number after its sign is scanned as far as it goes. -/
theorem scanUnsigned_spelled {negative : Bool} {l : Lexeme} {s : List Char} (h : SpellsUnsigned negative l s)
    {rest : List Symbol} (hr : EndsNumber rest) :
    scanUnsigned negative (symbolsOf s ++ rest) = .number l rest := by
  obtain ⟨hw, hzero, hf, hp⟩ := h
  rename_i w f p fraction power
  have hpower := scanPower_spelled hp hr negative (digitValues w) fraction
  have hends : EndsDigits (symbolsOf p ++ rest) := fun c t he => (hp.head hr he).1
  rw [symbolsOf, List.map_append, List.map_append, List.append_assoc, List.append_assoc, scanUnsigned]
  cases hf with
  | none =>
    rw [List.map_nil, List.nil_append, spanDigits_append hends w hw.2]
    split
    · next he => exact absurd (Prod.mk.inj he).1 hw.values_ne_nil
    · next he => exact absurd (Prod.mk.inj he).1 (digitValues_ne_zero_cons hw hzero _ _)
    · next he => exact absurd rfl (hp.head hr (Prod.mk.inj he).2).2
    · next he =>
      obtain ⟨rfl, rfl⟩ := Prod.mk.inj he
      exact hpower
  | @digits ds hds =>
    obtain ⟨n, ns, hn⟩ := List.exists_cons_of_ne_nil hds.values_ne_nil
    have hspan := spanDigits_append hends ds hds.2
    rw [List.map_cons, List.cons_append, spanDigits_append (endsDigits_cons (by decide) _) w hw.2]
    split
    · next he => exact absurd (Prod.mk.inj he).1 hw.values_ne_nil
    · next he => exact absurd (Prod.mk.inj he).1 (digitValues_ne_zero_cons hw hzero _ _)
    · next he =>
      obtain ⟨rfl, hrest⟩ := Prod.mk.inj he
      obtain ⟨-, rfl⟩ := List.cons.inj hrest
      rw [hspan, hn]
      rw [hn] at hpower
      exact hpower
    · next hpoint he =>
      obtain ⟨-, rfl⟩ := Prod.mk.inj he
      exact absurd rfl (hpoint _)

theorem SpellsUnsigned.head {negative : Bool} {l : Lexeme} {s : List Char} (h : SpellsUnsigned negative l s) :
    ∃ c t, s = c :: t ∧ c.isDigit = true := by
  obtain ⟨hw, -, -, -⟩ := h
  rename_i w _ _ _ _
  obtain ⟨c, cs, rfl⟩ := List.exists_cons_of_ne_nil hw.1
  exact ⟨c, _, rfl, hw.2 c List.mem_cons_self⟩

theorem SpellsNumber.head {l : Lexeme} {s : List Char} (h : SpellsNumber l s) :
    ∃ c t, s = c :: t ∧ (c = '-' ∨ c.isDigit = true) := by
  cases h with
  | plain h =>
    obtain ⟨c, t, he, hc⟩ := h.head
    exact ⟨c, t, he, .inr hc⟩
  | minus h => exact ⟨'-', _, rfl, .inl rfl⟩

/-- A number is read as far as it goes. -/
theorem readLeaf_spelled {l : Lexeme} {s : List Char} (h : SpellsNumber l s) {rest : List Symbol}
    (hr : EndsNumber rest) : readLeaf (symbolsOf s ++ rest) = (.number l.value, some rest) := by
  cases h with
  | minus h =>
    have hscan := scanUnsigned_spelled h hr
    simp [readLeaf, scanNumber, hscan]
  | plain h =>
    have hscan := scanUnsigned_spelled h hr
    obtain ⟨c, t, rfl, hc⟩ := h.head
    rw [symbolsOf, List.map_cons, List.cons_append] at hscan ⊢
    have hnumber : scanNumber (.char c :: (List.map Symbol.char t ++ rest)) = .number l rest := by
      rw [scanNumber, hscan]
      intro r e
      cases e
      exact ne_of_isDigit hc (by decide) rfl
    simp only [readLeaf, ne_of_isDigit hc (show '"'.isDigit = false by decide),
      ne_of_isDigit hc (show 'n'.isDigit = false by decide), ne_of_isDigit hc (show 't'.isDigit = false by decide),
      ne_of_isDigit hc (show 'f'.isDigit = false by decide), hc, or_true, if_false, if_true, hnumber]

/-! ### Whole numbers -/

/-- Whether an integer is kept as one when it is read. -/
def FitsWord (i : Int) : Prop := leastWord ≤ i ∧ i ≤ greatestWord

theorem le_foldl_digits (ds : List Nat) : ∀ n, n ≤ ds.foldl (fun n d => n * 10 + d) n := by
  induction ds with
  | nil => exact fun n => Nat.le_refl n
  | cons d ds ih =>
    intro n
    have := ih (n * 10 + d)
    rw [List.foldl_cons]
    omega

/-- All digits of a word are taken. -/
theorem takeDigits_eq (ds : List Nat) : ∀ n, ds.foldl (fun n d => n * 10 + d) n ≤ greatestWord →
    takeDigits n ds = (ds.foldl (fun n d => n * 10 + d) n, []) := by
  induction ds with
  | nil => exact fun n _ => rfl
  | cons d ds ih =>
    intro n h
    rw [List.foldl_cons] at h
    have hle := le_foldl_digits ds (n * 10 + d)
    rw [takeDigits, if_neg (by omega), ih _ h, List.foldl_cons]

theorem foldl_digitValues (ds : List Char) :
    (digitValues ds).foldl (fun n d => n * 10 + d) 0 = valueOf ds := by
  rw [digitValues, List.foldl_map]; rfl

theorem takeDigits_digitsOf {n : Nat} (h : n ≤ greatestWord) :
    takeDigits 0 (digitValues (digitsOf n)) = (n, []) := by
  have hv : (digitValues (digitsOf n)).foldl (fun n d => n * 10 + d) 0 = n := by
    rw [foldl_digitValues, valueOf_digitsOf]
  rw [takeDigits_eq _ _ (by rw [hv]; exact h), hv]

/-- The digits of a number are a number of the grammar. -/
theorem spells_digitsOf (negative : Bool) (n : Nat) :
    SpellsUnsigned negative ⟨negative, digitValues (digitsOf n), [], none⟩ (digitsOf n) := by
  have hzero : (digitsOf n).head? = some '0' → digitsOf n = ['0'] := by
    intro h
    obtain ⟨ds, hds⟩ := List.head?_eq_some_iff.mp h
    by_cases hn : n = 0
    · rw [hn]
      decide
    · exact absurd hds (head_digitsOf_ne hn ds)
  have hspells : SpellsUnsigned negative ⟨negative, digitValues (digitsOf n), [], none⟩ (digitsOf n ++ ([] ++ [])) :=
    .mk ⟨digitsOf_ne_nil n, fun c hc => isDigit_of_mem_digitsOf hc⟩ hzero .none .none
  rwa [List.nil_append, List.append_nil] at hspells

/-- The text of an integer that fits a word is a number of the grammar with this value. -/
theorem exists_spells_int {i : Int} (hi : FitsWord i) :
    ∃ l, SpellsNumber l (leafText (.number (.int i))) ∧ l.value = .ok (.int i) := by
  obtain ⟨hl, hg⟩ := hi
  have hword : i.natAbs ≤ greatestWord := by unfold leastWord greatestWord at *; omega
  simp only [leafText, numberText]
  split
  · next hneg =>
    refine ⟨_, .minus (spells_digitsOf true i.natAbs), ?_⟩
    rw [Lexeme.value, takeDigits_digitsOf hword]
    simp only [and_self, if_true, Bool.not_true, Bool.false_eq_true, if_false]
    rw [if_neg (by omega), show (-(i.natAbs : Int)) = i by omega]
  · next hpos =>
    refine ⟨_, .plain (spells_digitsOf false i.natAbs), ?_⟩
    rw [Lexeme.value, takeDigits_digitsOf hword]
    simp only [and_self, if_true, Bool.not_false]
    rw [show ((i.natAbs : Nat) : Int) = i by omega]

end HostingClient.Json
