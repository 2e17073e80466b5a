import HostingClient.Json.Reader
import HostingClient.Proofs.Json.Leaf

/-! # The grammar of JSON

The texts of JSON as a grammar over trees, which keep texts and numbers as they are written. Any blanks may stand
between the parts, and nothing is asked of numbers and texts beyond their syntax. The reader gives the outline of the
tree of every text of the grammar, whatever follows it (`readValue_spelled`, `readDocument_spelled`). -/

namespace HostingClient.Json

open HostingClient.Text

/-- A JSON text as a tree, with its texts and numbers as they are written. -/
inductive Tree where
  | null
  | bool (b : Bool)
  | number (l : Lexeme)
  | text (pieces : List Piece)
  | array (items : List Tree)
  | object (members : List (List Piece × Tree))

namespace Tree

mutual
/-- What a decoder sees of a tree. -/
def outline : Tree → Outline
  | null => .null
  | bool b => .bool b
  | number l => .number l.value
  | text pieces => .text ((assemble none pieces).map String.ofList)
  | array items => .array (outlines items) none
  | object members => .object (memberOutlines members) none

/-- What a decoder sees of some items. -/
def outlines : List Tree → List Outline
  | [] => []
  | t :: rest => outline t :: outlines rest

/-- What a decoder sees of some members. -/
def memberOutlines : List (List Piece × Tree) → List (Key × Outline)
  | [] => []
  | (name, t) :: rest => (.ofPieces name, outline t) :: memberOutlines rest
end

theorem mem_memberOutlines {name : List Piece} {t : Tree} : ∀ {members : List (List Piece × Tree)},
    (name, t) ∈ members → (Key.ofPieces name, t.outline) ∈ memberOutlines members
  | (_, _) :: members, h => by
    rw [memberOutlines]
    rcases List.mem_cons.mp h with he | h
    · cases he
      exact List.mem_cons_self
    · exact List.mem_cons_of_mem _ (mem_memberOutlines h)

end Tree

/-- Blanks between the parts of a value. -/
def IsGapText (g : List Char) : Prop := ∀ c ∈ g, isGap (.char c) = true

mutual
/-- A text of a tree. -/
inductive Spells : Tree → List Symbol → Prop where
  | null : Spells .null (symbolsOf ['n', 'u', 'l', 'l'])
  | true : Spells (.bool true) (symbolsOf ['t', 'r', 'u', 'e'])
  | false : Spells (.bool false) (symbolsOf ['f', 'a', 'l', 's', 'e'])
  | number {l : Lexeme} {s : List Char} (h : SpellsNumber l s) : Spells (.number l) (symbolsOf s)
  | text {pieces : List Piece} {s : List Symbol} (h : SpellsText pieces s) : Spells (.text pieces) (.char '"' :: s)
  | emptyArray {g : List Char} (hg : IsGapText g) : Spells (.array []) (.char '[' :: (symbolsOf g ++ [.char ']']))
  | array {items : List Tree} {g : List Char} {s : List Symbol} (hg : IsGapText g) (h : SpellsItems items s) :
      Spells (.array items) (.char '[' :: (symbolsOf g ++ s))
  | emptyObject {g : List Char} (hg : IsGapText g) :
      Spells (.object []) (.char '{' :: (symbolsOf g ++ [.char '}']))
  | object {members : List (List Piece × Tree)} {g : List Char} {s : List Symbol} (hg : IsGapText g)
      (h : SpellsMembers members s) : Spells (.object members) (.char '{' :: (symbolsOf g ++ s))

/-- A text of some items with the bracket that closes them. -/
inductive SpellsItems : List Tree → List Symbol → Prop where
  | last {t : Tree} {v : List Symbol} {g : List Char} (hv : Spells t v) (hg : IsGapText g) :
      SpellsItems [t] (v ++ (symbolsOf g ++ [.char ']']))
  | more {t : Tree} {items : List Tree} {v s : List Symbol} {g g' : List Char} (hv : Spells t v)
      (hg : IsGapText g) (hg' : IsGapText g') (h : SpellsItems items s) :
      SpellsItems (t :: items) (v ++ (symbolsOf g ++ .char ',' :: (symbolsOf g' ++ s)))

/-- A text of some members with the bracket that closes them. -/
inductive SpellsMembers : List (List Piece × Tree) → List Symbol → Prop where
  | last {name : List Piece} {t : Tree} {k v : List Symbol} {g₁ g₂ g : List Char} (hk : SpellsText name k)
      (h₁ : IsGapText g₁) (h₂ : IsGapText g₂) (hv : Spells t v) (hg : IsGapText g) :
      SpellsMembers [(name, t)] (.char '"' ::
        (k ++ (symbolsOf g₁ ++ .char ':' :: (symbolsOf g₂ ++ (v ++ (symbolsOf g ++ [.char '}']))))))
  | more {name : List Piece} {t : Tree} {members : List (List Piece × Tree)} {k v s : List Symbol}
      {g₁ g₂ g g' : List Char} (hk : SpellsText name k) (h₁ : IsGapText g₁) (h₂ : IsGapText g₂)
      (hv : Spells t v) (hg : IsGapText g) (hg' : IsGapText g') (h : SpellsMembers members s) :
      SpellsMembers ((name, t) :: members) (.char '"' ::
        (k ++ (symbolsOf g₁ ++ .char ':' ::
          (symbolsOf g₂ ++ (v ++ (symbolsOf g ++ .char ',' :: (symbolsOf g' ++ s)))))))
end

/-- Every item of a text of the grammar has a text itself. -/
theorem SpellsItems.of_mem : ∀ {items : List Tree} {s : List Symbol} {t : Tree}, SpellsItems items s → t ∈ items →
    ∃ v, Spells t v
  | _, _, _, .last (v := v) hv _, ht => by
    obtain rfl := List.mem_singleton.mp ht
    exact ⟨v, hv⟩
  | _, _, _, .more hv _ _ h, ht => by
    rcases List.mem_cons.mp ht with rfl | ht
    · exact ⟨_, hv⟩
    · exact h.of_mem ht

/-- Every member of a text of the grammar has a text itself. -/
theorem SpellsMembers.of_mem : ∀ {members : List (List Piece × Tree)} {s : List Symbol} {m : List Piece × Tree},
    SpellsMembers members s → m ∈ members → ∃ v, Spells m.2 v
  | _, _, _, .last (v := v) _ _ _ hv _, hm => by
    obtain rfl := List.mem_singleton.mp hm
    exact ⟨v, hv⟩
  | _, _, _, .more _ _ _ hv _ _ h, hm => by
    rcases List.mem_cons.mp hm with rfl | hm
    · exact ⟨_, hv⟩
    · exact h.of_mem hm

/-- A text of a tree with blanks around it. -/
def SpellsDocument (t : Tree) (s : List Symbol) : Prop :=
  ∃ g v g', IsGapText g ∧ IsGapText g' ∧ Spells t v ∧ s = symbolsOf g ++ (v ++ symbolsOf g')

/-! ### Blanks -/

theorem isGapText_nil : IsGapText [] := fun _ h => by cases h

theorem isGapText_blank : IsGapText [' '] := by simp [IsGapText, isGap]

theorem skipGaps_append {g : List Char} (hg : IsGapText g) (s : List Symbol) :
    skipGaps (symbolsOf g ++ s) = skipGaps s := by
  induction g with
  | nil => rfl
  | cons c g ih =>
    rw [symbolsOf, List.map_cons, List.cons_append, skipGaps, List.dropWhile_cons_of_pos (hg c (by simp))]
    exact ih fun d hd => hg d (by simp [hd])

theorem skipGaps_cons {c : Char} (h : isGap (.char c) = false) (s : List Symbol) :
    skipGaps (.char c :: s) = .char c :: s := List.dropWhile_cons_of_neg (by simp [h])

theorem readValue_gap {g : List Char} (hg : IsGapText g) (fuel : Nat) (s : List Symbol) :
    readValue fuel (symbolsOf g ++ s) = readValue fuel s := by
  cases fuel with
  | zero => rfl
  | succ fuel => rw [readValue, readValue, skipGaps_append hg]

/-! ### The steps of the reader -/

section Steps
variable {fuel : Nat} {c : Char} {g g' : List Char} {s t rest : List Symbol}

theorem readValue_leaf (hc : isGap (.char c) = false) (h1 : c ≠ '[') (h2 : c ≠ '{') :
    readValue (fuel + 1) (.char c :: s) = readLeaf (.char c :: s) := by
  rw [readValue, skipGaps_cons hc]
  split
  · next h => cases h; exact absurd rfl h1
  · next h => cases h; exact absurd rfl h2
  · rfl

theorem readValue_emptyArray (hg : IsGapText g) :
    readValue (fuel + 1) (.char '[' :: (symbolsOf g ++ .char ']' :: rest)) = (.array [] none, some rest) := by
  rw [readValue, skipGaps_cons (by decide)]
  simp only [skipGaps_append hg, skipGaps_cons (c := ']') (by decide)]

theorem readValue_array (hg : IsGapText g) (hc : isGap (.char c) = false) (hb : c ≠ ']')
    {items : List Outline} {stop : Option SyntaxFault} {after : Option (List Symbol)}
    (h : readItems fuel (.char c :: s) = (items, stop, after)) :
    readValue (fuel + 1) (.char '[' :: (symbolsOf g ++ .char c :: s)) = (.array items stop, after) := by
  rw [readValue, skipGaps_cons (by decide)]
  simp only [skipGaps_append hg, skipGaps_cons hc]
  split
  · next h' => cases h'
  · next h' => cases h'; exact absurd rfl hb
  · rw [h]

theorem readValue_emptyObject (hg : IsGapText g) :
    readValue (fuel + 1) (.char '{' :: (symbolsOf g ++ .char '}' :: rest)) = (.object [] none, some rest) := by
  rw [readValue, skipGaps_cons (by decide)]
  simp only [skipGaps_append hg, skipGaps_cons (c := '}') (by decide)]

theorem readValue_object (hg : IsGapText g) (hc : isGap (.char c) = false) (hb : c ≠ '}')
    {members : List (Key × Outline)} {stop : Option SyntaxFault} {after : Option (List Symbol)}
    (h : readMembers fuel (.char c :: s) = (members, stop, after)) :
    readValue (fuel + 1) (.char '{' :: (symbolsOf g ++ .char c :: s)) = (.object members stop, after) := by
  rw [readValue, skipGaps_cons (by decide)]
  simp only [skipGaps_append hg, skipGaps_cons hc]
  split
  · next h' => cases h'
  · next h' => cases h'; exact absurd rfl hb
  · rw [h]

theorem readItems_last {item : Outline} (hg : IsGapText g)
    (h : readValue fuel s = (item, some (symbolsOf g ++ .char ']' :: rest))) :
    readItems (fuel + 1) s = ([item], none, some rest) := by
  rw [readItems, h]
  simp only [skipGaps_append hg, skipGaps_cons (c := ']') (by decide)]

theorem readItems_more {item : Outline} (hg : IsGapText g) (hg' : IsGapText g')
    (hc : isGap (.char c) = false) (hb : c ≠ ']')
    (h : readValue fuel s = (item, some (symbolsOf g ++ .char ',' :: (symbolsOf g' ++ .char c :: t))))
    {items : List Outline} {stop : Option SyntaxFault} {after : Option (List Symbol)}
    (hmore : readItems fuel (.char c :: t) = (items, stop, after)) :
    readItems (fuel + 1) s = (item :: items, stop, after) := by
  rw [readItems, h]
  simp only [skipGaps_append hg, skipGaps_cons (c := ',') (by decide), skipGaps_append hg', skipGaps_cons hc]
  split
  · next h' => cases h'; exact absurd rfl hb
  · rw [hmore]

theorem readMembers_last {key : Key} {value : Outline} (hkey : readKey s = (key, some (symbolsOf g ++ .char ':' :: t)))
    (h₁ : IsGapText g) (hg : IsGapText g')
    (h : readValue fuel t = (value, some (symbolsOf g' ++ .char '}' :: rest))) :
    readMembers (fuel + 1) (.char '"' :: s) = ([(key, value)], none, some rest) := by
  rw [readMembers]
  simp only [hkey, skipGaps_append h₁, skipGaps_cons (c := ':') (by decide), h, skipGaps_append hg,
    skipGaps_cons (c := '}') (by decide)]

theorem readMembers_more {key : Key} {value : Outline} {g'' : List Char}
    (hkey : readKey s = (key, some (symbolsOf g ++ .char ':' :: t))) (h₁ : IsGapText g) (hg : IsGapText g')
    (hg' : IsGapText g'') (hc : isGap (.char c) = false) {u : List Symbol}
    (h : readValue fuel t = (value, some (symbolsOf g' ++ .char ',' :: (symbolsOf g'' ++ .char c :: u))))
    {members : List (Key × Outline)} {stop : Option SyntaxFault} {after : Option (List Symbol)}
    (hmore : readMembers fuel (.char c :: u) = (members, stop, after)) :
    readMembers (fuel + 1) (.char '"' :: s) = ((key, value) :: members, stop, after) := by
  rw [readMembers]
  simp only [hkey, skipGaps_append h₁, skipGaps_cons (c := ':') (by decide), h, skipGaps_append hg,
    skipGaps_cons (c := ',') (by decide), skipGaps_append hg', skipGaps_cons hc, hmore]

end Steps

/-! ### Reading a text of the grammar -/

/-- What follows a value inside brackets does not look like more of a number. -/
theorem endsNumber_gap {g : List Char} (hg : IsGapText g) {c : Char}
    (hc : c.isDigit = false ∧ c ≠ '.' ∧ c ≠ 'e' ∧ c ≠ 'E') (s : List Symbol) :
    EndsNumber (symbolsOf g ++ .char c :: s) := by
  cases g with
  | nil => exact endsNumber_cons hc s
  | cons d g =>
    refine endsNumber_cons ?_ _
    have hd := hg d (by simp)
    simp only [isGap, Symbol.char.injEq, Bool.or_eq_true, decide_eq_true_eq] at hd
    rcases hd with ((rfl | rfl) | rfl) | rfl <;> decide

theorem number_head {c : Char} (h : c = '-' ∨ c.isDigit = true) :
    isGap (.char c) = false ∧ c ≠ ']' ∧ c ≠ '[' ∧ c ≠ '{' := by
  rcases h with rfl | h
  · decide
  · refine ⟨?_, ?_, ?_, ?_⟩
    · simp only [isGap, Symbol.char.injEq, Bool.or_eq_false_iff, decide_eq_false_iff_not]
      refine ⟨⟨⟨?_, ?_⟩, ?_⟩, ?_⟩ <;> (rintro rfl; revert h; decide)
    all_goals (rintro rfl; revert h; decide)

theorem Spells.head {t : Tree} {s : List Symbol} (h : Spells t s) :
    ∃ c s', s = .char c :: s' ∧ isGap (.char c) = Bool.false ∧ c ≠ ']' := by
  cases h with
  | null => exact ⟨'n', _, rfl, by decide, by decide⟩
  | true => exact ⟨'t', _, rfl, by decide, by decide⟩
  | false => exact ⟨'f', _, rfl, by decide, by decide⟩
  | number h =>
    obtain ⟨c, s', rfl, hc⟩ := h.head
    exact ⟨c, _, rfl, (number_head hc).1, (number_head hc).2.1⟩
  | text => exact ⟨'"', _, rfl, by decide, by decide⟩
  | emptyArray | array => exact ⟨'[', _, rfl, by decide, by decide⟩
  | emptyObject | object => exact ⟨'{', _, rfl, by decide, by decide⟩

theorem SpellsItems.head {items : List Tree} {s : List Symbol} (h : SpellsItems items s) :
    ∃ c s', s = .char c :: s' ∧ isGap (.char c) = false ∧ c ≠ ']' := by
  cases h with
  | last hv hg =>
    obtain ⟨c, t, rfl, hc⟩ := hv.head
    exact ⟨c, _, rfl, hc⟩
  | more hv hg hg' h =>
    obtain ⟨c, t, rfl, hc⟩ := hv.head
    exact ⟨c, _, rfl, hc⟩

theorem SpellsMembers.head {members : List (List Piece × Tree)} {s : List Symbol} (h : SpellsMembers members s) :
    ∃ s', s = .char '"' :: s' := by
  cases h <;> exact ⟨_, rfl⟩

mutual
/-- **A text of the grammar is read as the outline of its tree.** The bound only has to exceed what the text can
need: two levels of calls for a bracket, one for each item. -/
theorem readValue_spelled : ∀ {t : Tree} {s : List Symbol}, Spells t s → ∀ (fuel : Nat) (rest : List Symbol),
    2 * s.length ≤ fuel → EndsNumber rest → readValue fuel (s ++ rest) = (t.outline, some rest)
  | _, _, .null, fuel + 1, rest, _, _ => readLeaf_null rest
  | _, _, .true, fuel + 1, rest, _, _ => readLeaf_true rest
  | _, _, .false, fuel + 1, rest, _, _ => readLeaf_false rest
  | _, _, .number (l := l) h, fuel + 1, rest, _, hr => by
    have hread := readLeaf_spelled h hr
    obtain ⟨c, s, rfl, hc⟩ := h.head
    obtain ⟨h1, -, h3, h4⟩ := number_head hc
    exact (readValue_leaf h1 h3 h4).trans hread
  | _, _, .text h, fuel + 1, rest, _, _ => by
    rw [List.cons_append, readValue_leaf (by decide) (by decide) (by decide), readLeaf]
    simp only [if_true]
    exact readText_spelled h rest
  | _, _, .emptyArray (g := g) hg, fuel + 1, rest, _, _ => by
    rw [List.cons_append, List.append_assoc]
    exact readValue_emptyArray hg
  | _, _, @Spells.array _ g s hg h, fuel + 1, rest, hf, _ => by
    simp only [List.length_cons, List.length_append] at hf
    have hread := readItems_spelled h fuel rest (by omega)
    obtain ⟨c, s', rfl, hc, hb⟩ := h.head
    rw [List.cons_append, List.append_assoc]
    exact readValue_array hg hc hb hread
  | _, _, .emptyObject (g := g) hg, fuel + 1, rest, _, _ => by
    rw [List.cons_append, List.append_assoc]
    exact readValue_emptyObject hg
  | _, _, @Spells.object _ g s hg h, fuel + 1, rest, hf, _ => by
    simp only [List.length_cons, List.length_append] at hf
    have hread := readMembers_spelled h fuel rest (by omega)
    obtain ⟨s', rfl⟩ := h.head
    rw [List.cons_append, List.append_assoc]
    exact readValue_object hg (by decide) (by decide) hread
  | _, s, h, 0, _, hf, _ => by
    obtain ⟨c, t, rfl, -⟩ := h.head
    simp at hf

/-- The items of a text of the grammar are read up to the closing bracket. -/
theorem readItems_spelled : ∀ {items : List Tree} {s : List Symbol}, SpellsItems items s →
    ∀ (fuel : Nat) (rest : List Symbol), 2 * s.length + 1 ≤ fuel →
      readItems fuel (s ++ rest) = (Tree.outlines items, none, some rest)
  | _, _, .last (v := v) (g := g) hv hg, fuel + 1, rest, hf => by
    simp only [List.length_append] at hf
    have hread := readValue_spelled hv fuel (symbolsOf g ++ .char ']' :: rest) (by omega)
      (endsNumber_gap hg (by decide) rest)
    exact readItems_last hg (by simpa using hread)
  | _, _, @SpellsItems.more _ _ v s g g' hv hg hg' h, fuel + 1, rest, hf => by
    simp only [List.length_append, List.length_cons] at hf
    have hread := readValue_spelled hv fuel
      (symbolsOf g ++ .char ',' :: (symbolsOf g' ++ (s ++ rest))) (by omega)
      (endsNumber_gap hg (by decide) _)
    have hmore := readItems_spelled h fuel rest (by omega)
    obtain ⟨c, s', rfl, hc, hb⟩ := h.head
    exact readItems_more (t := s' ++ rest) hg hg' hc hb (by simpa using hread) hmore

/-- The members of a text of the grammar are read up to the closing bracket. -/
theorem readMembers_spelled : ∀ {members : List (List Piece × Tree)} {s : List Symbol}, SpellsMembers members s →
    ∀ (fuel : Nat) (rest : List Symbol), 2 * s.length + 1 ≤ fuel →
      readMembers fuel (s ++ rest) = (Tree.memberOutlines members, none, some rest)
  | _, _, @SpellsMembers.last _ _ k v g₁ g₂ g hk h₁ h₂ hv hg, fuel + 1, rest, hf => by
    simp only [List.length_append, List.length_cons] at hf
    have hread := readValue_spelled hv fuel (symbolsOf g ++ .char '}' :: rest) (by omega)
      (endsNumber_gap hg (by decide) rest)
    have hkey := readKey_spelled hk
      (symbolsOf g₁ ++ .char ':' :: (symbolsOf g₂ ++ (v ++ (symbolsOf g ++ .char '}' :: rest))))
    have hmember := readMembers_last hkey h₁ hg ((readValue_gap h₂ _ _).trans hread)
    rw [Tree.memberOutlines, Tree.memberOutlines, ← hmember]
    simp
  | _, _, @SpellsMembers.more _ _ _ k v s g₁ g₂ g g' hk h₁ h₂ hv hg hg' h, fuel + 1, rest, hf => by
    simp only [List.length_append, List.length_cons] at hf
    have hread := readValue_spelled hv fuel
      (symbolsOf g ++ .char ',' :: (symbolsOf g' ++ (s ++ rest))) (by omega)
      (endsNumber_gap hg (by decide) _)
    have hmore := readMembers_spelled h fuel rest (by omega)
    have hkey := readKey_spelled hk (symbolsOf g₁ ++ .char ':' ::
      (symbolsOf g₂ ++ (v ++ (symbolsOf g ++ .char ',' :: (symbolsOf g' ++ (s ++ rest))))))
    obtain ⟨s', rfl⟩ := h.head
    have hmember := readMembers_more hkey h₁ hg hg' (by decide) ((readValue_gap h₂ _ _).trans hread) hmore
    rw [Tree.memberOutlines, ← hmember]
    simp
end

/-- A text of the grammar is a document that holds the tree and nothing else. -/
theorem readDocument_spelled {t : Tree} {s : List Symbol} (h : SpellsDocument t s) :
    readDocument s = ⟨t.outline, false⟩ := by
  obtain ⟨g, v, g', hg, hg', hv, rfl⟩ := h
  have hends : EndsNumber (symbolsOf g') := by
    intro c s he
    cases g' with
    | nil => cases he
    | cons d g' =>
      have hgap := endsNumber_gap (g := d :: g') hg' (c := ',') (by decide) []
      exact hgap c (s ++ [.char ',']) (by rw [he]; rfl)
  have hread := readValue_spelled hv (2 * (symbolsOf g ++ (v ++ symbolsOf g')).length + 2) (symbolsOf g')
    (by simp; omega) hends
  have hempty : skipGaps (symbolsOf g') = [] := by
    rw [← List.append_nil (symbolsOf g'), skipGaps_append hg']
    rfl
  rw [readDocument, readValue_gap hg, hread]
  simp [hempty]

end HostingClient.Json
