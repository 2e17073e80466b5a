import HostingClient.Json.Decoder
import HostingClient.Proofs.Json.Spelling

/-! # Written JSON

A grammar of the texts of a value: names and texts are quoted as the printer does it, and any blanks
may stand between the parts. Both printers write such texts (`written_render`, `written_renderLines`),
and each of them is a text of the grammar of JSON, with a tree that has the outline of the value
(`Written.spelled`). So a value can be printed in either way, and by others with other blanks, and is
read as the same (`readDocument_written`). -/

namespace HostingClient.Json

open HostingClient.Text

mutual
/-- A text of a value. -/
inductive Written : Json → List Char → Prop where
  | null : Written .null (leafText .null)
  | bool (b : Bool) : Written (.bool b) (leafText (.bool b))
  | int {i : Int} (h : FitsWord i) : Written (.number (.int i)) (leafText (.number (.int i)))
  | text (s : String) : Written (.text s) (quote s)
  | emptyArray {g : List Char} (hg : IsGapText g) : Written (.array []) ('[' :: (g ++ [']']))
  | array {items : List Json} {g t : List Char} (hg : IsGapText g) (h : WrittenItems items t) :
      Written (.array items) ('[' :: (g ++ t))
  | emptyObject {g : List Char} (hg : IsGapText g) : Written (.object []) ('{' :: (g ++ ['}']))
  | object {members : List (String × Json)} {g t : List Char} (hg : IsGapText g)
      (h : WrittenMembers members t) : Written (.object members) ('{' :: (g ++ t))

/-- A text of some items with the bracket that closes them. -/
inductive WrittenItems : List Json → List Char → Prop where
  | last {j : Json} {v g : List Char} (hv : Written j v) (hg : IsGapText g) :
      WrittenItems [j] (v ++ (g ++ [']']))
  | more {j : Json} {items : List Json} {v g g' t : List Char} (hv : Written j v) (hg : IsGapText g)
      (hg' : IsGapText g') (h : WrittenItems items t) :
      WrittenItems (j :: items) (v ++ (g ++ ',' :: (g' ++ t)))

/-- A text of some members with the bracket that closes them. -/
inductive WrittenMembers : List (String × Json) → List Char → Prop where
  | last {k : String} {j : Json} {g₁ g₂ v g : List Char} (h₁ : IsGapText g₁) (h₂ : IsGapText g₂)
      (hv : Written j v) (hg : IsGapText g) :
      WrittenMembers [(k, j)] (quote k ++ (g₁ ++ ':' :: (g₂ ++ (v ++ (g ++ ['}'])))))
  | more {k : String} {j : Json} {members : List (String × Json)} {g₁ g₂ v g g' t : List Char}
      (h₁ : IsGapText g₁) (h₂ : IsGapText g₂) (hv : Written j v) (hg : IsGapText g) (hg' : IsGapText g')
      (h : WrittenMembers members t) :
      WrittenMembers ((k, j) :: members) (quote k ++ (g₁ ++ ':' :: (g₂ ++ (v ++ (g ++ ',' :: (g' ++ t))))))
end

/-! ### Written texts in the grammar -/

mutual
/-- A written text of a value is a text of the grammar, whose tree has the outline of the value. -/
theorem Written.spelled : ∀ {j : Json} {s : List Char}, Written j s →
    ∃ t, Spells t (symbolsOf s) ∧ t.outline = outline j
  | _, _, .null => ⟨.null, .null, rfl⟩
  | _, _, .bool true => ⟨.bool true, .true, rfl⟩
  | _, _, .bool false => ⟨.bool false, .false, rfl⟩
  | _, _, .int hi => by
    obtain ⟨l, hl, hvalue⟩ := exists_spells_int hi
    exact ⟨.number l, .number hl, by rw [Tree.outline, hvalue]; rfl⟩
  | _, _, .text s => by
    obtain ⟨pieces, hpieces, hs⟩ := spells_quote s.toList
    refine ⟨.text pieces, ?_, ?_⟩
    · rw [symbolsOf_quote]
      exact .text hpieces
    · rw [Tree.outline, hs]
      simp only [Except.map, String.ofList_toList]
      rfl
  | _, _, .emptyArray hg => ⟨.array [], by simpa using Spells.emptyArray hg, rfl⟩
  | _, _, .array hg h => by
    obtain ⟨items, hitems, ho⟩ := h.spelled
    exact ⟨.array items, by simpa using Spells.array hg hitems, by rw [Tree.outline, ho]; rfl⟩
  | _, _, .emptyObject hg => ⟨.object [], by simpa using Spells.emptyObject hg, rfl⟩
  | _, _, .object hg h => by
    obtain ⟨members, hmembers, ho⟩ := h.spelled
    exact ⟨.object members, by simpa using Spells.object hg hmembers, by rw [Tree.outline, ho]; rfl⟩

theorem WrittenItems.spelled : ∀ {items : List Json} {s : List Char}, WrittenItems items s →
    ∃ ts, SpellsItems ts (symbolsOf s) ∧ Tree.outlines ts = outlines items
  | _, _, .last hv hg => by
    obtain ⟨t, ht, ho⟩ := hv.spelled
    exact ⟨[t], by simpa using SpellsItems.last ht hg, by rw [Tree.outlines, ho]; rfl⟩
  | _, _, .more hv hg hg' h => by
    obtain ⟨t, ht, ho⟩ := hv.spelled
    obtain ⟨ts, hts, hos⟩ := h.spelled
    exact ⟨t :: ts, by simpa using SpellsItems.more ht hg hg' hts, by rw [Tree.outlines, ho, hos]; rfl⟩

theorem WrittenMembers.spelled : ∀ {members : List (String × Json)} {s : List Char}, WrittenMembers members s →
    ∃ ts, SpellsMembers ts (symbolsOf s) ∧ Tree.memberOutlines ts = memberOutlines members
  | _, _, .last (k := k) h₁ h₂ hv hg => by
    obtain ⟨t, ht, ho⟩ := hv.spelled
    obtain ⟨name, hname, hk⟩ := spells_quote k.toList
    have hkey := Key.ofPieces_quoted hk
    refine ⟨[(name, t)], ?_, by rw [Tree.memberOutlines, ho, hkey]; rfl⟩
    simpa [symbolsOf_quote] using SpellsMembers.last hname h₁ h₂ ht hg
  | _, _, .more (k := k) h₁ h₂ hv hg hg' h => by
    obtain ⟨t, ht, ho⟩ := hv.spelled
    obtain ⟨ts, hts, hos⟩ := h.spelled
    obtain ⟨name, hname, hk⟩ := spells_quote k.toList
    have hkey := Key.ofPieces_quoted hk
    refine ⟨(name, t) :: ts, ?_, by rw [Tree.memberOutlines, ho, hos, hkey]; rfl⟩
    simpa [symbolsOf_quote] using SpellsMembers.more hname h₁ h₂ ht hg hg' hts
end

/-! ### Both printers -/

mutual
/-- All numbers in a value are integers that fit a word. -/
def Whole : Json → Prop
  | .null | .bool _ | .text _ => True
  | .number (.int i) => FitsWord i
  | .number (.float _) => False
  | .array items => WholeItems items
  | .object members => WholeMembers members

/-- All numbers in some items are integers that fit a word. -/
def WholeItems : List Json → Prop
  | [] => True
  | j :: rest => Whole j ∧ WholeItems rest

/-- All numbers in some members are integers that fit a word. -/
def WholeMembers : List (String × Json) → Prop
  | [] => True
  | (_, j) :: rest => Whole j ∧ WholeMembers rest
end

mutual
theorem written_render : ∀ j : Json, Whole j → Written j (render j)
  | .null, _ => .null
  | .bool b, _ => .bool b
  | .number (.int _), h => .int h
  | .number (.float _), h => h.elim
  | .text s, _ => .text s
  | .array [], _ => .emptyArray isGapText_nil
  | .array (j :: rest), h => .array (g := []) isGapText_nil (writtenItems_render (j :: rest) (by simp) h)
  | .object [], _ => .emptyObject isGapText_nil
  | .object (m :: rest), h => .object (g := []) isGapText_nil (writtenMembers_render (m :: rest) (by simp) h)

theorem writtenItems_render : ∀ items : List Json, items ≠ [] → WholeItems items →
    WrittenItems items (renderItems items ++ [']'])
  | [], hne, _ => absurd rfl hne
  | [j], _, h => .last (written_render j h.1) isGapText_nil
  | j :: j' :: rest, _, h => by
    have hmore := WrittenItems.more (written_render j h.1) isGapText_nil isGapText_nil
      (writtenItems_render (j' :: rest) (by simp) h.2)
    simpa [renderItems] using hmore

theorem writtenMembers_render : ∀ members : List (String × Json), members ≠ [] → WholeMembers members →
    WrittenMembers members (renderMembers members ++ ['}'])
  | [], hne, _ => absurd rfl hne
  | [(k, j)], _, h => by
    have hlast := WrittenMembers.last (k := k) isGapText_nil isGapText_nil (written_render j h.1) isGapText_nil
    simpa [renderMembers] using hlast
  | (k, j) :: m :: rest, _, h => by
    have hmore := WrittenMembers.more (k := k) isGapText_nil isGapText_nil (written_render j h.1) isGapText_nil
      isGapText_nil (writtenMembers_render (m :: rest) (by simp) h.2)
    simpa [renderMembers] using hmore
end

theorem isGapText_newLine (level : Nat) : IsGapText (newLine level) := by
  intro c hc
  simp only [newLine, List.mem_cons, List.mem_replicate] at hc
  rcases hc with rfl | ⟨-, rfl⟩ <;> decide

mutual
theorem written_renderLines : ∀ (level : Nat) (j : Json), Whole j → Written j (renderLines level j)
  | _, .null, _ => .null
  | _, .bool b, _ => .bool b
  | _, .number (.int _), h => .int h
  | _, .number (.float _), h => h.elim
  | _, .text s, _ => .text s
  | _, .array [], _ => .emptyArray isGapText_nil
  | level, .array (j :: rest), h => by
    have hitems := writtenItems_lines (level + 1) (isGapText_newLine level) rest
      (written_renderLines (level + 1) j h.1) h.2
    simpa [renderLines] using Written.array (isGapText_newLine (level + 1)) hitems
  | _, .object [], _ => .emptyObject isGapText_nil
  | level, .object ((k, j) :: rest), h => by
    have hmembers := writtenMembers_lines (level + 1) (isGapText_newLine level) k rest
      (written_renderLines (level + 1) j h.1) h.2
    simpa [renderLines] using Written.object (isGapText_newLine (level + 1)) hmembers

theorem writtenItems_lines : ∀ (level : Nat) {g : List Char}, IsGapText g → ∀ (rest : List Json) {j : Json}
    {v : List Char}, Written j v → WholeItems rest →
      WrittenItems (j :: rest) (v ++ (lineItems level rest ++ (g ++ [']'])))
  | _, _, hg, [], _, _, hv, _ => .last hv hg
  | level, _, hg, j' :: rest, _, _, hv, h => by
    have hmore := WrittenItems.more hv isGapText_nil (isGapText_newLine level)
      (writtenItems_lines level hg rest (written_renderLines level j' h.1) h.2)
    simpa [lineItems] using hmore

theorem writtenMembers_lines : ∀ (level : Nat) {g : List Char}, IsGapText g → ∀ (k : String)
    (rest : List (String × Json)) {j : Json} {v : List Char}, Written j v → WholeMembers rest →
      WrittenMembers ((k, j) :: rest) (quote k ++ ':' :: ' ' :: (v ++ (lineMembers level rest ++ (g ++ ['}']))))
  | _, _, hg, _, [], _, _, hv, _ => .last isGapText_nil isGapText_blank hv hg
  | level, _, hg, k, (k', j') :: rest, _, _, hv, h => by
    have hmore := WrittenMembers.more (k := k) isGapText_nil isGapText_blank hv isGapText_nil
      (isGapText_newLine level)
      (writtenMembers_lines level hg k' rest (written_renderLines level j' h.1) h.2)
    simpa [lineMembers] using hmore
end

/-! ### Documents -/

/-- A written text, with blanks around it, is a document that holds the value and nothing else. -/
theorem readDocument_written {j : Json} {s g g' : List Char} (h : Written j s) (hg : IsGapText g)
    (hg' : IsGapText g') : readDocument (symbolsOf (g ++ s ++ g')) = ⟨outline j, false⟩ := by
  obtain ⟨t, ht, ho⟩ := h.spelled
  rw [readDocument_spelled ⟨g, _, g', hg, hg', ht, by simp⟩, ho]

/-- A value in compact form is a text of the grammar. -/
theorem exists_spells_compact {j : Json} (h : Whole j) :
    ∃ t, SpellsDocument t (symbolsOf j.compact.toList) ∧ t.outline = outline j := by
  obtain ⟨t, ht, ho⟩ := (written_render j h).spelled
  exact ⟨t, ⟨[], _, [], isGapText_nil, isGapText_nil, ht, by simp [compact]⟩, ho⟩

end HostingClient.Json

namespace HostingClient.Decoder

open HostingClient.Json

/-- **A decoder sees of a written text only the outline of its value.** -/
theorem run_written {α : Type} (d : Decoder α) {j : Json} {s : List Char} (h : Written j s) :
    d.run (String.ofList s) = d .ofText (outline j) := by
  have hdoc := readDocument_written h isGapText_nil isGapText_nil
  simp only [List.nil_append, List.append_nil] at hdoc
  rw [run, String.toList_ofList, hdoc, document]
  cases d .ofText (outline j) <;> rfl

/-- A value in compact form is decoded through its outline. -/
theorem run_compact {α : Type} (d : Decoder α) {j : Json} (h : Whole j) :
    d.run j.compact = d .ofText (outline j) := run_written d (written_render j h)

/-- A value over several lines is decoded through its outline. -/
theorem run_indented {α : Type} (d : Decoder α) {j : Json} (h : Whole j) :
    d.run j.indented = d .ofText (outline j) := run_written d (written_renderLines 0 j h)

end HostingClient.Decoder
