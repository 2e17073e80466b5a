import HostingClient.Json.Reader
import HostingClient.Proofs.Json.Accepted
import HostingClient.Proofs.Json.Leaf

/-! # Integers that are read

Whatever a text holds, the integers in its outline fit a word (`fits_readDocument`): digits are taken only as long as
their number does, and all other numbers are read as binary64. -/

namespace HostingClient.Json

open HostingClient.Text HostingClient.Number

namespace Outline

mutual
/-- All integers in an outline fit a word. -/
def Fits : Outline → Prop
  | number (.ok (.int i)) => FitsWord i
  | array items _ => FitsItems items
  | object members _ => FitsMembers members
  | _ => True

/-- All integers in some items fit a word. -/
def FitsItems : List Outline → Prop
  | [] => True
  | o :: rest => o.Fits ∧ FitsItems rest

/-- All integers in some members fit a word. -/
def FitsMembers : List (Key × Outline) → Prop
  | [] => True
  | (_, o) :: rest => o.Fits ∧ FitsMembers rest
end

theorem FitsItems.of_mem : ∀ {items : List Outline} {o : Outline}, FitsItems items → o ∈ items → o.Fits
  | _ :: _, _, h, ho => by
    rcases List.mem_cons.mp ho with rfl | ho
    · exact h.1
    · exact FitsItems.of_mem h.2 ho

theorem FitsMembers.of_mem : ∀ {members : List (Key × Outline)} {m : Key × Outline}, FitsMembers members →
    m ∈ members → m.2.Fits
  | (_, _) :: _, _, h, hm => by
    rcases List.mem_cons.mp hm with rfl | hm
    · exact h.1
    · exact FitsMembers.of_mem h.2 hm

/-- What is in the parts of an outline is in the outline. -/
theorem Fits.of_mem_parts {o part : Outline} (h : o.Fits) (hpart : part ∈ o.parts) : part.Fits := by
  cases o with
  | array items stop => exact FitsItems.of_mem h hpart
  | object members stop =>
    obtain ⟨m, hm, rfl⟩ := List.mem_map.mp hpart
    exact FitsMembers.of_mem h hm
  | _ => exact absurd hpart List.not_mem_nil

end Outline

open Outline

/-! ### Leaves -/

theorem takeDigits_le : ∀ (ds : List Nat) {n : Nat}, n ≤ greatestWord → (takeDigits n ds).1 ≤ greatestWord
  | [], _, h => h
  | d :: ds, n, h => by
    rw [takeDigits]
    split
    · exact h
    · next hd => exact takeDigits_le ds (Nat.not_lt.mp hd)

/-- The integer of a number fits a word. -/
theorem fitsWord_value {l : Lexeme} {i : Int} (h : l.value = .ok (.int i)) : FitsWord i := by
  have hle := takeDigits_le l.whole (Nat.zero_le greatestWord)
  have hneg : leastWord ≤ 0 := by decide
  unfold Lexeme.value at h
  dsimp only at h
  split at h
  · split at h
    · cases h
      exact ⟨by omega, by exact_mod_cast hle⟩
    · split at h
      · cases h
      · next hsmall =>
        cases h
        exact ⟨by omega, by omega⟩
  · -- digits after a point, a power of ten or digits that were dropped make a binary64
    split at h
    · obtain ⟨x, -, hx⟩ := map_eq_ok.mp h
      cases hx
    · split at h
      · split at h <;> cases h
      · obtain ⟨x, -, hx⟩ := map_eq_ok.mp h
        cases hx

theorem fits_number (l : Lexeme) : (Outline.number l.value).Fits := by
  cases h : l.value with
  | error f => trivial
  | ok n =>
    cases n with
    | int i => exact fitsWord_value h
    | float x => trivial

theorem fits_readWord (value : Outline) (h : value.Fits) : ∀ (word : List Char) (s : List Symbol),
    (readWord value word s).1.Fits
  | [], _ => h
  | _ :: _, [] => trivial
  | c :: word, x :: s => by
    rw [readWord]
    split
    · exact fits_readWord value h word s
    · trivial

theorem fits_readText (s : List Symbol) : (readText s).1.Fits := by
  unfold readText
  split
  · trivial
  · split <;> trivial

theorem fits_readLeaf (s : List Symbol) : (readLeaf s).1.Fits := by
  unfold readLeaf
  split
  · split
    · exact fits_readText _
    · split
      · exact fits_readWord .null trivial _ _
      · split
        · exact fits_readWord (.bool true) trivial _ _
        · split
          · exact fits_readWord (.bool false) trivial _ _
          · split
            · split
              · exact fits_number _
              · trivial
            · trivial
  · trivial
  · trivial

/-! ### Values -/

mutual
theorem fits_readValue : ∀ (fuel : Nat) (s : List Symbol), (readValue fuel s).1.Fits
  | 0, _ => trivial
  | fuel + 1, s => by
    rw [readValue]
    split
    · split
      · trivial
      · trivial
      · exact fits_readItems fuel _
    · split
      · trivial
      · trivial
      · exact fits_readMembers fuel _
    · exact fits_readLeaf _

theorem fits_readItems : ∀ (fuel : Nat) (s : List Symbol), FitsItems (readItems fuel s).1
  | 0, _ => trivial
  | fuel + 1, s => by
    have hitem := fits_readValue fuel s
    rw [readItems]
    split
    · next item h => exact ⟨by rwa [h] at hitem, trivial⟩
    · next item rest h =>
      have hitem : item.Fits := by rwa [h] at hitem
      split
      · exact ⟨hitem, trivial⟩
      · exact ⟨hitem, trivial⟩
      · split
        · exact ⟨hitem, trivial, trivial⟩
        · exact ⟨hitem, fits_readItems fuel _⟩
      · exact ⟨hitem, trivial⟩

theorem fits_readMembers : ∀ (fuel : Nat) (s : List Symbol), FitsMembers (readMembers fuel s).1
  | 0, _ => trivial
  | fuel + 1, s => by
    unfold readMembers
    split
    · exact ⟨trivial, trivial⟩
    · split
      · exact ⟨trivial, trivial⟩
      · split
        · exact ⟨trivial, trivial⟩
        · next rest' _ =>
          have hvalue := fits_readValue fuel rest'
          split
          · next value h => exact ⟨by rwa [h] at hvalue, trivial⟩
          · next value rest h =>
            have hvalue : value.Fits := by rwa [h] at hvalue
            split
            · exact ⟨hvalue, trivial⟩
            · exact ⟨hvalue, trivial⟩
            · exact ⟨hvalue, fits_readMembers fuel _⟩
            · exact ⟨hvalue, trivial⟩
        · exact ⟨trivial, trivial⟩
    · exact ⟨trivial, trivial⟩
end

/-- **The integers of a document fit a word.** -/
theorem fits_readDocument (s : List Symbol) : (readDocument s).value.Fits := by
  have hvalue := fits_readValue (2 * s.length + 2) s
  unfold readDocument
  split
  · next value h => rwa [h] at hvalue
  · next value rest h => rwa [h] at hvalue

end HostingClient.Json
