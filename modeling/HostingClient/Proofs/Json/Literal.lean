import HostingClient.Json.Decoder
import HostingClient.Proofs.Json.Range
import HostingClient.Proofs.Number.Rounding

/-! # Integer literals

A literal without a fraction and a power of ten stands for an integer. Where a number is wanted, it is read as this
integer up to `2 ^ 53`, and as a number that is as large from there on (`exists_real_of_integer?`), whatever the
number of its digits. -/

namespace HostingClient.Json

open HostingClient.Text HostingClient.Number

/-- The integer that a literal stands for, if it has neither a fraction nor a power of ten. -/
def Lexeme.integer? (l : Lexeme) : Option Int :=
  if l.fraction = [] ∧ l.power = none then
    some (if l.negative then -(ofDigits l.whole : Int) else ofDigits l.whole)
  else none

theorem digit_lt_ten {l : Lexeme} {s : List Char} (h : SpellsNumber l s) : ∀ d ∈ l.whole, d < 10 := by
  have hvalues : ∀ {w : List Char}, IsDigits w → ∀ d ∈ digitValues w, d < 10 := fun hw d hd => by
    obtain ⟨c, hc, rfl⟩ := List.mem_map.mp hd
    have hdigit := hw.2 c hc
    simp only [Char.isDigit, Bool.and_eq_true, decide_eq_true_eq] at hdigit
    have hnine : c.toNat ≤ 57 := hdigit.2
    have hzero : '0'.toNat = 48 := rfl
    omega
  cases h with
  | plain h | minus h =>
    obtain ⟨hw, -, -, -⟩ := h
    exact hvalues hw

/-- The digits that are taken and those that are dropped make up the number, and none is dropped of a number that
fits a word. -/
theorem takeDigits_spec : ∀ (ds : List Nat) (n : Nat),
    (takeDigits n ds).2.foldl (fun n d => n * 10 + d) (takeDigits n ds).1 = ds.foldl (fun n d => n * 10 + d) n ∧
      ∀ d rest, (takeDigits n ds).2 = d :: rest → d ∈ ds ∧ greatestWord < (takeDigits n ds).1 * 10 + d
  | [], n => ⟨rfl, nofun⟩
  | d :: ds, n => by
    rw [takeDigits]
    split
    · next hlarge =>
      refine ⟨rfl, ?_⟩
      rintro d' rest he
      obtain ⟨rfl, -⟩ := List.cons.inj he
      exact ⟨List.mem_cons_self, hlarge⟩
    · obtain ⟨hfold, hdropped⟩ := takeDigits_spec ds (n * 10 + d)
      refine ⟨hfold, fun d' rest he => ?_⟩
      obtain ⟨hmem, hlarge⟩ := hdropped d' rest he
      exact ⟨List.mem_cons_of_mem d hmem, hlarge⟩

/-- A large word times a power of ten is large, if it is not too large. -/
theorem isLarge_scaled {significand power : Nat} {x : Binary64} (hlarge : 2 ^ 53 ≤ significand)
    (hword : significand ≤ greatestWord) (h : scaled significand power = .ok x) : x.IsLarge := by
  have hsignificand : (Binary64.ofInt significand).IsLarge := by
    unfold greatestWord at hword
    exact Binary64.isLarge_ofInt (by omega) (by omega)
  unfold scaled at h
  simp only [Int.natCast_nonneg, if_true, Int.toNat_natCast] at h
  split at h
  · rwa [← Except.ok.inj h]
  split at h
  · cases h
  · next hpower =>
    split at h
    · next y hy =>
      rw [← Except.ok.inj h]
      exact hsignificand.mul (Binary64.one_le_powerOfTen (by omega)) hy
    · cases h

/-- The value of a number without a fraction and a power of ten. -/
theorem value_plain (negative : Bool) (whole : List Nat) :
    Lexeme.value ⟨negative, whole, [], none⟩ =
      if (takeDigits 0 whole).2 = [] then
        if !negative then .ok (.int (takeDigits 0 whole).1)
        else if (takeDigits 0 whole).1 = 0 ∨ -((takeDigits 0 whole).1 : Int) < leastWord then
          .ok (.float (Binary64.ofInt (takeDigits 0 whole).1).neg)
        else .ok (.int (-(takeDigits 0 whole).1))
      else (scaled (takeDigits 0 whole).1 (takeDigits 0 whole).2.length).map fun x =>
        .float (if negative then x.neg else x) := by
  rw [Lexeme.value]
  simp only [true_and, takeDigits, List.length_nil, Nat.sub_self, Int.natCast_zero, Int.sub_zero]
  cases negative <;> rfl

/-- **An integer literal is read as its integer up to `2 ^ 53`**, and as a large number from there on. -/
theorem exists_real_of_integer? {l : Lexeme} {s : List Char} {i : Int} {v : Value} (h : SpellsNumber l s)
    (hi : l.integer? = some i) (hv : l.value = .ok v) (p : Place) :
    ∃ x, Decoder.real p (.number (.ok v)) = .ok x ∧ x.Approximates i := by
  have hten := digit_lt_ten h
  obtain ⟨negative, whole, fraction, power⟩ := l
  obtain ⟨⟨hfraction, hpower⟩, hi⟩ := Option.ite_none_right_eq_some.mp hi
  dsimp only at hfraction hpower hi hten
  subst hfraction hpower
  obtain ⟨hfold, hdropped⟩ := takeDigits_spec whole 0
  have hword := takeDigits_le whole (Nat.zero_le greatestWord)
  rw [value_plain] at hv
  generalize takeDigits 0 whole = taken at *
  obtain ⟨significand, dropped⟩ := taken
  dsimp only at hfold hdropped hword hv
  have hbound : significand < 2 ^ 64 := by
    unfold greatestWord at hword
    omega
  cases dropped with
  | nil =>
    have hnumber : ofDigits whole = significand := hfold.symm
    rw [hnumber] at hi
    have happrox : (Binary64.ofInt significand).Approximates significand :=
      Binary64.approximates_ofInt (by omega)
    rw [if_pos rfl] at hv
    cases negative with
    | false =>
      obtain rfl := Except.ok.inj hv
      obtain rfl : (significand : Int) = i := Option.some.inj hi
      exact ⟨_, rfl, happrox⟩
    | true =>
      obtain rfl : -(significand : Int) = i := Option.some.inj hi
      rw [if_neg (by decide)] at hv
      split at hv
      · obtain rfl := Except.ok.inj hv
        exact ⟨_, rfl, happrox.neg⟩
      · obtain rfl := Except.ok.inj hv
        exact ⟨_, rfl, Binary64.approximates_ofInt (by omega)⟩
  | cons d rest =>
    -- the digits that were taken are already large, so the integer is and so is what is read
    obtain ⟨hmem, hlarge⟩ := hdropped d rest rfl
    have hd := hten d hmem
    have hsignificand : 2 ^ 53 ≤ significand := by
      unfold greatestWord at hlarge
      omega
    have hle : significand ≤ ofDigits whole := by
      rw [ofDigits, ← hfold]
      exact le_foldl_digits (d :: rest) significand
    have habs : 2 ^ 53 ≤ i.natAbs := by
      obtain rfl := Option.some.inj hi
      split <;> omega
    rw [if_neg (by simp)] at hv
    obtain ⟨x, hx, rfl⟩ := map_eq_ok.mp hv
    have hx := isLarge_scaled hsignificand hword hx
    refine ⟨_, rfl, .inr ⟨?_, habs⟩⟩
    cases negative with
    | false => exact hx
    | true => exact hx.neg

end HostingClient.Json
