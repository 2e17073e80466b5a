import HostingClient.Number.Shortest
import Mathlib.Algebra.Group.Nat.Defs

/-! # Digits of natural numbers

What readers need to know of the digits that a number is written with: they are digits, there is at
least one, the first one is not a zero unless it is the only one, and they give the number back. -/

namespace HostingClient.Number

/-- The number that some digits stand for. -/
def valueOf (ds : List Char) : Nat := ds.foldl (fun n c => n * 10 + (c.toNat - '0'.toNat)) 0

theorem valueOf_eq_ofDigitChars (ds : List Char) : valueOf ds = Nat.ofDigitChars 10 ds 0 := by
  rw [valueOf, Nat.ofDigitChars_eq_foldl]
  simp only [Nat.mul_comm]

theorem digitsOf_eq (n : Nat) : digitsOf n = Nat.toDigits 10 n := Nat.toList_repr

theorem digitsOf_ne_nil (n : Nat) : digitsOf n ≠ [] := by rw [digitsOf_eq]; exact Nat.toDigits_ne_nil

theorem isDigit_of_mem_digitsOf {n : Nat} {c : Char} (h : c ∈ digitsOf n) : c.isDigit = true := by
  rw [digitsOf_eq] at h
  exact Nat.isDigit_of_mem_toDigits (by decide) (by decide) h

@[simp] theorem valueOf_digitsOf (n : Nat) : valueOf (digitsOf n) = n := by
  rw [valueOf_eq_ofDigitChars, digitsOf_eq, Nat.ofDigitChars_ten_toDigits]

theorem length_digitsOf_le_iff {n k : Nat} (h : 0 < k) : (digitsOf n).length ≤ k ↔ n < 10 ^ k := by
  rw [digitsOf_eq, Nat.length_toDigits_le_iff (by decide) h]

/-- Only zero is written with a zero in front. -/
theorem head_digitsOf_ne {n : Nat} (h : n ≠ 0) : ∀ ds, digitsOf n ≠ '0' :: ds := by
  induction n using Nat.strongRecOn with
  | ind n ih =>
    intro ds hds
    rw [digitsOf_eq, Nat.toDigits_eq_if (by decide)] at hds
    split at hds
    · next hlt =>
      obtain ⟨hd, -⟩ := List.cons.inj hds
      have hn : ∀ n < 10, Nat.digitChar n = '0' → n = 0 := by decide
      exact h (hn n hlt hd)
    · next hge =>
      have hq : n / 10 ≠ 0 := by omega
      rw [← digitsOf_eq] at hds
      obtain ⟨c, rest, hc⟩ := List.exists_cons_of_ne_nil (digitsOf_ne_nil (n / 10))
      rw [hc, List.cons_append] at hds
      obtain ⟨rfl, -⟩ := List.cons.inj hds
      exact ih (n / 10) (by omega) hq rest hc

end HostingClient.Number
