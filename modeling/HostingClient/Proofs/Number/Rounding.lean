import HostingClient.Number.Binary64
import Mathlib.Algebra.Group.Nat.Defs

/-! # Rounding of integers

An integer below `2 ^ 53` is a binary64 number itself (`truncate_ofInt`). What is at least `2 ^ 53` stays so when it is
rounded (`isLarge_of_ofRatio`), so no large integer is ever taken for a small one. -/

namespace HostingClient.Number.Binary64

/-! ### Magnitudes -/

theorem ratio_pos (x : Binary64) : 0 < x.ratio.2 := by
  unfold ratio
  split
  · exact Nat.one_pos
  · exact Nat.two_pow_pos _

theorem natAbs_truncate (x : Binary64) : x.truncate.natAbs = x.ratio.1 / x.ratio.2 := by
  unfold truncate
  dsimp only
  split
  · rw [Int.natAbs_neg, Int.natAbs_natCast]
  · rw [Int.natAbs_natCast]

theorem truncate_neg (x : Binary64) : x.neg.truncate = -x.truncate := by
  have hratio : x.neg.ratio = x.ratio := rfl
  unfold truncate
  rw [hratio]
  cases hx : x.negative with
  | true => simp [neg, hx]
  | false => simp [neg, hx]

/-- Whether a number is at least `2 ^ 53` away from zero. -/
def IsLarge (x : Binary64) : Prop := x.ratio.2 * 2 ^ 53 ≤ x.ratio.1

theorem IsLarge.le_natAbs {x : Binary64} (h : x.IsLarge) : 2 ^ 53 ≤ x.truncate.natAbs := by
  rw [natAbs_truncate, Nat.le_div_iff_mul_le x.ratio_pos, Nat.mul_comm]
  exact h

theorem IsLarge.neg {x : Binary64} (h : x.IsLarge) : x.neg.IsLarge := h

/-! ### Ratios that are rounded -/

theorem le_divNearestEven (num den : Nat) : num / den ≤ divNearestEven num den := by
  unfold divNearestEven
  dsimp only
  split <;> omega

theorem divNearestEven_le (num den : Nat) : divNearestEven num den ≤ num / den + 1 := by
  unfold divNearestEven
  dsimp only
  split <;> omega

theorem divNearestEven_one (n : Nat) : divNearestEven n 1 = n := by
  unfold divNearestEven
  simp [Nat.mod_one]

theorem log2_add_le {den num k : Nat} (hden : den ≠ 0) (h : den * 2 ^ k ≤ num) : den.log2 + k ≤ num.log2 := by
  have hnum : num ≠ 0 := fun h0 => by
    have hpos := Nat.mul_pos (Nat.pos_of_ne_zero hden) (Nat.two_pow_pos k)
    omega
  rw [Nat.le_log2 hnum, Nat.pow_add]
  exact Nat.le_trans (Nat.mul_le_mul_right _ (Nat.log2_self_le hden)) h

theorem exponentOf_eq {num den m : Nat} (hm : num.log2 = den.log2 + m) :
    exponentOf num den = max leastExponent (if num < den * 2 ^ m then (m : Int) - 53 else (m : Int) - 52) := by
  have hdiff : (num.log2 : Int) - den.log2 = (m : Int) := by omega
  unfold exponentOf
  simp only [hdiff, Int.natCast_nonneg, if_true, Int.toNat_natCast, Nat.pow_eq]

/-- A ratio from `2 ^ 53` up is rounded at an exponent at which its significand has 53 bits. -/
theorem exponentOf_large {num den : Nat} (hden : den ≠ 0) (h : den * 2 ^ 53 ≤ num) :
    ∃ e : Nat, exponentOf num den = (e + 1 : Nat) ∧ leastNormal * (den * 2 ^ (e + 1)) ≤ num := by
  have hnum : num ≠ 0 := fun h0 => by
    have hpos := Nat.mul_pos (Nat.pos_of_ne_zero hden) (Nat.two_pow_pos 53)
    omega
  have hlog := log2_add_le hden h
  obtain ⟨m, hm⟩ : ∃ m, num.log2 = den.log2 + (53 + m) := ⟨num.log2 - (den.log2 + 53), by omega⟩
  have hnormal : leastNormal = 2 ^ 52 := rfl
  rw [exponentOf_eq hm, leastExponent, hnormal]
  by_cases hbelow : num < den * 2 ^ (53 + m)
  · -- the ratio is below the power of two that the lengths suggest, so `m` is not zero
    obtain ⟨e, rfl⟩ : ∃ e, m = e + 1 := ⟨m - 1, by
      have hne : m ≠ 0 := fun h0 => by
        rw [h0] at hbelow
        exact absurd h (Nat.not_le_of_lt hbelow)
      omega⟩
    refine ⟨e, by rw [if_pos hbelow]; omega, ?_⟩
    calc 2 ^ 52 * (den * 2 ^ (e + 1)) = den * 2 ^ (e + 53) := by
          rw [Nat.mul_left_comm, ← Nat.pow_add, show 52 + (e + 1) = e + 53 by omega]
      _ ≤ 2 ^ (den.log2 + 1) * 2 ^ (e + 53) := Nat.mul_le_mul_right _ (Nat.le_of_lt Nat.lt_log2_self)
      _ = 2 ^ num.log2 := by
          rw [← Nat.pow_add, hm, show den.log2 + 1 + (e + 53) = den.log2 + (53 + (e + 1)) by omega]
      _ ≤ num := Nat.log2_self_le hnum
  · refine ⟨m, by rw [if_neg hbelow]; omega, ?_⟩
    calc 2 ^ 52 * (den * 2 ^ (m + 1)) = den * 2 ^ (53 + m) := by
          rw [Nat.mul_left_comm, ← Nat.pow_add, show 52 + (m + 1) = 53 + m by omega]
      _ ≤ num := Nat.le_of_not_lt hbelow

theorem isLarge_mk (negative : Bool) {significand : Nat} (hs : leastNormal ≤ significand) (e : Nat) :
    IsLarge ⟨negative, significand, (e + 1 : Nat)⟩ := by
  unfold IsLarge ratio
  simp only [Int.natCast_nonneg, if_true, Int.toNat_natCast, Nat.pow_eq, Nat.one_mul]
  calc 2 ^ 53 = leastNormal * 2 ^ 1 := rfl
    _ ≤ significand * 2 ^ (e + 1) := Nat.mul_le_mul hs (Nat.pow_le_pow_right Nat.two_pos (by omega))

/-- A ratio from `2 ^ 53` up is rounded to a significand of 53 bits and a positive exponent, if this is not too
large. -/
theorem ofRatio_large (negative : Bool) {num den : Nat} (hden : den ≠ 0) (h : den * 2 ^ 53 ≤ num) :
    ∃ significand e : Nat, leastNormal ≤ significand ∧ (2 * leastNormal - 1) * (den * 2 ^ e) ≤ num ∧
      ofRatio negative num den =
        if greatestExponent < (e + 1 : Nat) then none else some ⟨negative, significand, (e + 1 : Nat)⟩ := by
  obtain ⟨e, he, hle⟩ := exponentOf_large hden h
  have hpos : 0 < den * 2 ^ (e + 1) := Nat.mul_pos (Nat.pos_of_ne_zero hden) (Nat.two_pow_pos _)
  have hnormal : 0 < leastNormal := by decide
  have hnum : num ≠ 0 := Nat.ne_of_gt (Nat.lt_of_lt_of_le (Nat.mul_pos hnormal hpos) hle)
  have hq : leastNormal ≤ divNearestEven num (den * 2 ^ (e + 1)) :=
    Nat.le_trans ((Nat.le_div_iff_mul_le hpos).mpr hle) (le_divNearestEven _ _)
  have hzero : ∀ {s : Nat} (i : Int), leastNormal ≤ s → isZero ⟨negative, s, i⟩ = false := fun i hs =>
    beq_eq_false_iff_ne.mpr (Nat.ne_of_gt (Nat.lt_of_lt_of_le hnormal hs))
  unfold ofRatio
  simp only [hnum, if_false, he, Int.natCast_nonneg, if_true, Int.toNat_natCast, Nat.pow_eq]
  split
  · next hcarry =>
    refine ⟨leastNormal, e + 1, Nat.le_refl _, (Nat.le_div_iff_mul_le hpos).mp ?_, ?_⟩
    · have hnear := divNearestEven_le num (den * 2 ^ (e + 1))
      omega
    · rw [hzero _ (Nat.le_refl _), if_neg Bool.false_ne_true]
      rfl
  · refine ⟨_, e, hq, Nat.le_trans ?_ hle, ?_⟩
    · calc (2 * leastNormal - 1) * (den * 2 ^ e) ≤ 2 * leastNormal * (den * 2 ^ e) :=
            Nat.mul_le_mul_right _ (Nat.sub_le _ _)
        _ = leastNormal * (den * 2 ^ (e + 1)) := by
          rw [Nat.pow_succ, ← Nat.mul_assoc den, Nat.mul_comm (den * 2 ^ e) 2, ← Nat.mul_assoc leastNormal,
            Nat.mul_comm leastNormal 2]
    · rw [hzero _ hq, if_neg Bool.false_ne_true]

/-- The exponent at which a ratio is rounded, by a bound on the ratio. -/
theorem lt_of_mul_two_pow_le {n e k : Nat} (h : (2 * leastNormal - 1) * (1 * 2 ^ e) ≤ n)
    (hn : n < (2 * leastNormal - 1) * 2 ^ k) : e < k := by
  rw [Nat.one_mul] at h
  have hlt : 2 ^ e < 2 ^ k := Nat.lt_of_mul_lt_mul_left (Nat.lt_of_le_of_lt h hn)
  exact (Nat.pow_lt_pow_iff_right (by decide)).mp hlt

theorem isLarge_of_ofRatio {negative : Bool} {num den : Nat} {x : Binary64} (hden : den ≠ 0)
    (h : den * 2 ^ 53 ≤ num) (hx : ofRatio negative num den = some x) : x.IsLarge := by
  obtain ⟨significand, e, hs, -, hround⟩ := ofRatio_large negative hden h
  rw [hround] at hx
  split at hx
  · cases hx
  · obtain rfl := Option.some.inj hx
    exact isLarge_mk negative hs e

/-- A positive integer below `2 ^ 53` is rounded to itself. -/
theorem exists_ofRatio_one (negative : Bool) {n : Nat} (hn : n ≠ 0) (h : n < 2 ^ 53) :
    ∃ x, ofRatio negative n 1 = some x ∧ x.negative = negative ∧ x.ratio.1 = n * x.ratio.2 := by
  have hlog : n.log2 < 53 := (Nat.log2_lt hn).mpr h
  obtain ⟨s, hs⟩ : ∃ s, n.log2 + s = 52 := ⟨52 - n.log2, by omega⟩
  have he : exponentOf n 1 = -(s : Int) := by
    have hlow := Nat.log2_self_le hn
    have hone : Nat.log2 1 = 0 := rfl
    rw [exponentOf_eq (m := n.log2) (by omega), if_neg (by omega), leastExponent]
    omega
  have hq : (if 0 ≤ -(s : Int) then divNearestEven n (1 * 2 ^ (-(s : Int)).toNat)
      else divNearestEven (n * 2 ^ (-(-(s : Int))).toNat) 1) = n * 2 ^ s := by
    cases s with
    | zero => exact (divNearestEven_one n).trans (Nat.mul_one n).symm
    | succ s => rw [if_neg (by omega), divNearestEven_one, Int.neg_neg, Int.toNat_natCast]
  have hlt : n * 2 ^ s < 2 * leastNormal := by
    calc n * 2 ^ s < 2 ^ (n.log2 + 1) * 2 ^ s := Nat.mul_lt_mul_of_pos_right Nat.lt_log2_self (Nat.two_pow_pos s)
      _ = 2 * leastNormal := by rw [← Nat.pow_add, show n.log2 + 1 + s = 53 by omega]; rfl
  have hzero : n * 2 ^ s ≠ 0 := Nat.mul_ne_zero hn (Nat.ne_of_gt (Nat.two_pow_pos s))
  refine ⟨⟨negative, n * 2 ^ s, -(s : Int)⟩, ?_, rfl, ?_⟩
  · unfold ofRatio
    simp only [hn, if_false, he, Nat.pow_eq, hq, Nat.ne_of_lt hlt, isZero, beq_eq_false_iff_ne.mpr hzero,
      Bool.false_eq_true, greatestExponent]
    exact if_neg (by omega)
  · unfold ratio
    cases s with
    | zero => simp
    | succ s =>
      have hneg : ¬ 0 ≤ -((s + 1 : Nat) : Int) := by omega
      simp only [hneg, if_false, Int.neg_neg, Int.toNat_natCast, Nat.pow_eq]

/-! ### Integers -/

theorem truncate_zero (negative : Bool) : (zero negative).truncate = 0 := by
  have hratio : (zero negative).ratio.1 = 0 := by
    unfold ratio zero
    split
    · exact Nat.zero_mul _
    · rfl
  have habs := natAbs_truncate (zero negative)
  rw [hratio, Nat.zero_div] at habs
  exact Int.natAbs_eq_zero.mp habs

theorem truncate_ofInt {i : Int} (h : i.natAbs < 2 ^ 53) : (ofInt i).truncate = i := by
  by_cases hi : i = 0
  · rw [hi]
    exact truncate_zero false
  obtain ⟨x, hx, hnegative, hratio⟩ := exists_ofRatio_one (i < 0) (Int.natAbs_ne_zero.mpr hi) h
  have hquotient : x.ratio.1 / x.ratio.2 = i.natAbs := by
    rw [hratio, Nat.mul_div_cancel _ x.ratio_pos]
  rw [ofInt, hx, Option.getD_some, truncate, hquotient, hnegative]
  simp only [decide_eq_true_eq]
  split <;> omega

theorem isLarge_ofInt {i : Int} (h : 2 ^ 53 ≤ i.natAbs) (hi : i.natAbs < 2 ^ 64) : (ofInt i).IsLarge := by
  have hone : 1 * 2 ^ 53 ≤ i.natAbs := by omega
  obtain ⟨significand, e, hs, hle, hround⟩ := ofRatio_large (i < 0) Nat.one_ne_zero hone
  have he : e < 12 := lt_of_mul_two_pow_le hle (Nat.lt_trans hi (by decide))
  have hfits : ¬ greatestExponent < (e + 1 : Nat) := by
    unfold greatestExponent
    omega
  rw [ofInt, hround, if_neg hfits, Option.getD_some]
  exact isLarge_mk _ hs e

/-- Whether a number is an integer, or at least `2 ^ 53` away from zero like the integer. -/
def Approximates (x : Binary64) (i : Int) : Prop := x.truncate = i ∨ x.IsLarge ∧ 2 ^ 53 ≤ i.natAbs

theorem approximates_ofInt {i : Int} (hi : i.natAbs < 2 ^ 64) : (ofInt i).Approximates i := by
  by_cases h : i.natAbs < 2 ^ 53
  · exact .inl (truncate_ofInt h)
  · exact .inr ⟨isLarge_ofInt (Nat.le_of_not_lt h) hi, Nat.le_of_not_lt h⟩

theorem Approximates.neg {x : Binary64} {i : Int} (h : x.Approximates i) : x.neg.Approximates (-i) := by
  rcases h with rfl | ⟨hx, hi⟩
  · exact .inl (truncate_neg x)
  · exact .inr ⟨hx.neg, by rwa [Int.natAbs_neg]⟩

/-! ### Products -/

theorem IsLarge.mul {x y z : Binary64} (hx : x.IsLarge) (hy : y.ratio.2 ≤ y.ratio.1) (h : x.mul y = some z) :
    z.IsLarge := by
  refine isLarge_of_ofRatio (Nat.mul_ne_zero (Nat.ne_of_gt x.ratio_pos) (Nat.ne_of_gt y.ratio_pos)) ?_ h
  calc x.ratio.2 * y.ratio.2 * 2 ^ 53 = x.ratio.2 * 2 ^ 53 * y.ratio.2 := Nat.mul_right_comm _ _ _
    _ ≤ x.ratio.1 * y.ratio.1 := Nat.mul_le_mul hx hy

theorem one_le_powerOfTen {n : Nat} (h : n ≤ 308) : (powerOfTen n).ratio.2 ≤ (powerOfTen n).ratio.1 := by
  have hpos : 0 < 10 ^ n := Nat.pow_pos (by decide)
  by_cases hsmall : 10 ^ n < 2 ^ 53
  · obtain ⟨x, hx, -, hratio⟩ := exists_ofRatio_one false (Nat.ne_of_gt hpos) hsmall
    rw [powerOfTen, Nat.pow_eq, hx, Option.getD_some, hratio]
    exact Nat.le_mul_of_pos_left _ hpos
  · have hlarge : 1 * 2 ^ 53 ≤ 10 ^ n := by omega
    obtain ⟨significand, e, hs, hle, hround⟩ := ofRatio_large false Nat.one_ne_zero hlarge
    have hbound : 10 ^ n < (2 * leastNormal - 1) * 2 ^ 971 :=
      calc 10 ^ n ≤ 10 ^ 308 := Nat.pow_le_pow_right (by decide) h
        _ < (2 * leastNormal - 1) * 2 ^ 971 := by decide +kernel
    have he : e < 971 := lt_of_mul_two_pow_le hle hbound
    have hfits : ¬ greatestExponent < (e + 1 : Nat) := by
      unfold greatestExponent
      omega
    rw [powerOfTen, Nat.pow_eq, hround, if_neg hfits, Option.getD_some]
    exact Nat.le_trans (Nat.le_mul_of_pos_right _ (Nat.two_pow_pos 53)) (isLarge_mk false hs e)

end HostingClient.Number.Binary64
