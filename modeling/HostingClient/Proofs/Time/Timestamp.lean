import HostingClient.Proofs.Json.Restore
import HostingClient.Proofs.Number.Digits
import HostingClient.Proofs.Time.Calendar
import HostingClient.Time.Timestamp

/-! # Timestamps round trip

Every instant that timestamps can have (`Instant.IsReadable`) is read back from its timestamp, and only such
instants are ever read. So the codec of timestamps restores whatever it decodes. -/

namespace HostingClient.Time

open HostingClient.Text HostingClient.Number

/-- Whether timestamps can have an instant. Only the last second of a minute may be a leap second. -/
structure Instant.IsReadable (t : Instant) : Prop where
  range : firstSecond ≤ t.second ∧ t.second ≤ lastSecond
  nanos : t.nanos < billion ∨ t.nanos < 2 * billion ∧ t.second % 60 = 59

/-! ### Digits -/

theorem valueOf_zeros (k : Nat) (ds : List Char) : valueOf (List.replicate k '0' ++ ds) = valueOf ds := by
  induction k with
  | zero => rfl
  | succ k ih =>
    rw [List.replicate_succ, List.cons_append, valueOf, List.foldl_cons]
    exact ih

theorem toNat_sub_lt_of_isDigit {c : Char} (h : c.isDigit = true) : c.toNat - '0'.toNat < 10 := by
  have hle : c.toNat ≤ 57 := by
    simp only [Char.isDigit, Bool.and_eq_true, decide_eq_true_eq] at h
    exact h.2
  have h0 : '0'.toNat = 48 := rfl
  omega

theorem foldl_digits_lt : ∀ (ds : List Char) (n : Nat), (∀ c ∈ ds, c.isDigit = true) →
    ds.foldl (fun n c => n * 10 + (c.toNat - '0'.toNat)) n < (n + 1) * 10 ^ ds.length
  | [], n, _ => by simp
  | c :: ds, n, h => by
    have hc := toNat_sub_lt_of_isDigit (h c (by simp))
    have ih := foldl_digits_lt ds (n * 10 + (c.toNat - '0'.toNat)) fun x hx => h x (by simp [hx])
    have hle : n * 10 + (c.toNat - '0'.toNat) + 1 ≤ (n + 1) * 10 := by omega
    rw [List.foldl_cons, List.length_cons, Nat.pow_succ, Nat.mul_comm (10 ^ ds.length) 10, ← Nat.mul_assoc]
    exact Nat.lt_of_lt_of_le ih (Nat.mul_le_mul_right _ hle)

theorem valueOf_lt {ds : List Char} (h : ∀ c ∈ ds, c.isDigit = true) : valueOf ds < 10 ^ ds.length := by
  have := foldl_digits_lt ds 0 h
  rwa [Nat.zero_add, Nat.one_mul] at this

@[simp] theorem valueOf_padded (width n : Nat) : valueOf (padded width n) = n := by
  rw [padded, valueOf_zeros, valueOf_digitsOf]

theorem isDigit_of_mem_padded {width n : Nat} {c : Char} (h : c ∈ padded width n) : c.isDigit = true := by
  rcases List.mem_append.mp h with h | h
  · rw [List.eq_of_mem_replicate h]
    rfl
  · exact isDigit_of_mem_digitsOf h

theorem length_padded {width n : Nat} (h0 : 0 < width) (h : n < 10 ^ width) : (padded width n).length = width := by
  have hle := (length_digitsOf_le_iff h0).mpr h
  rw [padded, List.length_append, List.length_replicate]
  omega

theorem padded_ne_nil (width n : Nat) : padded width n ≠ [] := by
  intro h
  exact digitsOf_ne_nil n (List.append_eq_nil_iff.mp h).2

theorem padded_append_ne {width n : Nat} {c : Char} {rest s : List Char} (h : c.isDigit = false) :
    padded width n ++ rest ≠ c :: s := by
  intro heq
  obtain ⟨d, ds, hd⟩ := List.exists_cons_of_ne_nil (padded_ne_nil width n)
  rw [hd, List.cons_append] at heq
  have hmem : d ∈ padded width n := by simp [hd]
  have hdigit := isDigit_of_mem_padded hmem
  rw [(List.cons.inj heq).1, h] at hdigit
  cases hdigit

theorem isBlank_of_isDigit {c : Char} (h : c.isDigit = true) : isBlank c = false := by
  have hb : 48 ≤ c.toNat ∧ c.toNat ≤ 57 := by
    simp only [Char.isDigit, Bool.and_eq_true, decide_eq_true_eq] at h
    exact h
  simp only [isBlank, Bool.or_eq_false_iff, Bool.and_eq_false_iff, decide_eq_false_iff_not, beq_eq_false_iff_ne]
  omega

namespace Timestamp

/-! ### Reading the parts of a timestamp -/

/-- Digits are read as a number if there are as many as may be read or something else follows. -/
theorem number_digits {width : Nat} {ds rest : List Char} (hne : ds ≠ []) (hds : ∀ c ∈ ds, c.isDigit = true)
    (hle : ds.length ≤ width) (hstop : ds.length = width ∨ ∀ c r, rest = c :: r → c.isDigit = false) :
    number width (ds ++ rest) = some (valueOf ds, rest) := by
  have hnone : (rest.take (width - ds.length)).takeWhile Char.isDigit = [] := by
    rcases hstop with h | h
    · rw [h, Nat.sub_self, List.take_zero, List.takeWhile_nil]
    · cases hw : width - ds.length with
      | zero => rfl
      | succ k =>
        cases rest with
        | nil => rfl
        | cons c r => rw [List.take_succ_cons, List.takeWhile_cons_of_neg (by simp [h c r rfl])]
  have htake : ((ds ++ rest).take width).takeWhile Char.isDigit = ds := by
    rw [List.take_append, List.take_of_length_le hle, List.takeWhile_append_of_pos hds, hnone, List.append_nil]
  rw [number]
  simp only [htake]
  rw [if_neg (by simpa using hne), List.drop_left]
  rfl

theorem trimStart_of_not_blank {c : Char} {s : List Char} (h : isBlank c = false) : trimStart (c :: s) = c :: s := by
  rw [trimStart, List.dropWhile_cons_of_neg (by simp [h])]

theorem trimStart_digits {ds rest : List Char} (hne : ds ≠ []) (hds : ∀ c ∈ ds, c.isDigit = true) :
    trimStart (ds ++ rest) = ds ++ rest := by
  obtain ⟨c, ds', rfl⟩ := List.exists_cons_of_ne_nil hne
  exact trimStart_of_not_blank (isBlank_of_isDigit (hds c (by simp)))

theorem field_padded {width n : Nat} (h0 : 0 < width) (h : n < 10 ^ width) (rest : List Char) :
    field width (padded width n ++ rest) = some (n, rest) := by
  have hlen := length_padded h0 h
  rw [field, trimStart_digits (padded_ne_nil width n) fun c hc => isDigit_of_mem_padded hc,
    number_digits (padded_ne_nil width n) (fun c hc => isDigit_of_mem_padded hc) (by omega) (.inl hlen),
    valueOf_padded]

theorem separator_cons {c : Char} (h : isBlank c = false) (rest : List Char) :
    separator c (c :: rest) = some rest := by
  rw [separator, trimStart_of_not_blank h]
  exact if_pos rfl

theorem year_signed {s : List Char} {n : Nat} (rest : List Char) (hs : s = padded 4 n ++ '-' :: rest) :
    number s.length s = some (n, '-' :: rest) := by
  have hlen : (padded 4 n).length ≤ s.length := by rw [hs, List.length_append]; omega
  rw [hs] at hlen ⊢
  rw [number_digits (padded_ne_nil 4 n) (fun c hc => isDigit_of_mem_padded hc) hlen
    (.inr fun c r h => by cases h; rfl), valueOf_padded]

theorem year_text (y : Int) (rest : List Char) : year (yearText y ++ '-' :: rest) = some (y, '-' :: rest) := by
  rw [yearText]
  split
  · next h =>
    have hlt : y.toNat < 10 ^ 4 := by omega
    have hfield := field_padded (by omega) hlt ('-' :: rest)
    have htrim : trimStart (padded 4 y.toNat ++ '-' :: rest) = padded 4 y.toNat ++ '-' :: rest :=
      trimStart_digits (padded_ne_nil 4 _) fun c hc => isDigit_of_mem_padded hc
    rw [field, htrim] at hfield
    rw [year, htrim]
    split
    · next heq => exact absurd heq (padded_append_ne rfl)
    · next heq => exact absurd heq (padded_append_ne rfl)
    · rw [hfield, Option.map_some]
      simp only [Int.toNat_of_nonneg h.1]
  · split
    · next hneg =>
      rw [List.cons_append, year, trimStart_of_not_blank rfl]
      simp only [year_signed rest rfl, Option.map_some]
      rw [Int.ofNat_natAbs_of_nonpos (by omega), Int.neg_neg]
    · next hpos =>
      rw [List.cons_append, year, trimStart_of_not_blank rfl]
      simp only [year_signed rest rfl, Option.map_some]
      rw [Int.natAbs_of_nonneg (by omega)]

theorem fraction_digits {n k : Nat} (h0 : 0 < k) (hk : k ≤ 9) (h : n < 10 ^ k) :
    fraction ('.' :: padded k n ++ ['Z']) = some (n * 10 ^ (9 - k), ['Z']) := by
  have hlen := length_padded h0 h
  rw [List.cons_append, fraction, number_digits (padded_ne_nil k n) (fun c hc => isDigit_of_mem_padded hc) (by omega)
    (.inr fun c r h => by cases h; rfl), valueOf_padded, Option.map_some]
  have hsub : (padded k n ++ ['Z']).length - ['Z'].length = k := by
    rw [List.length_append, hlen]
    exact Nat.add_sub_cancel k 1
  simp only [hsub]
  rfl

theorem fraction_text {nanos : Nat} (h : nanos < billion) :
    fraction (fractionText nanos ++ ['Z']) = some (nanos, ['Z']) := by
  unfold billion at h
  have hmillis : 10 ^ (9 - 3) = 1000000 := rfl
  have hmicros : 10 ^ (9 - 6) = 1000 := rfl
  unfold fractionText
  split
  · next h0 => rw [h0]; rfl
  · split
    · rw [fraction_digits (by omega) (by omega) (by omega), hmillis, Nat.div_mul_cancel (Nat.dvd_of_mod_eq_zero ‹_›)]
    · split
      · rw [fraction_digits (by omega) (by omega) (by omega), hmicros, Nat.div_mul_cancel (Nat.dvd_of_mod_eq_zero ‹_›)]
      · rw [fraction_digits (by omega) (by omega) (by omega), Nat.sub_self, Nat.pow_zero, Nat.mul_one]

/-! ### Whole timestamps -/

/-- The second of the minute and the nanoseconds that a timestamp shows. -/
def shown (t : Instant) : Nat × Nat :=
  if t.isLeap then (t.secondOfDay.toNat % 60 + 1, t.nanos - billion) else (t.secondOfDay.toNat % 60, t.nanos)

theorem shown_bounds {t : Instant} (h : t.IsReadable) : (shown t).1 ≤ 60 ∧ (shown t).2 < billion := by
  have hn := h.nanos
  unfold shown Instant.isLeap
  unfold billion at hn ⊢
  split
  · next hl =>
    rw [decide_eq_true_eq] at hl
    exact ⟨by simp only; omega, by simp only; omega⟩
  · next hl =>
    rw [decide_eq_true_eq] at hl
    exact ⟨by simp only; omega, by simp only; omega⟩

/-- What a timestamp shows makes up its instant. -/
theorem assemble_shown {t : Instant} (h : t.IsReadable) :
    assemble (Date.ofDays (t.second / 86400)) (t.secondOfDay.toNat / 3600) (t.secondOfDay.toNat / 60 % 60)
      (shown t).1 (shown t).2 0 = some t := by
  obtain ⟨h0, h1⟩ := h.range
  have hn := h.nanos
  have hb := shown_bounds h
  have hvalid : (Date.ofDays (t.second / 86400)).isValid = true := by
    refine Date.isValid_ofDays ?_ ?_
    · unfold Instant.firstSecond at h0
      unfold Date.firstDay
      omega
    · unfold Instant.lastSecond at h1
      unfold Date.lastDay
      omega
  have hday : t.secondOfDay = t.second % 86400 := rfl
  obtain ⟨s, hs⟩ : ∃ s, t.secondOfDay.toNat = s := ⟨_, rfl⟩
  have hsec : t.second = t.second / 86400 * 86400 + s := by omega
  have hsplit : s = s / 3600 * 3600 + s / 60 % 60 * 60 + s % 60 := by omega
  have hback : (if (shown t).1 = 60 then (59, (shown t).2 + billion) else ((shown t).1, (shown t).2)) =
      (s % 60, t.nanos) := by
    unfold shown Instant.isLeap
    unfold billion at hn ⊢
    rw [hs]
    by_cases hl : 1000000000 ≤ t.nanos
    · have h59 : s % 60 = 59 := by omega
      simp only [decide_eq_true hl, if_true, h59]
      rw [Nat.sub_add_cancel hl]
    · have h60 : s % 60 ≠ 60 := by omega
      simp only [decide_eq_false hl, Bool.false_eq_true, if_false, if_neg h60]
  unfold assemble
  rw [if_pos ⟨hvalid, by omega, by omega, hb.1, by decide⟩, hback]
  simp only [Date.toDays_ofDays, hs]
  have hsum : t.second / 86400 * 86400 + ((s / 3600 : Nat) : Int) * 3600 + ((s / 60 % 60 : Nat) : Int) * 60 +
      ((s % 60 : Nat) : Int) - 0 * 60 = t.second := by omega
  rw [hsum, if_pos ⟨h0, h1⟩]

theorem text_eq (t : Instant) :
    t.text = yearText (Date.ofDays (t.second / 86400)).year ++ '-' ::
      (padded 2 (Date.ofDays (t.second / 86400)).month ++ '-' ::
      (padded 2 (Date.ofDays (t.second / 86400)).day ++ 'T' :: (padded 2 (t.secondOfDay.toNat / 3600) ++ ':' ::
      (padded 2 (t.secondOfDay.toNat / 60 % 60) ++ ':' :: (padded 2 (shown t).1 ++
      (fractionText (shown t).2 ++ ['Z'])))))) := rfl

/-- **An instant is read back from its timestamp.** -/
theorem read_text {t : Instant} (h : t.IsReadable) : read t.text = some t := by
  have hb := shown_bounds h
  have hday : t.secondOfDay = t.second % 86400 := rfl
  have hmonth : (Date.ofDays (t.second / 86400)).month < 10 ^ 2 ∧ (Date.ofDays (t.second / 86400)).day < 10 ^ 2 :=
    Date.ofDays_bounds _
  rw [text_eq, read]
  simp only [year_text, Option.bind_eq_bind, Option.bind_some, separator_cons (c := '-') rfl,
    field_padded (by omega) hmonth.1, field_padded (by omega) hmonth.2, dateEnd,
    true_or, if_true]
  rw [field_padded (by omega) (by omega)]
  simp only [Option.bind_some, separator_cons (c := ':') rfl]
  rw [field_padded (by omega) (by omega)]
  simp only [Option.bind_some, separator_cons (c := ':') rfl]
  rw [field_padded (by omega) (by omega)]
  simp only [Option.bind_some, fraction_text hb.2]
  exact assemble_shown h

/-! ### What is read -/

theorem number_eq_some {width n : Nat} {s r : List Char} (h : number width s = some (n, r)) :
    ∃ ds, s = ds ++ r ∧ n = valueOf ds ∧ (∀ c ∈ ds, c.isDigit = true) ∧ ds.length ≤ width := by
  have hprefix := (List.takeWhile_prefix (l := s.take width) Char.isDigit)
  have hdigits : ∀ c ∈ (s.take width).takeWhile Char.isDigit, c.isDigit = true := by
    intro c hc
    exact List.all_eq_true.mp List.all_takeWhile c hc
  unfold number at h
  dsimp only at h
  obtain ⟨ds, hds⟩ : ∃ ds, (s.take width).takeWhile Char.isDigit = ds := ⟨_, rfl⟩
  rw [hds] at h hprefix hdigits
  split at h
  · cases h
  · obtain ⟨hn, hr⟩ := Prod.mk.inj (Option.some.inj h)
    obtain ⟨rest, hrest⟩ := hprefix.trans (List.take_prefix width s)
    rw [← hrest, List.drop_left] at hr
    refine ⟨ds, by rw [← hr, hrest], hn.symm, hdigits, ?_⟩
    exact Nat.le_trans hprefix.length_le (by rw [List.length_take]; omega)

theorem fraction_lt {s r : List Char} {n : Nat} (h : fraction s = some (n, r)) : n < billion := by
  unfold fraction at h
  split at h
  · next rest =>
    obtain ⟨⟨m, r'⟩, hm, heq⟩ := Option.map_eq_some_iff.mp h
    obtain ⟨hn, -⟩ := Prod.mk.inj heq
    obtain ⟨ds, hds, rfl, hdigits, hle⟩ := number_eq_some hm
    have hlen : rest.length - r'.length = ds.length := by rw [hds, List.length_append, Nat.add_sub_cancel]
    have hlt := valueOf_lt hdigits
    have hpow : 10 ^ ds.length * 10 ^ (9 - ds.length) = billion := by
      rw [← Nat.pow_add, Nat.add_sub_cancel' hle]
      rfl
    rw [← hn, hlen, ← hpow]
    exact Nat.mul_lt_mul_of_pos_right hlt (Nat.pow_pos (by omega))
  · obtain ⟨rfl, -⟩ := Prod.mk.inj (Option.some.inj h)
    decide

theorem isReadable_of_assemble {date : Date} {hour minute second nanos : Nat} {offset : Int} {t : Instant}
    (hn : nanos < billion) (h : assemble date hour minute second nanos offset = some t) : t.IsReadable := by
  unfold assemble at h
  split at h
  · next hv =>
    obtain ⟨-, -, -, hs, -⟩ := hv
    split at h
    next x s' n' heq =>
    dsimp only at h
    split at h
    · next hr =>
      cases h
      refine ⟨hr, ?_⟩
      split at heq
      · cases heq
        exact .inr ⟨by simp only; omega, by simp only; omega⟩
      · cases heq
        exact .inl hn
    · cases h
  · cases h

/-- **Only instants that timestamps can have are read.** -/
theorem isReadable_of_read {s : List Char} {t : Instant} (h : read s = some t) : t.IsReadable := by
  unfold read at h
  simp only [Option.bind_eq_bind, Option.bind_eq_some_iff, Prod.exists] at h
  obtain ⟨year, s1, -, s2, -, month, s3, -, s4, -, day, s5, -, s6, -, hour, s7, -, s8, -, minute, s9, -, s10, -,
    second, s11, -, nanos, s12, hnanos, offset, s13, -, h⟩ := h
  split at h
  · exact isReadable_of_assemble (fraction_lt hnanos) h
  · cases h

end Timestamp

end HostingClient.Time

namespace HostingClient.Codec

open HostingClient.Json

theorem restores_timestamp {t : Time.Instant} (h : t.IsReadable) : Codec.timestamp.Restores 0 t := by
  refine ⟨trivial, fun p _ => ?_⟩
  have hread := Time.Timestamp.read_text h
  unfold Codec.timestamp
  simp only [outline, String.toList_ofList, hread]

theorem isReadable_of_decode {p : Place} {o : Outline} {t : Time.Instant}
    (h : Codec.timestamp.decode p o = .ok t) : t.IsReadable := by
  unfold Codec.timestamp at h
  simp only at h
  split at h
  · split at h
    · next hr =>
      cases h
      exact Time.Timestamp.isReadable_of_read hr
    · cases h
  · cases h

end HostingClient.Codec
