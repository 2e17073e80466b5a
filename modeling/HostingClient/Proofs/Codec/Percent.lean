import HostingClient.Codec.Percent
import HostingClient.Proofs.Text.Utf8

/-! # Escapes read back

Decoding gives back the bytes of every text that was encoded (`decode_encode`), as long as percent signs are escaped.
A text as a segment holds unreserved characters and escapes only (`isEscaped_of_mem_segment`). Form data tells different
texts apart as well (`form_injective`) and does not hold the signs between them (`not_mem_form`). -/

namespace HostingClient.Codec.Percent

open HostingClient.Text

/-! ### Reading escapes -/

theorem hexValue?_hexDigit : ∀ n < 16, hexValue? (hexDigit n) = some n := by decide

theorem decode_escapeByte (b : UInt8) (rest : List Char) : decode (escapeByte b ++ rest) = b :: decode rest := by
  have hb := b.toNat_lt
  have hbyte : UInt8.ofNat (b.toNat / 16 * 16 + b.toNat % 16) = b := by
    rw [Nat.div_add_mod' b.toNat 16, UInt8.ofNat_toNat]
  rw [escapeByte, List.cons_append, List.cons_append, List.cons_append, List.nil_append, decode,
    hexValue?_hexDigit _ (by omega), hexValue?_hexDigit _ (by omega)]
  exact congrArg (· :: decode rest) hbyte

theorem decode_escapeBytes : ∀ (bytes : List UInt8) (rest : List Char),
    decode (bytes.flatMap escapeByte ++ rest) = bytes ++ decode rest
  | [], _ => rfl
  | b :: bytes, rest => by
    rw [List.flatMap_cons, List.append_assoc, decode_escapeByte, decode_escapeBytes bytes rest, List.cons_append]

theorem decode_cons {c : Char} (h : c ≠ '%') (rest : List Char) :
    decode (c :: rest) = String.utf8EncodeChar c ++ decode rest := by
  rw [decode]
  rintro a b tail rfl
  exact absurd rfl h

/-- **Decoding undoes encoding.** -/
theorem decode_encode {keep : Char → Bool} (h : keep '%' = false) : ∀ s : List Char,
    decode (encode keep s) = Utf8.encode s
  | [] => rfl
  | c :: s => by
    have ih : decode (s.flatMap fun c => if keep c then [c] else escapeChar c) = Utf8.encode s := decode_encode h s
    rw [encode, List.flatMap_cons, Utf8.encode, List.flatMap_cons]
    by_cases hc : keep c = true
    · have hne : c ≠ '%' := by
        rintro rfl
        exact absurd (hc.symm.trans h) nofun
      rw [if_pos hc, List.singleton_append, decode_cons hne, ih]
      rfl
    · rw [if_neg hc, escapeChar, decode_escapeBytes, ih]
      rfl

theorem encode_of_all {keep : Char → Bool} : ∀ {s : List Char}, (∀ c ∈ s, keep c = true) → encode keep s = s
  | [], _ => rfl
  | c :: s, h => by
    have ih : (s.flatMap fun c => if keep c then [c] else escapeChar c) = s :=
      encode_of_all fun d hd => h d (List.mem_cons_of_mem c hd)
    rw [encode, List.flatMap_cons, if_pos (h c List.mem_cons_self), ih, List.singleton_append]

/-! ### Characters of encoded texts -/

theorem mem_escapeChar {c d : Char} (h : c ∈ escapeChar d) : c = '%' ∨ ∃ n < 16, c = hexDigit n := by
  obtain ⟨b, -, hb⟩ := List.mem_flatMap.mp h
  have hbound := b.toNat_lt
  simp only [escapeByte, List.mem_cons, List.not_mem_nil, or_false] at hb
  rcases hb with rfl | rfl | rfl
  · exact .inl rfl
  · exact .inr ⟨_, by omega, rfl⟩
  · exact .inr ⟨_, by omega, rfl⟩

/-- An encoded text holds what stands for itself and escapes. -/
theorem mem_encode {keep : Char → Bool} {c : Char} {s : List Char} (h : c ∈ encode keep s) :
    keep c = true ∨ c = '%' ∨ ∃ n < 16, c = hexDigit n := by
  obtain ⟨d, -, hd⟩ := List.mem_flatMap.mp h
  split at hd
  · next hkept =>
    rw [List.mem_singleton.mp hd]
    exact .inl hkept
  · exact .inr (mem_escapeChar hd)

/-! ### Segments -/

/-- A character that an escaped segment may hold. -/
def isEscaped (c : Char) : Bool := isUnreserved c || c = '%'

theorem isEscaped_hexDigit : ∀ n < 16, isEscaped (hexDigit n) = true := by decide

theorem isEscaped_of_mem_segment {c : Char} {s : List Char} (h : c ∈ segment s) : isEscaped c = true := by
  rcases mem_encode h with hkept | rfl | ⟨n, hn, rfl⟩
  · rw [isEscaped, hkept]
    rfl
  · rfl
  · exact isEscaped_hexDigit n hn

theorem toNat_lt_of_isEscaped {c : Char} (h : isEscaped c = true) : c.toNat < 128 := by
  unfold isEscaped isUnreserved Char.isAlphanum at h
  delta Char.isAlpha Char.isUpper Char.isLower Char.isDigit at h
  simp only [Bool.or_eq_true, Bool.and_eq_true, decide_eq_true_eq, UInt32.le_iff_toNat_le] at h
  have hval : c.toNat = c.val.toNat := rfl
  have hZ : 'Z'.val.toNat = 90 := rfl
  have hz : 'z'.val.toNat = 122 := rfl
  have h9 : '9'.val.toNat = 57 := rfl
  rcases h with (((((hletter | hdigit) | rfl) | rfl) | rfl) | rfl) | rfl
  · omega
  · omega
  all_goals decide

/-- What holds of all characters of ASCII that a segment may hold holds of all characters in one. -/
theorem of_mem_segment {p : Char → Bool}
    (hall : ∀ n < 128, isEscaped (Char.ofNat n) = true → p (Char.ofNat n) = true) {c : Char} {s : List Char}
    (h : c ∈ segment s) : p c = true := by
  have hescaped := isEscaped_of_mem_segment h
  rw [← Char.ofNat_toNat c] at hescaped ⊢
  exact hall _ (toNat_lt_of_isEscaped (isEscaped_of_mem_segment h)) hescaped

/-- A text as a segment reads back. -/
theorem decode?_segment (s : List Char) : Utf8.decode? (decode (segment s)) = some s := by
  rw [segment, decode_encode (by decide), Utf8.decode?_encode]

theorem segment_injective {s t : List Char} (h : segment s = segment t) : s = t := by
  have hs := decode?_segment s
  rw [h, decode?_segment] at hs
  exact (Option.some.inj hs).symm

/-! ### Form data -/

/-- Form data with the escape of a space for each plus sign. -/
def unplus (s : List Char) : List Char := s.flatMap fun c => if c = '+' then escapeChar ' ' else [c]

theorem unplus_of_not_mem : ∀ {s : List Char}, '+' ∉ s → unplus s = s
  | [], _ => rfl
  | c :: s, h => by
    have hc : c ≠ '+' := fun he => h (he ▸ List.mem_cons_self)
    have ih : s.flatMap (fun c => if c = '+' then escapeChar ' ' else [c]) = s :=
      unplus_of_not_mem fun hmem => h (List.mem_cons_of_mem c hmem)
    rw [unplus, List.flatMap_cons, if_neg hc, ih, List.singleton_append]

/-- What is not a space is escaped in form data as anywhere. -/
theorem unplus_form : ∀ s : List Char, unplus (form s) = encode isFormChar s
  | [] => rfl
  | c :: s => by
    have ih := unplus_form s
    have hcons : form (c :: s) = (if c = ' ' then ['+'] else encode isFormChar [c]) ++ form s := List.flatMap_cons
    have happend : ∀ a b : List Char, unplus (a ++ b) = unplus a ++ unplus b := fun _ _ => List.flatMap_append
    have hencode : encode isFormChar (c :: s) = encode isFormChar [c] ++ encode isFormChar s := by
      rw [← List.singleton_append]
      exact List.flatMap_append
    rw [hcons, happend, ih, hencode]
    congr 1
    split
    · next hc =>
      rw [hc]
      rfl
    · refine unplus_of_not_mem fun hmem => ?_
      have hdigit : ∀ n < 16, '+' ≠ hexDigit n := by decide
      rcases mem_encode hmem with h | h | ⟨n, hn, h⟩
      · exact absurd h (by decide)
      · exact absurd h (by decide)
      · exact hdigit n hn h

/-- **Different texts are different form data.** -/
theorem form_injective {s t : List Char} (h : form s = form t) : s = t := by
  have hencode : encode isFormChar s = encode isFormChar t := by rw [← unplus_form, h, unplus_form]
  have hbytes := congrArg decode hencode
  rw [decode_encode (by decide), decode_encode (by decide)] at hbytes
  have htext := congrArg Utf8.decode? hbytes
  rw [Utf8.decode?_encode, Utf8.decode?_encode] at htext
  exact Option.some.inj htext

/-- A character that form data may hold. -/
def isFormText (c : Char) : Bool := isFormChar c || c = '%' || c = '+'

theorem isFormText_hexDigit : ∀ n < 16, isFormText (hexDigit n) = true := by decide

/-- Form data does not hold the signs between names and values. -/
theorem not_mem_form {c : Char} (h : isFormText c = false) (s : List Char) : c ∉ form s := by
  intro hmem
  have htext : isFormText c = true := by
    obtain ⟨d, -, hd⟩ := List.mem_flatMap.mp hmem
    split at hd
    · rw [List.mem_singleton.mp hd]
      rfl
    · rcases mem_encode hd with hkept | rfl | ⟨n, hn, rfl⟩
      · rw [isFormText, hkept]
        rfl
      · rfl
      · exact isFormText_hexDigit n hn
  exact absurd (h.symm.trans htext) nofun

end HostingClient.Codec.Percent
