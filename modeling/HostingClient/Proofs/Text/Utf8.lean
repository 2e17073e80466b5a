import HostingClient.Text.Utf8

/-! # UTF-8 both ways

The bytes of a text are read as its characters, without stray parts. The reader takes one byte at a
time, so each step has an equation of its own, and a character is the chain of the steps of its bytes. -/

namespace HostingClient.Text.Utf8

/-! ### The steps of the reader -/

theorem symbolsAfter_ascii {b : UInt8} (h : b.toNat < 0x80) (rest : List UInt8) :
    symbolsAfter none (b :: rest) = .char (Char.ofNat b.toNat) :: symbolsAfter none rest := by
  rw [symbolsAfter]
  simp only [h, if_true]

theorem symbolsAfter_first {b : UInt8} {q : Pending} (h : 0x80 ≤ b.toNat)
    (hq : Pending.ofFirst b.toNat = some q) (rest : List UInt8) :
    symbolsAfter none (b :: rest) = symbolsAfter (some q) rest := by
  rw [symbolsAfter]
  simp only [show ¬ b.toNat < 0x80 by omega, if_false, hq]

theorem symbolsAfter_next {p : Pending} {b : UInt8} (hl : p.low ≤ b.toNat) (hh : b.toNat ≤ p.high)
    (hm : 1 < p.missing) (rest : List UInt8) :
    symbolsAfter (some p) (b :: rest) =
      symbolsAfter (some ⟨p.width + 1, p.missing - 1, p.bits * 64 + (b.toNat - 0x80), 0x80, 0xBF⟩) rest := by
  rw [symbolsAfter]
  simp only [hl, hh, decide_true, Bool.and_self, if_true, show ¬ p.missing ≤ 1 by omega, if_false]

theorem symbolsAfter_last {p : Pending} {b : UInt8} (hl : p.low ≤ b.toNat) (hh : b.toNat ≤ p.high)
    (hm : p.missing ≤ 1) (rest : List UInt8) :
    symbolsAfter (some p) (b :: rest) =
      .char (Char.ofNat (p.bits * 64 + (b.toNat - 0x80))) :: symbolsAfter none rest := by
  rw [symbolsAfter]
  simp only [hl, hh, decide_true, Bool.and_self, if_true, hm]

/-! ### The first bytes -/

theorem ofFirst_two {x : Nat} (hl : 0xC2 ≤ x) (hh : x < 0xE0) :
    Pending.ofFirst x = some ⟨1, 1, x - 0xC0, 0x80, 0xBF⟩ := by
  simp [Pending.ofFirst, hl, hh]

theorem ofFirst_three {x : Nat} (hl : 0xE0 ≤ x) (hh : x < 0xF0) :
    Pending.ofFirst x =
      some ⟨1, 2, x - 0xE0, if x = 0xE0 then 0xA0 else 0x80, if x = 0xED then 0x9F else 0xBF⟩ := by
  simp [Pending.ofFirst, hl, hh, show ¬ x < 0xE0 by omega]

theorem ofFirst_four {x : Nat} (hl : 0xF0 ≤ x) (hh : x < 0xF5) :
    Pending.ofFirst x =
      some ⟨1, 3, x - 0xF0, if x = 0xF0 then 0x90 else 0x80, if x = 0xF4 then 0x8F else 0xBF⟩ := by
  simp [Pending.ofFirst, hl, hh, show ¬ x < 0xE0 by omega, show ¬ x < 0xF0 by omega]

/-! ### Characters and texts -/

theorem toNat_byte {n : Nat} (h : n < 256) : (UInt8.ofNat n).toNat = n :=
  UInt8.toNat_ofNat_of_lt' h

/-- **A character is read back from its bytes.** -/
theorem symbolsAfter_encodeChar (c : Char) (rest : List UInt8) :
    symbolsAfter none (String.utf8EncodeChar c ++ rest) = .char c :: symbolsAfter none rest := by
  obtain ⟨v, hv⟩ : ∃ v, v = c.val.toNat := ⟨_, rfl⟩
  have hc : Char.ofNat v = c := by rw [hv]; exact Char.ofNat_toNat c
  have hvalid : v < 0xD800 ∨ 0xDFFF < v ∧ v < 0x110000 := by rw [hv]; exact c.valid
  unfold String.utf8EncodeChar
  rw [← hv]
  dsimp only
  split
  · next h1 =>
    have e := toNat_byte (n := v) (by omega)
    rw [List.cons_append, symbolsAfter_ascii (by omega), e, hc, List.nil_append]
  split
  · next h1 h2 =>
    have e1 := toNat_byte (n := v / 64 % 0x20 + 0xc0) (by omega)
    have e2 := toNat_byte (n := v % 0x40 + 0x80) (by omega)
    rw [List.cons_append, symbolsAfter_first (by omega) (by rw [e1]; exact ofFirst_two (by omega) (by omega)),
      List.cons_append, symbolsAfter_last (by dsimp only; omega) (by dsimp only; omega) (by simp), e2,
      List.nil_append, show (v / 64 % 0x20 + 0xc0 - 0xC0) * 64 + (v % 0x40 + 0x80 - 0x80) = v by omega, hc]
  split
  · next h1 h2 h3 =>
    have e1 := toNat_byte (n := v / 4096 % 0x10 + 0xe0) (by omega)
    have e2 := toNat_byte (n := v / 64 % 0x40 + 0x80) (by omega)
    have e3 := toNat_byte (n := v % 0x40 + 0x80) (by omega)
    rw [List.cons_append, symbolsAfter_first (by omega) (by rw [e1]; exact ofFirst_three (by omega) (by omega)),
      List.cons_append, symbolsAfter_next (by dsimp only; split <;> omega) (by dsimp only; split <;> omega) (by simp),
      List.cons_append, symbolsAfter_last (by dsimp only; omega) (by dsimp only; omega) (by simp), e2, e3,
      List.nil_append, show ((v / 4096 % 0x10 + 0xe0 - 0xE0) * 64 + (v / 64 % 0x40 + 0x80 - 0x80)) * 64 +
        (v % 0x40 + 0x80 - 0x80) = v by omega, hc]
  · next h1 h2 h3 =>
    have e1 := toNat_byte (n := v / 262144 % 0x08 + 0xf0) (by omega)
    have e2 := toNat_byte (n := v / 4096 % 0x40 + 0x80) (by omega)
    have e3 := toNat_byte (n := v / 64 % 0x40 + 0x80) (by omega)
    have e4 := toNat_byte (n := v % 0x40 + 0x80) (by omega)
    rw [List.cons_append, symbolsAfter_first (by omega) (by rw [e1]; exact ofFirst_four (by omega) (by omega)),
      List.cons_append, symbolsAfter_next (by dsimp only; split <;> omega) (by dsimp only; split <;> omega) (by simp),
      List.cons_append, symbolsAfter_next (by dsimp only; omega) (by dsimp only; omega) (by simp),
      List.cons_append, symbolsAfter_last (by dsimp only; omega) (by dsimp only; omega) (by simp), e2, e3, e4,
      List.nil_append, show (((v / 262144 % 0x08 + 0xf0 - 0xF0) * 64 + (v / 4096 % 0x40 + 0x80 - 0x80)) * 64 +
        (v / 64 % 0x40 + 0x80 - 0x80)) * 64 + (v % 0x40 + 0x80 - 0x80) = v by omega, hc]

/-- **The bytes of a text are read as its characters.** -/
theorem symbols_encode (s : List Char) : symbols (encode s) = s.map Symbol.char := by
  unfold symbols encode
  induction s with
  | nil => rfl
  | cons c s ih => rw [List.flatMap_cons, symbolsAfter_encodeChar, ih, List.map_cons]

theorem decode?_encode (s : List Char) : decode? (encode s) = some s := by
  rw [decode?, symbols_encode]
  induction s with
  | nil => rfl
  | cons c s ih => simp only [List.map_cons, List.mapM_cons, ih]; rfl

theorem decodeShown_encode (s : List Char) : decodeShown (encode s) = s := by
  rw [decodeShown, symbols_encode, List.map_map]
  exact List.map_id s

end HostingClient.Text.Utf8
