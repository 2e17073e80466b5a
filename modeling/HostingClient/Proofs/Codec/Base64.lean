import HostingClient.Codec.Base64
import HostingClient.Proofs.Text.Utf8

/-! # Base64 read back

Text without padding is read exactly if it is the text that is written (`decode?_eq_some_iff`), so different texts
never stand for the same bytes. The digits are read back one by one, then the groups of three bytes. -/

namespace HostingClient.Codec.Base64

open HostingClient.Text.Utf8 (toNat_byte)

/-! ### Digits -/

namespace Alphabet

/-- Whether every digit of an alphabet has the value that it is written for. -/
def IsProper (a : Alphabet) : Prop := ∀ n < 64, a.value? (a.digit n) = some n

theorem isProper_urlSafe : urlSafe.IsProper := by unfold IsProper; decide

/-- A character with a value is the digit of this value. -/
theorem digit_of_value? {a : Alphabet} {c : Char} {n : Nat} (h : a.value? c = some n) : n < 64 ∧ a.digit n = c := by
  have hback : ∀ {m : Nat}, m = c.toNat → Char.ofNat m = c := fun hm => by rw [hm, Char.ofNat_toNat]
  have hA : 'A'.toNat = 65 := rfl
  have ha : 'a'.toNat = 97 := rfl
  have h0 : '0'.toNat = 48 := rfl
  unfold value? at h
  split at h
  · next hc =>
    obtain ⟨hlow, hhigh⟩ : 65 ≤ c.toNat ∧ c.toNat ≤ 90 := hc
    obtain rfl := Option.some.inj h
    rw [digit, if_pos (by omega)]
    exact ⟨by omega, hback (by omega)⟩
  split at h
  · next hc =>
    obtain ⟨hlow, hhigh⟩ : 97 ≤ c.toNat ∧ c.toNat ≤ 122 := hc
    obtain rfl := Option.some.inj h
    rw [digit, if_neg (by omega), if_pos (by omega)]
    exact ⟨by omega, hback (by omega)⟩
  split at h
  · next hc =>
    obtain ⟨hlow, hhigh⟩ : 48 ≤ c.toNat ∧ c.toNat ≤ 57 := hc
    obtain rfl := Option.some.inj h
    rw [digit, if_neg (by omega), if_neg (by omega), if_pos (by omega)]
    exact ⟨by omega, hback (by omega)⟩
  split at h
  · next hc =>
    obtain rfl := Option.some.inj h
    exact ⟨by decide, hc.symm⟩
  split at h
  · next hc =>
    obtain rfl := Option.some.inj h
    exact ⟨by decide, hc.symm⟩
  · cases h

end Alphabet

theorem mapM_value?_map {a : Alphabet} (ha : a.IsProper) : ∀ {values : List Nat}, (∀ v ∈ values, v < 64) →
    (values.map a.digit).mapM a.value? = some values
  | [], _ => rfl
  | v :: values, h => by
    rw [List.map_cons, List.mapM_cons, ha v (h v List.mem_cons_self),
      mapM_value?_map ha fun w hw => h w (List.mem_cons_of_mem v hw)]
    rfl

theorem of_mapM_value? {a : Alphabet} : ∀ {s : List Char} {values : List Nat}, s.mapM a.value? = some values →
    (∀ v ∈ values, v < 64) ∧ values.map a.digit = s
  | [], values, h => by
    obtain rfl : [] = values := Option.some.inj h
    exact ⟨nofun, rfl⟩
  | c :: s, values, h => by
    rw [List.mapM_cons] at h
    obtain ⟨v, hv, h⟩ := Option.bind_eq_some_iff.mp h
    obtain ⟨rest, hrest, h⟩ := Option.bind_eq_some_iff.mp h
    obtain rfl := Option.some.inj h
    obtain ⟨hlt, hdigit⟩ := Alphabet.digit_of_value? hv
    obtain ⟨hall, hmap⟩ := of_mapM_value? hrest
    exact ⟨List.forall_mem_cons.mpr ⟨hlt, hall⟩, by rw [List.map_cons, hdigit, hmap]⟩

/-! ### Groups of bytes -/

theorem sextets_lt : ∀ (bytes : List UInt8), ∀ v ∈ sextets bytes, v < 64
  | [] => nofun
  | [a] => by
    have ha := a.toNat_lt
    simp only [sextets, List.forall_mem_cons]
    exact ⟨by omega, by omega, nofun⟩
  | [a, b] => by
    have ha := a.toNat_lt
    have hb := b.toNat_lt
    simp only [sextets, List.forall_mem_cons]
    exact ⟨by omega, by omega, by omega, nofun⟩
  | a :: b :: c :: rest => by
    have ha := a.toNat_lt
    have hb := b.toNat_lt
    have hc := c.toNat_lt
    simp only [sextets, List.forall_mem_cons]
    exact ⟨by omega, by omega, by omega, by omega, sextets_lt rest⟩

theorem ofNat_eq {b : UInt8} {n : Nat} (h : n = b.toNat) : UInt8.ofNat n = b := by rw [h, UInt8.ofNat_toNat]

theorem octets?_sextets : ∀ bytes : List UInt8, octets? (sextets bytes) = some bytes
  | [] => rfl
  | [a] => by
    rw [sextets, octets?, if_pos (by omega), ofNat_eq (b := a) (by omega)]
  | [a, b] => by
    have hb := b.toNat_lt
    rw [sextets, octets?, if_pos (by omega), ofNat_eq (b := a) (by omega), ofNat_eq (b := b) (by omega)]
  | a :: b :: c :: rest => by
    have hb := b.toNat_lt
    have hc := c.toNat_lt
    rw [sextets, octets?, octets?_sextets rest, Option.map_some, ofNat_eq (b := a) (by omega),
      ofNat_eq (b := b) (by omega), ofNat_eq (b := c) (by omega)]

/-- Digits whose bytes are read are the digits of these bytes, since unused bits must be zero. -/
theorem sextets_of_octets? : ∀ {values : List Nat} {bytes : List UInt8}, (∀ v ∈ values, v < 64) →
    octets? values = some bytes → sextets bytes = values
  | [], bytes, _, h => by
    obtain rfl : [] = bytes := Option.some.inj h
    rfl
  | [_], _, _, h => by cases h
  | [a, b], bytes, hlt, h => by
    obtain ⟨ha, hb, -⟩ := by simpa only [List.forall_mem_cons] using hlt
    rw [octets?] at h
    split at h
    · obtain rfl := Option.some.inj h
      rw [sextets, toNat_byte (by omega), show (a * 4 + b / 16) / 4 = a by omega,
        show (a * 4 + b / 16) % 4 * 16 = b by omega]
    · cases h
  | [a, b, c], bytes, hlt, h => by
    obtain ⟨ha, hb, hc, -⟩ := by simpa only [List.forall_mem_cons] using hlt
    rw [octets?] at h
    split at h
    · obtain rfl := Option.some.inj h
      rw [sextets, toNat_byte (by omega), toNat_byte (by omega), show (a * 4 + b / 16) / 4 = a by omega,
        show (a * 4 + b / 16) % 4 * 16 + (b % 16 * 16 + c / 4) / 16 = b by omega,
        show (b % 16 * 16 + c / 4) % 16 * 4 = c by omega]
    · cases h
  | a :: b :: c :: d :: rest, bytes, hlt, h => by
    obtain ⟨ha, hb, hc, hd, hrest⟩ := by simpa only [List.forall_mem_cons] using hlt
    obtain ⟨tail, htail, rfl⟩ := Option.map_eq_some_iff.mp h
    rw [sextets, sextets_of_octets? hrest htail, toNat_byte (by omega), toNat_byte (by omega),
      toNat_byte (by omega), show (a * 4 + b / 16) / 4 = a by omega,
      show (a * 4 + b / 16) % 4 * 16 + (b % 16 * 16 + c / 4) / 16 = b by omega,
      show (b % 16 * 16 + c / 4) % 16 * 4 + (c % 4 * 64 + d) / 64 = c by omega,
      show (c % 4 * 64 + d) % 64 = d by omega]

/-! ### Texts -/

theorem decode?_encode {a : Alphabet} (ha : a.IsProper) (bytes : List UInt8) :
    decode? a (encode a bytes) = some bytes := by
  rw [decode?, encode, mapM_value?_map ha (sextets_lt bytes)]
  exact octets?_sextets bytes

/-- **A text is read exactly if it is the one that is written** for the bytes that are read. -/
theorem decode?_eq_some_iff {a : Alphabet} (ha : a.IsProper) {s : List Char} {bytes : List UInt8} :
    decode? a s = some bytes ↔ s = encode a bytes := by
  constructor
  · intro h
    obtain ⟨values, hvalues, hoctets⟩ := Option.bind_eq_some_iff.mp h
    obtain ⟨hlt, hdigits⟩ := of_mapM_value? hvalues
    rw [encode, sextets_of_octets? hlt hoctets, hdigits]
  · rintro rfl
    exact decode?_encode ha bytes

/-- A written text holds digits only. -/
theorem not_mem_encode {a : Alphabet} (ha : a.IsProper) {c : Char} (hc : a.value? c = none) (bytes : List UInt8) :
    c ∉ encode a bytes := by
  intro hmem
  obtain ⟨n, hn, rfl⟩ := List.mem_map.mp hmem
  rw [ha n (sextets_lt bytes n hn)] at hc
  cases hc

theorem encode_ne_nil {a : Alphabet} : ∀ {bytes : List UInt8}, bytes ≠ [] → encode a bytes ≠ []
  | [], h => absurd rfl h
  | [_], _ => nofun
  | [_, _], _ => nofun
  | _ :: _ :: _ :: _, _ => nofun

end HostingClient.Codec.Base64
