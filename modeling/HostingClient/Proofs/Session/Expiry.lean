import HostingClient.Proofs.Json.Faultless
import HostingClient.Proofs.Json.Literal
import HostingClient.Proofs.Json.Member
import HostingClient.Proofs.Session.Payload

/-! # The expiry of tokens

What is left of a token falls as time goes on, by as much as goes by, until it is zero, where it stays. A token whose
payload gives its expiry as an integer is valid exactly before the start of this second, and never if timestamps do
not have it (`Token.ttl_threshold`). -/

namespace HostingClient

open HostingClient.Json HostingClient.Time HostingClient.Text

/-! ### Instants -/

namespace Time.Instant

/-- The nanoseconds since the start of 1970. -/
def count (t : Instant) : Int := t.second * billion + t.nanos

/-- Whether timestamps have an instant and it does not lie in a leap second. -/
def IsPlain (t : Instant) : Prop := firstSecond ≤ t.second ∧ t.second ≤ lastSecond ∧ t.nanos < billion

/-- The nanoseconds of the longest duration, which has as many milliseconds as a signed word can count. -/
def longest : Int := 9223372036854775807 * 1000000

theorem since_eq {a b : Instant} (ha : a.nanos < billion) (hb : b.nanos < billion) :
    a.since b = a.count - b.count := by
  have hleapA : a.isLeap = false := decide_eq_false (Nat.not_le_of_lt ha)
  have hleapB : b.isLeap = false := decide_eq_false (Nat.not_le_of_lt hb)
  unfold since count billion
  rw [hleapA, hleapB]
  simp only [Bool.false_eq_true, if_false, ite_self]
  omega

/-- The difference of two instants is a duration. -/
theorem natAbs_since_le {a b : Instant} (ha : a.IsPlain) (hb : b.IsPlain) : ((a.since b).natAbs : Int) ≤ longest := by
  obtain ⟨hfirst, hlast, hnanos⟩ := ha
  obtain ⟨hfirst', hlast', hnanos'⟩ := hb
  rw [since_eq hnanos hnanos']
  unfold count longest
  unfold firstSecond at hfirst hfirst'
  unfold lastSecond at hlast hlast'
  unfold billion at hnanos hnanos' ⊢
  omega

theorem ofSecond?_eq_some {s : Int} {t : Instant} (h : ofSecond? s = some t) : t = ⟨s, 0⟩ ∧ t.IsPlain := by
  unfold ofSecond? at h
  split at h
  · next hrange =>
    obtain rfl := Option.some.inj h
    exact ⟨rfl, hrange.1, hrange.2, show 0 < billion by decide⟩
  · cases h

theorem ofSecond?_eq_none {s : Int} (h : s < firstSecond ∨ lastSecond < s) : ofSecond? s = none :=
  if_neg (by omega)

/-- A number is the second of the same instant as the integer that it is read for. -/
theorem ofSecond?_truncate {x : Number.Binary64} {i : Int} (h : x.Approximates i) :
    ofSecond? x.truncate = ofSecond? i := by
  rcases h with rfl | ⟨hx, hi⟩
  · rfl
  · have hx := hx.le_natAbs
    have hout : ∀ {s : Int}, 2 ^ 53 ≤ s.natAbs → s < firstSecond ∨ lastSecond < s := fun hs => by
      unfold firstSecond lastSecond
      omega
    rw [ofSecond?_eq_none (hout hx), ofSecond?_eq_none (hout hi)]

end Time.Instant

namespace Token

/-! ### The time that is left -/

theorem isPlain_of_expiry? {token : Option String} {t : Instant} (h : token.bind expiry? = some t) : t.IsPlain := by
  obtain ⟨text, -, h⟩ := Option.bind_eq_some_iff.mp h
  obtain ⟨c, -, h⟩ := Option.bind_eq_some_iff.mp h
  obtain ⟨x, -, h⟩ := Option.bind_eq_some_iff.mp h
  exact (Instant.ofSecond?_eq_some h).2

theorem ttl_of_some {token : Option String} {t now : Instant} (h : token.bind expiry? = some t)
    (hnow : now.nanos < billion) : (ttl token now : Int) = max 0 (t.count - now.count) := by
  have ht := isPlain_of_expiry? h
  rw [ttl, h]
  dsimp only
  rw [Instant.since_eq ht.2.2 hnow]
  omega

theorem ttl_of_none {token : Option String} (h : token.bind expiry? = none) (now : Instant) : ttl token now = 0 := by
  rw [ttl, h]

/-! ### Expiry as it is written -/

/-- Whether a tree has a number as its claim of expiry: in a member of this name, or in the second place of an
array. -/
inductive Expires : Tree → Lexeme → Prop where
  | member {members : List (List Piece × Tree)} {name : List Piece} {l : Lexeme}
      (hname : assemble none name = .ok ['e', 'x', 'p']) (h : (name, .number l) ∈ members) :
      Expires (.object members) l
  | item {first : Tree} {rest : List Tree} {l : Lexeme} : Expires (.array (first :: .number l :: rest)) l

/-- The claim of expiry among the claims. -/
def expiryField : Fields.Ref (.open? "exp" .real) Claims.record.fields := .there .here

theorem isSource_of_expires {t : Tree} {l : Lexeme} (h : Expires t l) :
    expiryField.IsSource (.number l.value) t.outline := by
  cases h with
  | @member members name l hname h =>
    refine ⟨.ofPieces name, ?_, ?_⟩
    · rw [Key.ofPieces, hname]
      rfl
    · exact Tree.mem_memberOutlines h
  | item => rfl

/-- The claim of expiry is a number of the grammar. -/
theorem exists_spells_of_expires {t : Tree} {l : Lexeme} {s : List Symbol} (h : Expires t l) (ht : Spells t s) :
    ∃ text, SpellsNumber l text := by
  have hnumber : ∃ v, Spells (.number l) v := by
    cases h with
    | member _ hmem =>
      cases ht with
      | emptyObject => cases hmem
      | object _ hmembers => exact hmembers.of_mem hmem
    | item =>
      cases ht with
      | array _ hitems => exact hitems.of_mem (List.mem_cons_of_mem _ List.mem_cons_self)
  obtain ⟨v, hv⟩ := hnumber
  cases hv with
  | number h => exact ⟨_, h⟩

/-- The expiry of a token whose payload gives it as an integer. -/
theorem expiry_eq {token : String} {bytes : List UInt8} {t : Tree} {l : Lexeme} {i : Int} {c : Claims}
    (hbytes : payloadBytes token = .ok bytes) (ht : SpellsDocument t (Utf8.symbols bytes)) (hl : Expires t l)
    (hi : l.integer? = some i) (hc : claims token = .ok c) : c.expiry = Instant.ofSecond? i := by
  obtain ⟨bytes', hbytes', hread⟩ := claims_eq_ok_iff.mp hc
  obtain rfl := Except.ok.inj (hbytes.symm.trans hbytes')
  rw [Decoder.runBytes, readDocument_spelled ht] at hread
  obtain ⟨c', hdecode, hread⟩ := bind_eq_ok.mp hread
  obtain rfl := Except.ok.inj hread
  obtain ⟨q, as, hfield, rfl⟩ := Record.decode_source expiryField (by decide) hdecode (isSource_of_expires hl)
  obtain ⟨g, v, g', -, -, hv, -⟩ := ht
  obtain ⟨text, htext⟩ := exists_spells_of_expires hl hv
  obtain ⟨x, hx, hsome⟩ := map_eq_ok.mp hfield
  cases hvalue : l.value with
  | error e =>
    rw [hvalue] at hx
    cases hx
  | ok value =>
    obtain ⟨y, hy, happrox⟩ := exists_real_of_integer? htext hi hvalue q
    rw [hvalue] at hx
    obtain rfl := Except.ok.inj (hx.symm.trans hy)
    have hexpires : (Claims.record.build as).expires = some x := hsome.symm
    rw [Claims.expiry, hexpires, Option.bind_some]
    exact Instant.ofSecond?_truncate happrox

theorem isStrict_claims : Claims.record.decode.IsStrict := by
  refine Record.isStrict ?_
  exact ⟨Decoder.isStrict_text.option, Decoder.isStrict_real.option, Decoder.isStrict_real.option,
    Decoder.isStrict_text.option, trivial⟩

/-- A token with claims has a payload of the grammar. -/
theorem exists_spells_of_claims {token : String} {c : Claims} (h : claims token = .ok c) :
    ∃ bytes payload, payloadBytes token = .ok bytes ∧ SpellsDocument payload (Utf8.symbols bytes) := by
  obtain ⟨bytes, hbytes, hread⟩ := claims_eq_ok_iff.mp h
  obtain ⟨payload, hpayload⟩ := isStrict_claims.exists_spells hread
  exact ⟨bytes, payload, hbytes, hpayload⟩

theorem expiry?_of_claims {token : String} {c : Claims} (h : claims token = .ok c) : expiry? token = c.expiry := by
  rw [expiry?, h]
  rfl

/-- **Expiry is a threshold and never reverses.** For every token, what is left at a later instant is what was left
less the time that has gone by, and at least zero; so a token that has expired stays so. The difference of the two
instants is a duration. If the payload gives the expiry as an integer, then what is left is the time up to this second
if timestamps have it, so it is positive exactly before this second, and zero if they do not. The payload of every token
with claims is a text of the grammar. -/
theorem ttl_threshold :
    (∀ (token : Option String) (now₁ now₂ : Instant), now₁.IsPlain → now₂.IsPlain → now₁.count ≤ now₂.count →
      (ttl token now₂ : Int) = max 0 (ttl token now₁ - (now₂.count - now₁.count)) ∧
      (ttl token now₁ = 0 → ttl token now₂ = 0) ∧
      ∀ t, token.bind expiry? = some t → ((t.since now₁).natAbs : Int) ≤ Instant.longest) ∧
    (∀ (token : String) (bytes : List UInt8) (payload : Tree) (l : Lexeme) (i : Int) (now : Instant),
      payloadBytes token = .ok bytes → SpellsDocument payload (Utf8.symbols bytes) → Expires payload l →
      l.integer? = some i → now.IsPlain →
        (i < Instant.firstSecond ∨ Instant.lastSecond < i → ttl (some token) now = 0) ∧
        (Instant.firstSecond ≤ i → i ≤ Instant.lastSecond → ∀ c, claims token = .ok c →
          (ttl (some token) now : Int) = max 0 (i * billion - now.count) ∧
          (0 < ttl (some token) now ↔ now.count < i * billion))) ∧
    ∀ (token : String) (c : Claims), claims token = .ok c →
      ∃ bytes payload, payloadBytes token = .ok bytes ∧ SpellsDocument payload (Utf8.symbols bytes) := by
  refine ⟨?_, ?_, fun token c hc => exists_spells_of_claims hc⟩
  · intro token now₁ now₂ h₁ h₂ hle
    cases ht : token.bind expiry? with
    | none =>
      rw [ttl_of_none ht, ttl_of_none ht]
      exact ⟨by omega, fun h => h, nofun⟩
    | some t =>
      have hleft₁ := ttl_of_some ht h₁.2.2
      have hleft₂ := ttl_of_some ht h₂.2.2
      refine ⟨by omega, by omega, ?_⟩
      rintro t' he
      obtain rfl := Option.some.inj he
      exact Instant.natAbs_since_le (isPlain_of_expiry? ht) h₁
  · intro token bytes payload l i now hbytes hpayload hl hi hnow
    refine ⟨fun hout => ?_, fun hfirst hlast c hc => ?_⟩
    · refine ttl_of_none ?_ now
      cases hc : claims token with
      | error f =>
        rw [Option.bind_some, expiry?, hc]
        rfl
      | ok c =>
        rw [Option.bind_some, expiry?_of_claims hc, expiry_eq hbytes hpayload hl hi hc, Instant.ofSecond?_eq_none hout]
    · have hexpiry : (some token).bind expiry? = some ⟨i, 0⟩ := by
        rw [Option.bind_some, expiry?_of_claims hc, expiry_eq hbytes hpayload hl hi hc]
        exact if_pos ⟨hfirst, hlast⟩
      have hleft := ttl_of_some hexpiry hnow.2.2
      have hcount : Instant.count ⟨i, 0⟩ = i * billion := Int.add_zero _
      rw [hcount] at hleft
      exact ⟨hleft, by omega⟩

/-- The payload `{"exp" : 1750000060}`. -/
def minutePayload : List Char :=
  ['{', '"', 'e', 'x', 'p', '"', ' ', ':', ' ', '1', '7', '5', '0', '0', '0', '0', '0', '6', '0', '}']

/-- The number in this payload. -/
def minuteExpiry : Lexeme := ⟨false, [1, 7, 5, 0, 0, 0, 0, 0, 6, 0], [], none⟩

/-- The tree of this payload. -/
def minuteTree : Tree := .object [([.char 'e', .char 'x', .char 'p'], .number minuteExpiry)]

/-- A token with this payload, padded. -/
def minuteToken : String := mint ['h'] (Utf8.encode minutePayload) 1 ['s']

theorem spells_minute : SpellsDocument minuteTree (Utf8.symbols (Utf8.encode minutePayload)) := by
  have hname : SpellsText [.char 'e', .char 'x', .char 'p'] (symbolsOf ['e', 'x', 'p', '"']) :=
    .char (by decide) (by decide) (by decide) <| .char (by decide) (by decide) (by decide) <|
      .char (by decide) (by decide) (by decide) .close
  have hnumber : SpellsNumber minuteExpiry ['1', '7', '5', '0', '0', '0', '0', '0', '6', '0'] :=
    .plain (.mk (w := ['1', '7', '5', '0', '0', '0', '0', '0', '6', '0']) ⟨nofun, List.all_eq_true.mp rfl⟩
      (fun h => absurd h (by decide)) .none .none)
  rw [Utf8.symbols_encode]
  refine ⟨[], symbolsOf minutePayload, [], isGapText_nil, isGapText_nil, ?_, rfl⟩
  exact .object isGapText_nil (.last hname isGapText_blank isGapText_blank (.number hnumber) isGapText_nil)

/-- Half a second after the minute has begun, and just after its end. -/
theorem ttl_threshold_minute :
    Instant.IsPlain ⟨1750000000, 500000000⟩ ∧ Instant.IsPlain ⟨1750000060, 1⟩ ∧
      payloadBytes minuteToken = .ok (Utf8.encode minutePayload) ∧
      SpellsDocument minuteTree (Utf8.symbols (Utf8.encode minutePayload)) ∧ Expires minuteTree minuteExpiry ∧
      minuteExpiry.integer? = some 1750000060 ∧
      claims minuteToken = .ok ⟨none, some (.ofInt 1750000060), none, none⟩ ∧
      ttl (some minuteToken) ⟨1750000000, 500000000⟩ = 59500000000 ∧
      ttl (some minuteToken) ⟨1750000060, 1⟩ = 0 := by
  have hnow₁ : Instant.IsPlain ⟨1750000000, 500000000⟩ := ⟨by decide, by decide, by decide⟩
  have hnow₂ : Instant.IsPlain ⟨1750000060, 1⟩ := ⟨by decide, by decide, by decide⟩
  have hbytes : payloadBytes minuteToken = .ok (Utf8.encode minutePayload) :=
    payloadBytes_mint (by decide) (by decide) 1 ['s']
  have hl : Expires minuteTree minuteExpiry := .member rfl List.mem_cons_self
  have hi : minuteExpiry.integer? = some 1750000060 := rfl
  have hread : Claims.record.decode.runBytes (Utf8.encode minutePayload) =
      .ok ⟨none, some (.ofInt 1750000060), none, none⟩ := rfl
  have hclaims := claims_eq_ok_iff.mpr ⟨_, hbytes, hread⟩
  have hleft := (ttl_threshold.2.1 minuteToken _ minuteTree minuteExpiry 1750000060 ⟨1750000000, 500000000⟩ hbytes
    spells_minute hl hi hnow₁).2 (by decide) (by decide) _ hclaims
  have hfalls := (ttl_threshold.1 (some minuteToken) ⟨1750000000, 500000000⟩ ⟨1750000060, 1⟩ hnow₁ hnow₂
    (by decide)).1
  have hcount₁ : Instant.count ⟨1750000000, 500000000⟩ = 1750000000500000000 := rfl
  have hcount₂ : Instant.count ⟨1750000060, 1⟩ = 1750000060000000001 := rfl
  have hbillion : (billion : Int) = 1000000000 := rfl
  rw [hcount₁, hbillion] at hleft
  rw [hcount₁, hcount₂] at hfalls
  exact ⟨hnow₁, hnow₂, hbytes, spells_minute, hl, hi, hclaims, by omega, by omega⟩

end Token

end HostingClient
