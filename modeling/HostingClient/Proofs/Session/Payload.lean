import HostingClient.Session.Claims
import HostingClient.Proofs.Codec.Base64
import HostingClient.Proofs.Outcome

/-! # Payloads of tokens

A token that was made from a payload is read as this payload, whatever stands in front of it, behind it and in its
padding; and a token with claims has no other payload than the one whose text it holds (`Token.claims_mint`). -/

namespace HostingClient.Token

open HostingClient.Codec

/-! ### Parts -/

theorem parts_of_not_mem : ∀ {p : List Char}, '.' ∉ p → parts p = [p]
  | [], _ => rfl
  | c :: p, h => by
    have hc : c ≠ '.' := (List.ne_of_not_mem_cons h).symm
    rw [parts, if_neg hc, parts_of_not_mem (List.not_mem_of_not_mem_cons h)]

theorem parts_append_dot : ∀ {p : List Char}, '.' ∉ p → ∀ rest, parts (p ++ '.' :: rest) = p :: parts rest
  | [], _, rest => by rw [List.nil_append, parts, if_pos rfl]
  | c :: p, h, rest => by
    have hc : c ≠ '.' := (List.ne_of_not_mem_cons h).symm
    rw [List.cons_append, parts, if_neg hc, parts_append_dot (List.not_mem_of_not_mem_cons h)]

theorem parts_ne_nil (s : List Char) : parts s ≠ [] := by
  by_cases hdot : '.' ∈ s
  · obtain ⟨p, rest, rfl, hp⟩ := List.eq_append_cons_of_mem hdot
    rw [parts_append_dot hp]
    exact nofun
  · rw [parts_of_not_mem hdot]
    exact nofun

/-- A token has a payload exactly if it has at least two dots with something between the first two. -/
theorem payload?_eq_some_iff {token p : List Char} :
    payload? token = some p ↔
      ∃ header signature, token = header ++ '.' :: (p ++ '.' :: signature) ∧ '.' ∉ header ∧ '.' ∉ p ∧ p ≠ [] := by
  constructor
  · intro h
    unfold payload? at h
    have hone : '.' ∈ token := Decidable.byContradiction fun hone => by
      rw [parts_of_not_mem hone] at h
      cases h
    obtain ⟨header, rest, rfl, hheader⟩ := List.eq_append_cons_of_mem hone
    rw [parts_append_dot hheader] at h
    have htwo : '.' ∈ rest := Decidable.byContradiction fun htwo => by
      rw [parts_of_not_mem htwo] at h
      cases h
    obtain ⟨second, signature, rfl, hsecond⟩ := List.eq_append_cons_of_mem htwo
    rw [parts_append_dot hsecond] at h
    obtain ⟨third, more, hthird⟩ := List.exists_cons_of_ne_nil (parts_ne_nil signature)
    rw [hthird] at h
    dsimp only at h
    split at h
    · cases h
    · next hne =>
      obtain rfl := Option.some.inj h
      exact ⟨header, signature, rfl, hheader, hsecond, fun he => hne (by rw [he]; rfl)⟩
  · rintro ⟨header, signature, rfl, hheader, hp, hne⟩
    obtain ⟨third, more, hthird⟩ := List.exists_cons_of_ne_nil (parts_ne_nil signature)
    rw [payload?, parts_append_dot hheader, parts_append_dot hp, hthird]
    exact if_neg (by rwa [List.isEmpty_iff])

/-! ### Bytes -/

/-- The bytes of a token are those whose text is its payload, without padding. -/
theorem payloadBytes_eq_ok_iff {token : String} {bytes : List UInt8} :
    payloadBytes token = .ok bytes ↔
      ∃ p, payload? token.toList = some p ∧ Text.trimEndBy (· == '=') p = Base64.encode .urlSafe bytes := by
  unfold payloadBytes
  cases payload? token.toList with
  | none => exact iff_of_false nofun nofun
  | some p =>
    have hiff : Base64.decode? .urlSafe (Text.trimEndBy (· == '=') p) = some bytes ↔
        Text.trimEndBy (· == '=') p = Base64.encode .urlSafe bytes :=
      Base64.decode?_eq_some_iff Base64.Alphabet.isProper_urlSafe
    constructor
    · intro h
      dsimp only at h
      split at h
      · cases h
      · next hdecode =>
        obtain rfl := Except.ok.inj h
        exact ⟨p, rfl, hiff.mp hdecode⟩
    · rintro ⟨q, hq, h⟩
      obtain rfl := Option.some.inj hq
      dsimp only
      rw [hiff.mpr h]

/-- The token of a payload between a header and a signature. -/
def mint (header : List Char) (payload : List UInt8) (padding : Nat) (signature : List Char) : String :=
  String.ofList (header ++ '.' ::
    (Base64.encode .urlSafe payload ++ List.replicate padding '=' ++ '.' :: signature))

theorem payloadBytes_mint {header : List Char} {payload : List UInt8} (hheader : '.' ∉ header)
    (hpayload : payload ≠ []) (padding : Nat) (signature : List Char) :
    payloadBytes (mint header payload padding signature) = .ok payload := by
  have hproper := Base64.Alphabet.isProper_urlSafe
  have hdot : '.' ∉ Base64.encode .urlSafe payload ++ List.replicate padding '=' := by
    rw [List.mem_append, not_or]
    exact ⟨Base64.not_mem_encode hproper rfl payload, fun h => absurd (List.eq_of_mem_replicate h) (by decide)⟩
  have hne : Base64.encode .urlSafe payload ++ List.replicate padding '=' ≠ [] :=
    List.append_ne_nil_of_left_ne_nil (Base64.encode_ne_nil hpayload) _
  have hlast : (Base64.encode .urlSafe payload).getLast? ≠ some '=' := fun h =>
    Base64.not_mem_encode hproper rfl payload (List.mem_of_getLast? h)
  refine payloadBytes_eq_ok_iff.mpr ⟨_, payload?_eq_some_iff.mpr ⟨header, signature, ?_, hheader, hdot, hne⟩,
    Text.trimEndBy_replicate hlast padding⟩
  rw [mint, String.toList_ofList]

/-! ### Claims -/

theorem claims_eq_ok_iff {token : String} {c : Claims} :
    claims token = .ok c ↔ ∃ bytes, payloadBytes token = .ok bytes ∧ Claims.record.decode.runBytes bytes = .ok c := by
  rw [claims, bind_eq_ok]
  simp only [mapError_eq_ok]

/-- **A token has the claims of the payload that it was made from, and no others.** Neither its header nor its
signature nor its padding counts. A token with claims has at least three parts, the second without padding is the
text of the bytes that its claims were read from, so tokens with the same bytes have the same second part up to
padding. -/
theorem claims_mint :
    (∀ (header : List Char) (payload : List UInt8) (padding : Nat) (signature : List Char),
      '.' ∉ header → payload ≠ [] →
        claims (mint header payload padding signature) =
          (Claims.record.decode.runBytes payload).mapError .payload) ∧
    (∀ (token : String) (c : Claims), claims token = .ok c →
      ∃ header second signature bytes, token.toList = header ++ '.' :: (second ++ '.' :: signature) ∧
        '.' ∉ header ∧ '.' ∉ second ∧
        Text.trimEndBy (· == '=') second = Base64.encode .urlSafe bytes ∧
        payloadBytes token = .ok bytes ∧ Claims.record.decode.runBytes bytes = .ok c) ∧
    ∀ (token token' : String) (c c' : Claims), claims token = .ok c → claims token' = .ok c' →
      payloadBytes token = payloadBytes token' →
        ∃ second second', payload? token.toList = some second ∧ payload? token'.toList = some second' ∧
          Text.trimEndBy (· == '=') second = Text.trimEndBy (· == '=') second' := by
  refine ⟨?_, ?_, ?_⟩
  · intro header payload padding signature hheader hpayload
    rw [claims, payloadBytes_mint hheader hpayload]
    rfl
  · intro token c h
    obtain ⟨bytes, hbytes, hc⟩ := claims_eq_ok_iff.mp h
    obtain ⟨second, hsecond, htext⟩ := payloadBytes_eq_ok_iff.mp hbytes
    obtain ⟨header, signature, htoken, hheader, hdot, -⟩ := payload?_eq_some_iff.mp hsecond
    exact ⟨header, second, signature, bytes, htoken, hheader, hdot, htext, hbytes, hc⟩
  · intro token token' c c' h _ hsame
    obtain ⟨bytes, hbytes, -⟩ := claims_eq_ok_iff.mp h
    obtain ⟨second, hsecond, htext⟩ := payloadBytes_eq_ok_iff.mp hbytes
    obtain ⟨second', hsecond', htext'⟩ := payloadBytes_eq_ok_iff.mp (hsame.symm.trans hbytes)
    exact ⟨second, second', hsecond, hsecond', htext.trans htext'.symm⟩

/-- The payload `{"exp":12}`. -/
def twelve : List UInt8 := [123, 34, 101, 120, 112, 34, 58, 49, 50, 125]

/-- A padded payload, and a signature with a dot in it. -/
theorem claims_mint_twelve :
    '.' ∉ ['h'] ∧ twelve ≠ [] ∧ mint ['h'] twelve 2 ['s', '.', 't'] = "h.eyJleHAiOjEyfQ==.s.t" ∧
      claims "h.eyJleHAiOjEyfQ==.s.t" = .ok ⟨none, some (.ofInt 12), none, none⟩ ∧
      ∃ second second', payload? "h.eyJleHAiOjEyfQ==.s.t".toList = some second ∧
        payload? "g.eyJleHAiOjEyfQ.u".toList = some second' ∧
        Text.trimEndBy (· == '=') second = Text.trimEndBy (· == '=') second' := by
  have hheader : '.' ∉ ['h'] := by decide
  have hheader' : '.' ∉ ['g'] := by decide
  have hpayload : twelve ≠ [] := by decide
  have hread : Claims.record.decode.runBytes twelve = .ok ⟨none, some (.ofInt 12), none, none⟩ := by rfl
  have htoken : mint ['h'] twelve 2 ['s', '.', 't'] = "h.eyJleHAiOjEyfQ==.s.t" := by decide +kernel
  have htoken' : mint ['g'] twelve 0 ['u'] = "g.eyJleHAiOjEyfQ.u" := by decide +kernel
  have hclaims := claims_mint.1 ['h'] twelve 2 ['s', '.', 't'] hheader hpayload
  have hclaims' := claims_mint.1 ['g'] twelve 0 ['u'] hheader' hpayload
  rw [hread, htoken] at hclaims
  rw [hread, htoken'] at hclaims'
  have hbytes := payloadBytes_mint hheader hpayload 2 ['s', '.', 't']
  have hbytes' := payloadBytes_mint hheader' hpayload 0 ['u']
  rw [htoken] at hbytes
  rw [htoken'] at hbytes'
  exact ⟨hheader, hpayload, htoken, hclaims,
    claims_mint.2.2 _ _ _ _ hclaims hclaims' (hbytes.trans hbytes'.symm)⟩

end HostingClient.Token
