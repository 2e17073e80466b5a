import HostingClient.Proofs.Client.Login

/-! # Stored tokens are presented

A login or a refresh that succeeds leaves a token in the session. While it has not expired, the next check of the
session presents it to the identity provider, and the session is logged out only after that: if the token may stand in
a header. One that may not is dropped by the check, and the provider is not asked
(`Client.isAuthenticated_presents`). -/

namespace HostingClient

/-- The surroundings at another time. -/
def Surroundings.atTime {σ : Type} (s : Surroundings σ) (now : Time.Instant) : Surroundings σ :=
  { s with session := { s.session with now } }

namespace Client

open Session

variable {σ : Type} {c : Client} {s later : Surroundings σ} {token : String}

theorem not_failed_ok {α : Type} {session : Session σ} (a : α) (later : Surroundings σ) :
    ¬ Failed session (.ok a, later) := by
  rintro ⟨⟨e, he⟩, -⟩
  cases he

variable [Storage σ]

/-- A call that has put a token into the session. -/
inductive Obtains (c : Client) (s later : Surroundings σ) : Prop
  | login (email password : String) (user : Profile) (h : c.login email password s = (.ok user, later))
  | refresh (h : c.refreshSession s = (.ok (), later))

theorem Obtains.exists_token (h : Obtains c s later) : ∃ token, later.session.state.token = some token := by
  cases h with
  | login email password user h =>
    have hends := login_ends c email password s
    rw [h] at hends
    obtain ⟨_, token, _, _, -, -, -, hsession⟩ := hends.resolve_left (not_failed_ok user later)
    exact ⟨token, congrArg (fun session => session.state.token) hsession⟩
  | refresh h =>
    cases htoken : s.session.state.token with
    | none =>
      rw [refreshSession, refreshDuring_none id htoken] at h
      cases congrArg Prod.fst h
    | some current =>
      have hends := refreshDuring_ends c id htoken
      rw [refreshSession] at h
      rw [h] at hends
      obtain ⟨token, _, -, -, hsession⟩ := hends.resolve_left (not_failed_ok () later)
      exact ⟨token, congrArg (fun session => session.state.token) hsession⟩

/-! ### Checking a session whose token has not expired -/

/-- A token that may stand in a header is presented where requests can go, and the answer decides. -/
theorem isAuthenticated_sent (htext : isHeaderText token = true) (hplace : isPlace c.checks = true)
    (htoken : s.session.state.token = some token) (hlives : Token.ttl (some token) s.session.now ≠ 0) :
    ∃ r, Posts c "/tokens/validate" .empty (some (bearer token)) r ∧
      let answer := (s.peer.answer r).1
      (c.isAuthenticated s).1 = .ok (isSuccess answer) ∧
      (c.isAuthenticated s).2.exchanges = s.exchanges ++ [⟨r, answer⟩] ∧
      (c.isAuthenticated s).2.session = if isSuccess answer then s.session else s.session.clearUser := by
  obtain ⟨r, hasking, hsent⟩ := ask_sent htext hplace s
  have hverdict := accepted_eq_isSuccess hsent
  refine ⟨r, hasking.posts, ?_⟩
  cases hcall : c.call (Operation.validateToken token).endpoint s with
  | mk verdict asked =>
    rw [hcall] at hsent hverdict
    obtain ⟨-, hkept, -, hexchanges⟩ := hsent
    dsimp only at hkept hexchanges hverdict
    rw [isAuthenticated_ask (Session.check_eq_ask htoken hlives) hcall, hverdict]
    refine ⟨rfl, hexchanges, ?_⟩
    dsimp only
    rw [Session.settle_snd, hkept]
    cases isSuccess (s.peer.answer r).1 with
    | true => rfl
    | false => exact if_neg (by simp [htoken])

/-- A token that cannot be presented is dropped, and nothing is sent. -/
theorem isAuthenticated_unsent (h : isHeaderText token = false ∨ isPlace c.checks = false)
    (htoken : s.session.state.token = some token) (hlives : Token.ttl (some token) s.session.now ≠ 0) :
    (c.isAuthenticated s).1 = .ok false ∧ (c.isAuthenticated s).2.exchanges = s.exchanges ∧
      (c.isAuthenticated s).2.session = s.session.clearUser := by
  obtain ⟨url, queue, hcall⟩ := ask_unsendable h s
  rw [isAuthenticated_ask (Session.check_eq_ask htoken hlives) hcall]
  refine ⟨rfl, rfl, ?_⟩
  dsimp only
  rw [Session.settle_snd]
  exact if_neg (by simp [htoken, Except.toOption])

/-- **A stored token is presented, if it may stand in a header.** After a login or a refresh that succeeded, and as
long as the token has not expired, the next check of the session asks the identity provider about exactly this token,
once, and the session stays unless the provider does not accept it. A token that may not stand in a header is dropped,
together with the user, and the provider is not asked; so is any where requests cannot go to the provider. -/
theorem isAuthenticated_presents (h : Obtains c s later) (now : Time.Instant) :
    ∃ token, later.session.state.token = some token ∧ (0 < Token.ttl (some token) now →
      let called := c.isAuthenticated (later.atTime now)
      (isHeaderText token = true → isPlace c.checks = true →
        ∃ r, Posts c "/tokens/validate" .empty (some (bearer token)) r ∧
          let answer := (later.peer.answer r).1
          called.1 = .ok (isSuccess answer) ∧ called.2.exchanges = later.exchanges ++ [⟨r, answer⟩] ∧
          called.2.session =
            if isSuccess answer then (later.atTime now).session else (later.atTime now).session.clearUser) ∧
      (isHeaderText token = false ∨ isPlace c.checks = false →
        called.1 = .ok false ∧ called.2.exchanges = later.exchanges ∧
        called.2.session = (later.atTime now).session.clearUser)) := by
  obtain ⟨token, htoken⟩ := h.exists_token
  refine ⟨token, htoken, fun hlives => ?_⟩
  have hlives' : Token.ttl (some token) (later.atTime now).session.now ≠ 0 := Nat.pos_iff_ne_zero.mp hlives
  have htoken' : (later.atTime now).session.state.token = some token := htoken
  exact ⟨fun htext hplace => isAuthenticated_sent htext hplace htoken' hlives',
    fun hunsendable => isAuthenticated_unsent hunsendable htoken' hlives'⟩

/-- A refresh whose answer is a token with some text behind its last dot. -/
def renewal (signature : List Char) : Surroundings (Dict String) :=
  trading "old" (Text.Utf8.encode ("e30.eyJleHAiOjQxMDI0NDQ4MDB9.".toList ++ signature))

/-- A token that a refresh has stored is presented. -/
theorem isAuthenticated_presents_renewal :
    let later := (onLocalhost.refreshSession (renewal ['x'])).2
    Obtains onLocalhost (renewal ['x']) later ∧
    ∃ token r, later.session.state.token = some token ∧ 0 < Token.ttl (some token) ⟨0, 0⟩ ∧
      isHeaderText token = true ∧ isPlace onLocalhost.checks = true ∧
      Posts onLocalhost "/tokens/validate" .empty (some (bearer token)) r ∧
      (onLocalhost.isAuthenticated (later.atTime ⟨0, 0⟩)).2.exchanges = later.exchanges ++ [⟨r, none⟩] := by
  intro later
  have hplace : isPlace onLocalhost.checks = true := by decide +kernel
  have hrefreshed : (onLocalhost.refreshSession (renewal ['x'])).1.toOption.isSome = true ∧
      later.session.state.token = some "e30.eyJleHAiOjQxMDI0NDQ4MDB9.x" ∧ later.peer.answers = [] := by
    decide +kernel
  obtain ⟨hresult, hstored, hpeer⟩ := hrefreshed
  obtain ⟨_, hok⟩ := exists_eq_ok hresult
  have hobtains : Obtains onLocalhost (renewal ['x']) later := .refresh (Prod.ext hok rfl)
  have hlives : 0 < Token.ttl (some "e30.eyJleHAiOjQxMDI0NDQ4MDB9.x") ⟨0, 0⟩ := by decide +kernel
  have htext : isHeaderText "e30.eyJleHAiOjQxMDI0NDQ4MDB9.x" = true := by decide
  have hanswer : ∀ r, (later.peer.answer r).1 = none := fun r => by
    unfold Peer.answer
    rw [hpeer]
    split <;> rfl
  obtain ⟨token, htoken, hpresents⟩ := isAuthenticated_presents hobtains ⟨0, 0⟩
  obtain rfl : token = "e30.eyJleHAiOjQxMDI0NDQ4MDB9.x" := Option.some.inj (htoken.symm.trans hstored)
  obtain ⟨r, hposts, -, hexchanges, -⟩ := (hpresents hlives).1 htext hplace
  rw [hanswer] at hexchanges
  exact ⟨hobtains, _, r, htoken, hlives, htext, hplace, hposts, hexchanges⟩

/-- A token that came with a line break behind it is stored, has not expired, and is dropped with nothing sent. -/
theorem isAuthenticated_drops_unasked :
    let refreshed := onLocalhost.refreshSession (renewal ['x', '\n'])
    let called := onLocalhost.isAuthenticated (refreshed.2.atTime ⟨0, 0⟩)
    isPlace onLocalhost.checks = true ∧ refreshed.1.toOption = some () ∧
    refreshed.2.session.state.token = some "e30.eyJleHAiOjQxMDI0NDQ4MDB9.x\n" ∧
    0 < Token.ttl (some "e30.eyJleHAiOjQxMDI0NDQ4MDB9.x\n") ⟨0, 0⟩ ∧
    called.2.exchanges.length = refreshed.2.exchanges.length ∧ called.2.session.state = .none ∧
    called.2.session.storage.find? tokenKey = none := by
  decide +kernel

end Client

end HostingClient
