import HostingClient.Proofs.Client.Gate

/-! # Runs of a client

What can be done with a client and its session, step by step. Every request that a step sends is the request of an
operation that the step involves (`ClientStep.perform_extends`), and the session after a step is the one before it
with some changes, or with what its storage holds (`ClientStep.moved_perform`). -/

namespace HostingClient

namespace Surroundings

variable {σ : Type} {s mid later : Surroundings σ} {p q : Exchange → Prop}

/-- The later surroundings have the exchanges of the earlier ones, and behind them only exchanges of some kind. -/
def Extends (s later : Surroundings σ) (p : Exchange → Prop) : Prop :=
  ∃ sent, later.exchanges = s.exchanges ++ sent ∧ ∀ x ∈ sent, p x

theorem extends_of_eq (h : later.exchanges = s.exchanges) : s.Extends later p :=
  ⟨[], h.trans (List.append_nil _).symm, fun _ hx => absurd hx List.not_mem_nil⟩

theorem Extends.trans (h : s.Extends mid p) (h' : mid.Extends later p) : s.Extends later p := by
  obtain ⟨sent, hsent, hp⟩ := h
  obtain ⟨sent', hsent', hp'⟩ := h'
  refine ⟨sent ++ sent', by rw [hsent', hsent, List.append_assoc], fun x hx => ?_⟩
  rcases List.mem_append.mp hx with hx | hx
  · exact hp x hx
  · exact hp' x hx

theorem Extends.mono (h : s.Extends later p) (hpq : ∀ x, p x → q x) : s.Extends later q := by
  obtain ⟨sent, hsent, hp⟩ := h
  exact ⟨sent, hsent, fun x hx => hpq x (hp x hx)⟩

/-- The text of the last answer that came back. -/
def lastText (s : Surroundings σ) : Option String :=
  s.exchanges.getLast?.bind fun x => x.answer.map Reply.text

end Surroundings

/-! ### What the actions of a client send and do -/

namespace Client

variable {σ α : Type} {c : Client} {s : Surroundings σ}

/-- Whether a request is the one of an operation, given the session. -/
def Writes (c : Client) (s : Surroundings σ) (op : Operation α) (r : Request) : Prop :=
  c.request op.endpoint s.session.state.token = .ok r

theorem call_extends (c : Client) (op : Operation α) (s : Surroundings σ) :
    s.Extends (c.call op.endpoint s).2 (fun x => c.Writes s op x.request) ∧
      (c.call op.endpoint s).2.session = s.session := by
  cases h : c.request op.endpoint s.session.state.token with
  | error f =>
    rw [call_eq_fail h]
    exact ⟨Surroundings.extends_of_eq rfl, rfl⟩
  | ok r =>
    obtain ⟨-, hsession, -, hexchanges⟩ := call_sent h
    refine ⟨⟨_, hexchanges, fun x hx => ?_⟩, hsession⟩
    rw [List.mem_singleton.mp hx]
    exact h

/-- A text that a call gives is what the last answer says. -/
theorem lastText_call (op : Operation String) (hcontent : op.endpoint.content = .nonBlank) {text : String}
    (h : (c.call op.endpoint s).1 = .ok text) : (c.call op.endpoint s).2.lastText = some text := by
  cases hr : c.request op.endpoint s.session.state.token with
  | error f =>
    rw [call_eq_fail hr] at h
    cases h
  | ok r =>
    obtain ⟨hresult, -, -, hexchanges⟩ := call_sent hr
    rw [hresult] at h
    rw [Surroundings.lastText, hexchanges, List.getLast?_concat]
    cases ha : (s.peer.answer r).1 with
    | none =>
      rw [ha] at h
      cases h
    | some reply =>
      rw [ha, Option.elim_some] at h
      unfold Endpoint.outcome at h
      split at h
      · rw [hcontent] at h
        obtain ⟨body, hbody, h⟩ := bind_eq_ok.mp h
        unfold Endpoint.bodyText at hbody
        split at hbody
        · cases hbody
        · cases hbody
          split at h
          · cases h
          · cases h
            rfl
      · cases h

variable [Storage σ]

theorem perform_open {op : Operation α} (h : op.endpoint.isGated = false) (s : Surroundings σ) :
    c.perform op s = c.call op.endpoint s := by
  unfold perform
  rw [h]
  rfl

/-- Asking for a login sends the token of the session at most, and logs out unless the answer is yes. -/
theorem isAuthenticated_extends (c : Client) (s : Surroundings σ) :
    s.Extends (c.isAuthenticated s).2 (fun x => ∃ token, s.session.state.token = some token ∧
        c.Writes s (.validateToken token) x.request) ∧
      ((c.isAuthenticated s).1 = .ok true ∧ (c.isAuthenticated s).2.session = s.session ∨
        (c.isAuthenticated s).1 = .ok false ∧
          ((c.isAuthenticated s).2.session = s.session ∧ s.session.state.token = none ∨
            (c.isAuthenticated s).2.session = s.session.clearUser)) := by
  cases htoken : s.session.state.token with
  | none =>
    rw [isAuthenticated_denied (Session.check_eq_denied_self htoken)]
    exact ⟨Surroundings.extends_of_eq rfl, .inr ⟨rfl, .inl ⟨rfl, rfl⟩⟩⟩
  | some token =>
    by_cases httl : Token.ttl (some token) s.session.now = 0
    · rw [isAuthenticated_denied (Session.check_eq_denied htoken httl)]
      exact ⟨Surroundings.extends_of_eq rfl, .inr ⟨rfl, .inr rfl⟩⟩
    · obtain ⟨⟨sent, hsent, hwrites⟩, hsession⟩ := call_extends c (.validateToken token) s
      cases hcall : c.call (Operation.validateToken token).endpoint s with
      | mk verdict asked =>
        rw [hcall] at hsent hsession
        dsimp only at hsent hsession
        rw [isAuthenticated_ask (Session.check_eq_ask htoken httl) hcall, Session.settle_snd, hsession]
        refine ⟨⟨sent, hsent, fun x hx => ⟨token, rfl, hwrites x hx⟩⟩, ?_⟩
        dsimp only
        cases decide (verdict.toOption = some true) with
        | true => exact .inl ⟨rfl, if_pos (.inl rfl)⟩
        | false => exact .inr ⟨rfl, .inr (if_neg (by simp [htoken]))⟩

/-- An operation sends its own request at most, and before it the token of the session if it is privileged. -/
theorem perform_extends (c : Client) (op : Operation α) (s : Surroundings σ) :
    s.Extends (c.perform op s).2 (fun x => c.Writes s op x.request ∨
        op.isPrivileged = true ∧ ∃ token, s.session.state.token = some token ∧
          c.Writes s (.validateToken token) x.request) ∧
      ((c.perform op s).2.session = s.session ∨ (c.perform op s).2.session = s.session.clearUser) := by
  obtain ⟨hown, hkept⟩ := call_extends c op s
  cases hgated : op.endpoint.isGated with
  | false =>
    rw [perform_open hgated]
    exact ⟨hown.mono fun x hx => .inl hx, .inl hkept⟩
  | true =>
    have hop : op.isPrivileged = true := (Operation.isGated_eq op).symm.trans hgated
    obtain ⟨hasked, hsession⟩ := isAuthenticated_extends c s
    have hasked := hasked.mono (q := fun x => c.Writes s op x.request ∨
      op.isPrivileged = true ∧ ∃ token, s.session.state.token = some token ∧
        c.Writes s (.validateToken token) x.request) fun x hx => .inr ⟨hop, hx⟩
    cases hanswer : c.isAuthenticated s with
    | mk answer asked =>
      rw [hanswer] at hasked hsession
      dsimp only at hasked hsession
      rcases hsession with ⟨rfl, hsession⟩ | ⟨rfl, hsession⟩
      · obtain ⟨hown', hkept'⟩ := call_extends c op asked
        rw [perform_admitted hgated hanswer]
        refine ⟨hasked.trans (hown'.mono fun x hx => .inl ?_), .inl (hkept'.trans hsession)⟩
        rw [Writes, ← hsession]
        exact hx
      · rw [perform_refused hgated hanswer]
        exact ⟨hasked, hsession.imp And.left id⟩

section
variable {email password : String} {mid later : Surroundings σ} {user : Profile}

/-- A login whose check fails ends with it. -/
theorem login_of_unchecked {e : ClientError}
    (h : c.call (Operation.validateUser email password).endpoint s = (.error e, mid)) :
    c.login email password s = (.error e, mid) :=
  Action.bind_error ((perform_open rfl s).trans h) _

/-- A login that gets no token ends without one. -/
theorem login_of_uncreated {e : ClientError}
    (h : c.call (Operation.validateUser email password).endpoint s = (.ok user, mid))
    (h' : c.call (Operation.createToken email password).endpoint mid = (.error e, later)) :
    c.login email password s = (.error e, later) :=
  (Action.bind_ok ((perform_open rfl s).trans h) _).trans (Action.bind_error ((perform_open rfl mid).trans h') _)

theorem login_of_created {token : String}
    (h : c.call (Operation.validateUser email password).endpoint s = (.ok user, mid))
    (h' : c.call (Operation.createToken email password).endpoint mid = (.ok token, later)) :
    c.login email password s = (.ok user, { later with session := (later.session.setToken token).setUser user }) :=
  (Action.bind_ok ((perform_open rfl s).trans h) _).trans (Action.bind_ok ((perform_open rfl mid).trans h') _)

end

/-- A login sends the credentials twice at most. It changes the session only if it succeeds, and then the last answer
is the token. -/
theorem login_extends (c : Client) (email password : String) (s : Surroundings σ) :
    s.Extends (c.login email password s).2 (fun x => c.Writes s (.validateUser email password) x.request ∨
        c.Writes s (.createToken email password) x.request) ∧
      ((∃ e, (c.login email password s).1 = .error e) ∧ (c.login email password s).2.session = s.session ∨
        ∃ user token, (c.login email password s).1 = .ok user ∧
          (c.login email password s).2.session = (s.session.setToken token).setUser user ∧
          (c.login email password s).2.lastText = some token) := by
  obtain ⟨hchecked, hkept⟩ := call_extends c (.validateUser email password) s
  have hchecked := hchecked.mono (q := fun x => c.Writes s (.validateUser email password) x.request ∨
    c.Writes s (.createToken email password) x.request) fun x hx => .inl hx
  rcases hcheck : c.call (Operation.validateUser email password).endpoint s with ⟨e | user, mid⟩
  · rw [hcheck] at hchecked hkept
    rw [login_of_unchecked hcheck]
    exact ⟨hchecked, .inl ⟨⟨e, rfl⟩, hkept⟩⟩
  rw [hcheck] at hchecked hkept
  obtain ⟨hcreated, hkept'⟩ := call_extends c (.createToken email password) mid
  have hsent := hchecked.trans (hcreated.mono fun x hx => .inr (by rw [Writes, ← hkept]; exact hx))
  rcases hcreate : c.call (Operation.createToken email password).endpoint mid with ⟨e | token, later⟩
  · rw [hcreate] at hsent hkept'
    rw [login_of_uncreated hcheck hcreate]
    exact ⟨hsent, .inl ⟨⟨e, rfl⟩, hkept'.trans hkept⟩⟩
  · have htext := lastText_call (.createToken email password) rfl (congrArg Prod.fst hcreate)
    rw [hcreate] at hsent hkept' htext
    rw [login_of_created hcheck hcreate]
    refine ⟨hsent, .inr ⟨user, token, rfl, ?_, htext⟩⟩
    change (later.session.setToken token).setUser user = _
    rw [hkept'.trans hkept]

/-- A refresh without a token ends before anything happens. -/
theorem refreshDuring_none (meanwhile : Session σ → Session σ) (h : s.session.state.token = none) :
    c.refreshDuring meanwhile s = Action.fail .notLoggedIn s := by
  unfold refreshDuring
  rw [Action.bind_ok Action.get_apply, h]

theorem refreshDuring_some (meanwhile : Session σ → Session σ) {current : String}
    (h : s.session.state.token = some current) : c.refreshDuring meanwhile s =
    (c.perform (.refreshToken current) >>= fun token => Action.onSession (·.setToken token) : Action σ Unit)
      { s with session := meanwhile s.session } := by
  have hmeanwhile : (Action.onSession meanwhile : Action σ Unit) s =
      (.ok (), { s with session := meanwhile s.session }) := rfl
  unfold refreshDuring
  rw [Action.bind_ok Action.get_apply, h]
  exact Action.bind_ok hmeanwhile _

theorem refreshSession_some {current : String} (h : s.session.state.token = some current) : c.refreshSession s =
    (c.perform (.refreshToken current) >>= fun token => Action.onSession (·.setToken token) : Action σ Unit) s :=
  refreshDuring_some id h

section
variable (meanwhile : Session σ → Session σ) {current : String} {later : Surroundings σ}

/-- A refresh that gets no token ends without one. -/
theorem refreshDuring_of_untraded {e : ClientError} (htoken : s.session.state.token = some current)
    (h : c.call (Operation.refreshToken current).endpoint { s with session := meanwhile s.session } =
      (.error e, later)) : c.refreshDuring meanwhile s = (.error e, later) := by
  have hperform : c.perform (.refreshToken current) { s with session := meanwhile s.session } = (.error e, later) :=
    (perform_open rfl _).trans h
  rw [refreshDuring_some meanwhile htoken]
  exact Action.bind_error hperform _

theorem refreshDuring_of_traded {token : String} (htoken : s.session.state.token = some current)
    (h : c.call (Operation.refreshToken current).endpoint { s with session := meanwhile s.session } =
      (.ok token, later)) :
    c.refreshDuring meanwhile s = (.ok (), { later with session := later.session.setToken token }) := by
  have hperform : c.perform (.refreshToken current) { s with session := meanwhile s.session } = (.ok token, later) :=
    (perform_open rfl _).trans h
  rw [refreshDuring_some meanwhile htoken]
  exact Action.bind_ok hperform _

end

/-- A refresh sends the token of the session at most. It changes the session only if it succeeds, and then the answer
is the token. -/
theorem refreshSession_extends (c : Client) (s : Surroundings σ) :
    s.Extends (c.refreshSession s).2 (fun x => ∃ token, s.session.state.token = some token ∧
        c.Writes s (.refreshToken token) x.request) ∧
      ((∃ e, (c.refreshSession s).1 = .error e) ∧ (c.refreshSession s).2.session = s.session ∨
        ∃ token, (c.refreshSession s).1 = .ok () ∧ (c.refreshSession s).2.session = s.session.setToken token ∧
          (c.refreshSession s).2.lastText = some token) := by
  cases htoken : s.session.state.token with
  | none =>
    rw [refreshSession, refreshDuring_none id htoken]
    exact ⟨Surroundings.extends_of_eq rfl, .inl ⟨⟨_, rfl⟩, rfl⟩⟩
  | some current =>
    obtain ⟨hsent, hkept⟩ := call_extends c (.refreshToken current) s
    have hsent := hsent.mono (q := fun x => ∃ token, some current = some token ∧
      c.Writes s (.refreshToken token) x.request) fun x hx => ⟨current, rfl, hx⟩
    rcases hcalled : c.call (Operation.refreshToken current).endpoint s with ⟨e | token, later⟩
    · rw [hcalled] at hsent hkept
      rw [refreshSession, refreshDuring_of_untraded id htoken hcalled]
      exact ⟨hsent, .inl ⟨⟨e, rfl⟩, hkept⟩⟩
    · have htext := lastText_call (.refreshToken current) rfl (congrArg Prod.fst hcalled)
      rw [hcalled] at hsent hkept htext
      rw [refreshSession, refreshDuring_of_traded id htoken hcalled]
      exact ⟨hsent, .inr ⟨token, rfl, congrArg (Session.setToken token) hkept, htext⟩⟩

end Client

/-! ### Steps -/

/-- What can be done with a client and its session. -/
inductive ClientStep : Type 1 where
  | call {α : Type} (op : Operation α)
  | login (email password : String)
  | refreshSession
  | logout
  | isAuthenticated
  /-- A change of the session itself. -/
  | change (c : SessionChange)
  | loadToken
  | loadUser
  /-- A new session over the same storage. -/
  | restart (now : Time.Instant)
  /-- Time goes by. -/
  | wait (now : Time.Instant)
  /-- The other side turns into another one. -/
  | meet (peer : Peer)

namespace ClientStep

variable {σ : Type} [Storage σ]

/-- Does a step. -/
def perform (c : Client) (s : Surroundings σ) : ClientStep → Surroundings σ
  | call op => (c.perform op s).2
  | login email password => (c.login email password s).2
  | refreshSession => (c.refreshSession s).2
  | logout => ((Client.logout : Action σ Unit) s).2
  | isAuthenticated => (c.isAuthenticated s).2
  | change d => { s with session := d.apply s.session }
  | loadToken => { s with session := s.session.loadToken.2 }
  | loadUser => { s with session := s.session.loadUser.2 }
  | restart now => { s with session := Session.restore s.session.storage now }
  | wait now => { s with session.now := now }
  | meet peer => { s with peer }

/-- Does some steps, one after the other. -/
def performAll (c : Client) (s : Surroundings σ) (steps : List ClientStep) : Surroundings σ :=
  steps.foldl (perform c) s

/-- The operations whose requests a step may send, given the token of the session. -/
inductive Involves (token : Option String) : ClientStep → {α : Type} → Operation α → Prop where
  | own {α : Type} (op : Operation α) : Involves token (call op) op
  | validation {x : ClientStep} {t : String} : token = some t → Involves token x (.validateToken t)
  | refresh {t : String} : token = some t → Involves token refreshSession (.refreshToken t)
  | check (email password : String) : Involves token (login email password) (.validateUser email password)
  | creation (email password : String) : Involves token (login email password) (.createToken email password)

/-- The token that a step brings into the session: one that is set, or the answer to a login or a refresh. -/
def newToken? (c : Client) (s : Surroundings σ) : ClientStep → Option String
  | change (.setToken token) => some token
  | login email password =>
    (c.login email password s).1.toOption.bind fun _ => (c.login email password s).2.lastText
  | refreshSession => (c.refreshSession s).1.toOption.bind fun _ => (c.refreshSession s).2.lastText
  | _ => none

/-- **What a step sends** are requests of operations that it involves. -/
theorem perform_extends (c : Client) (s : Surroundings σ) (x : ClientStep) :
    s.Extends (x.perform c s) fun e => ∃ (α : Type) (op : Operation α),
      Involves s.session.state.token x op ∧ c.Writes s op e.request := by
  cases x with
  | call op =>
    rw [perform]
    refine (Client.perform_extends c op s).1.mono ?_
    rintro e (h | ⟨-, token, htoken, h⟩)
    · exact ⟨_, op, .own op, h⟩
    · exact ⟨_, _, .validation htoken, h⟩
  | login email password =>
    rw [perform]
    refine (Client.login_extends c email password s).1.mono ?_
    rintro e (h | h)
    · exact ⟨_, _, .check email password, h⟩
    · exact ⟨_, _, .creation email password, h⟩
  | refreshSession =>
    rw [perform]
    refine (Client.refreshSession_extends c s).1.mono ?_
    rintro e ⟨token, htoken, h⟩
    exact ⟨_, _, .refresh htoken, h⟩
  | isAuthenticated =>
    rw [perform]
    refine (Client.isAuthenticated_extends c s).1.mono ?_
    rintro e ⟨token, htoken, h⟩
    exact ⟨_, _, .validation htoken, h⟩
  | _ => exact Surroundings.extends_of_eq rfl

variable [ReliableStorage σ]

/-- What a step makes of a session. -/
inductive Moved (s later : Session σ) (newToken : Option String) : Prop where
  /-- It was changed, and each token that was set is the new one. -/
  | changed (changes : List SessionChange) (h : later = SessionChange.applyAll s changes)
      (hnew : ∀ token, SessionChange.setToken token ∈ changes → newToken = some token)
  /-- It has the token that its storage holds. -/
  | loaded (hstorage : later.storage = s.storage)
      (htoken : later.state.token = (Session.loginIn (itemsOf s.storage)).token)
  /-- It has the token that it had. -/
  | kept (hstorage : later.storage = s.storage) (htoken : later.state.token = s.state.token)

/-- **What a step makes of the session.** -/
theorem moved_perform (c : Client) {s : Surroundings σ} (hs : ReliableStorage.IsSound s.session.storage)
    (x : ClientStep) : Moved s.session (x.perform c s).session (x.newToken? c s) := by
  have hcleared : ∀ {later : Session σ}, later = s.session ∨ later = s.session.clearUser →
      Moved s.session later (x.newToken? c s) := by
    rintro later (rfl | rfl)
    · exact .changed [] rfl (by simp)
    · exact .changed [.clearUser] rfl (by simp)
  cases x with
  | call op =>
    rw [perform]
    exact hcleared (Client.perform_extends c op s).2
  | login email password =>
    rw [perform]
    rcases (Client.login_extends c email password s).2 with ⟨-, hsession⟩ | ⟨user, token, hresult, hsession, htext⟩
    · exact hcleared (.inl hsession)
    · refine .changed [.setToken token, .setUser user] hsession fun t ht => ?_
      have heq : t = token := by simpa using ht
      rw [newToken?, hresult, htext, heq]
      rfl
  | refreshSession =>
    rw [perform]
    rcases (Client.refreshSession_extends c s).2 with ⟨-, hsession⟩ | ⟨token, hresult, hsession, htext⟩
    · exact hcleared (.inl hsession)
    · refine .changed [.setToken token] hsession fun t ht => ?_
      have heq : t = token := by simpa using ht
      rw [newToken?, hresult, htext, heq]
      rfl
  | logout => exact hcleared (.inr rfl)
  | isAuthenticated =>
    rw [perform]
    rcases (Client.isAuthenticated_extends c s).2 with ⟨-, hsession⟩ | ⟨-, ⟨hsession, -⟩ | hsession⟩
    · exact hcleared (.inl hsession)
    · exact hcleared (.inl hsession)
    · exact hcleared (.inr hsession)
  | change d =>
    refine .changed [d] rfl fun t ht => ?_
    rw [← List.mem_singleton.mp ht]
    rfl
  | loadToken =>
    rw [perform, Session.loadToken_eq hs]
    exact .loaded rfl rfl
  | loadUser =>
    rw [perform, Session.loadUser_eq hs]
    exact .kept rfl rfl
  | restart now =>
    rw [perform, Session.restore_eq hs]
    exact .loaded rfl rfl
  | wait now => exact .kept rfl rfl
  | meet peer => exact .kept rfl rfl

end ClientStep

end HostingClient
