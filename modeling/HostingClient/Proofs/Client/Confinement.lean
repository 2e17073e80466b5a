import HostingClient.Proofs.Client.Run

/-! # Credentials

An operation shows the key of the client, the token of the session, or neither. Two runs of one operation that differ
in a credential that it does not show are the same to the other side and to the caller, and two that differ in the
one that it shows are the same but for the credentials in their requests (`Client.perform_confined`). Runs are
compared through a view of requests, which may hide the credentials (`Surroundings.Alike`). -/

namespace HostingClient

/-- What an operation shows of the client and its session. -/
inductive Mode where
  | key
  | session
  | neither
deriving DecidableEq, Repr

/-- What an operation shows. -/
def Operation.mode : {α : Type} → Operation α → Mode
  | _, .registerUser _ _ _ | _, .validateUser _ _ | _, .getTemplates => .neither
  | _, .createToken _ _ | _, .validateToken _ | _, .refreshToken _ => .neither
  | _, .getVersion _ _ | _, .getLatestVersion _ | _, .getAllVersions _ | _, .getDownloadCountForVersion _ _ => .key
  | _, .getSecret _ _ | _, .getSecretDecrypted _ _ | _, .getAllSecrets _ => .key
  | _, .createSecret _ _ _ _ | _, .updateSecret _ _ _ _ | _, .deleteSecret _ _ => .key
  | _, .getAllMavenRepositories _ | _, .getMavenRepository _ _ => .key
  | _, .getAllMavenArtifacts _ _ | _, .getMavenArtifact _ _ _ => .key
  | _, .kvDelete _ _ _ | _, .kvDeleteMultiple _ _ _ | _, .kvDeleteAll _ _ | _, .kvExists _ _ _ => .key
  | _, .kvGet _ _ _ | _, .kvGetMultiple _ _ _ | _, .kvGetAll _ _ => .key
  | _, .kvKeys _ _ | _, .kvCount _ _ | _, .kvSize _ _ => .key
  | _, _ => .session

/-- Whether a credential is what a mode shows. -/
def Mode.Allows : Mode → Credential → Prop
  | key, credential => credential = .apiKey
  | session, credential => credential = .session
  | neither, credential => credential ≠ .apiKey ∧ credential ≠ .session

/-- **Every operation has the credential of its mode.** -/
theorem Operation.mode_allows {α : Type} (op : Operation α) : op.mode.Allows op.endpoint.credential := by
  cases op
  case registerUser | validateUser | getTemplates | createToken | validateToken | refreshToken => exact ⟨nofun, nofun⟩
  all_goals rfl

theorem Operation.mode_of_isPrivileged {α : Type} {op : Operation α} (h : op.isPrivileged = true) :
    op.mode = .session := by
  cases op <;> cases h <;> rfl

/-! ### Views -/

/-- The request without what it shows of its sender. -/
def Request.masked (r : Request) : Request := { r with authorization := r.authorization.map fun _ => "" }

/-- An exchange as a view of requests shows it. -/
def Exchange.seen (view : Request → Request) (x : Exchange) : Exchange := { x with request := view x.request }

namespace Surroundings

variable {σ τ α : Type} {view : Request → Request} {s : Surroundings σ} {s' : Surroundings τ}

/-- Surroundings that are the same but for the session, and for what a view of requests hides. -/
structure Alike (view : Request → Request) (s : Surroundings σ) (s' : Surroundings τ) : Prop where
  queue : s.queue = s'.queue
  peer : s.peer = s'.peer
  exchanges : s.exchanges.map (Exchange.seen view) = s'.exchanges.map (Exchange.seen view)

/-- The same surroundings with another session. -/
def withSession (s : Surroundings σ) (session : Session τ) : Surroundings τ := { s with session }

theorem alike_withSession (view : Request → Request) (s : Surroundings σ) (session : Session τ) :
    s.Alike view (s.withSession session) := ⟨rfl, rfl, rfl⟩

theorem Alike.reporting (h : s.Alike view s') (x : Except ClientError α) :
    (s.reporting x).Alike view (s'.reporting x) := by
  cases x with
  | ok a => exact h
  | error e => exact ⟨congrArg (Option.map _) h.queue, h.peer, h.exchanges⟩

end Surroundings

/-- Two runs of a call that are alike, with the same result. -/
structure AlikeRuns {σ τ α : Type} (view : Request → Request) (run : Except ClientError α × Surroundings σ)
    (run' : Except ClientError α × Surroundings τ) : Prop where
  result : run.1 = run'.1
  later : run.2.Alike view run'.2

namespace Client

/-- The client with another key, or without one. -/
def withKey (c : Client) (key : Option String) : Client := ⟨{ c.settings with apiKey := key }⟩

/-- Header values of two runs: the same one, or two that may be sent and that the view hides. -/
inductive Headers : (view : Request → Request) → Option String → Option String → Prop
  | same (view : Request → Request) (header : Option String) : Headers view header header
  | hidden {header header' : String} (h : isHeaderText header = true) (h' : isHeaderText header' = true) :
    Headers Request.masked (some header) (some header')

/-- Sessions of two runs: with the same token and the same time left, or both with a token that is still valid, may
be sent and is hidden by the view. -/
inductive Logins {σ τ : Type} : (view : Request → Request) → Session σ → Session τ → Prop
  | same (view : Request → Request) {s : Session σ} {s' : Session τ} (htoken : s.state.token = s'.state.token)
    (httl : s.ttl = s'.ttl) : Logins view s s'
  | hidden {s : Session σ} {s' : Session τ} {token token' : String} (htoken : s.state.token = some token)
    (htoken' : s'.state.token = some token') (httl : s.ttl ≠ 0) (httl' : s'.ttl ≠ 0)
    (htext : isHeaderText token = true) (htext' : isHeaderText token' = true) : Logins Request.masked s s'

variable {σ τ α : Type} {c : Client} {key : Option String} {view : Request → Request}
  {s : Surroundings σ} {s' : Surroundings τ}

/-! ### One call -/

/-- Calls that differ in the credential alone. -/
structure SameCall (e e' : Endpoint α) : Prop where
  place : e.service = e'.service ∧ e.path = e'.path ∧ e.query = e'.query
  request : e.method = e'.method ∧ e.accept = e'.accept ∧ e.body = e'.body
  outcome : e.outcome = e'.outcome

theorem SameCall.refl (e : Endpoint α) : SameCall e e := ⟨⟨rfl, rfl, rfl⟩, ⟨rfl, rfl, rfl⟩, rfl⟩

theorem sameCall_validateToken (token token' : String) :
    SameCall (Operation.validateToken token).endpoint (Operation.validateToken token').endpoint :=
  ⟨⟨rfl, rfl, rfl⟩, ⟨rfl, rfl, rfl⟩, rfl⟩

theorem withKey_baseUrl (service : Service) : (c.withKey key).baseUrl service = c.baseUrl service := by
  cases service <;> rfl

theorem SameCall.address_eq {e e' : Endpoint α} (h : SameCall e e') : c.address e = (c.withKey key).address e' := by
  obtain ⟨hservice, hpath, -⟩ := h.place
  rw [address, address, hservice, hpath, withKey_baseUrl]

theorem Headers.all_isHeaderText {header header' : Option String} (h : Headers view header header')
    (user : Option String) :
    (user.toList ++ header.toList).all isHeaderText = (user.toList ++ header'.toList).all isHeaderText := by
  cases h with
  | same => rfl
  | hidden h h' => simp [h, h']

theorem Headers.view_eq {header header' : Option String} (h : Headers view header header') (r : Request)
    (user : Option String) : view { r with authorization := user.toList ++ header.toList } =
      view { r with authorization := user.toList ++ header'.toList } := by
  cases h with
  | same => rfl
  | hidden => simp [Request.masked]

variable {e e' : Endpoint α} {token token' : Option String}

theorem request_alike (h : SameCall e e')
    (hheader : Headers view (c.authorization token e.credential) ((c.withKey key).authorization token' e'.credential)) :
    (c.request e token).map view = ((c.withKey key).request e' token').map view := by
  obtain ⟨-, -, hquery⟩ := h.place
  obtain ⟨hmethod, haccept, hbody⟩ := h.request
  have haddress : c.address e = (c.withKey key).address e' := h.address_eq
  cases hu : (c.withKey key).address e' with
  | error f =>
    rw [request, request, haddress, hu]
    rfl
  | ok u =>
    rw [request_of_address (haddress.trans hu), request_of_address hu, hquery, hmethod, haccept, hbody]
    dsimp only
    rw [hheader.all_isHeaderText]
    split
    · rfl
    · split
      · rfl
      · exact congrArg Except.ok (hheader.view_eq ⟨e'.method, _, [], e'.accept, c.settings.userAgent, e'.body⟩ _)

theorem answer_eq (p : Peer) {r r' : Request} (h : r.url = r'.url) : p.answer r = p.answer r' := by
  unfold Peer.answer Peer.gets
  rw [h]

variable (hview : ∀ r, (view r).url = r.url)
include hview

theorem exchanged_alike {r r' : Request} (hs : s.Alike view s') (hr : view r = view r') :
    (s.exchanged r).Alike view (s'.exchanged r') := by
  have hurl : r.url = r'.url := by rw [← hview r, hr, hview]
  have hanswer : s.peer.answer r = s'.peer.answer r' := by rw [hs.peer, answer_eq _ hurl]
  refine ⟨hs.queue, congrArg Prod.snd hanswer, ?_⟩
  rw [Surroundings.exchanged, Surroundings.exchanged, List.map_append, List.map_append, hs.exchanges, hanswer]
  simp [Exchange.seen, hr]

/-- **Calls that differ in a hidden credential are alike.** -/
theorem call_alike (h : SameCall e e') (hs : s.Alike view s')
    (hheader : Headers view (c.authorization s.session.state.token e.credential)
      ((c.withKey key).authorization s'.session.state.token e'.credential)) :
    AlikeRuns view (c.call e s) ((c.withKey key).call e' s') := by
  have hrequest := request_alike h hheader
  cases hr : c.request e s.session.state.token with
  | error f =>
    cases hr' : (c.withKey key).request e' s'.session.state.token with
    | error f' =>
      rw [hr, hr'] at hrequest
      cases hrequest
      rw [call_eq_fail hr, call_eq_fail hr', Action.fail_apply, Action.fail_apply]
      exact ⟨rfl, hs.reporting (.error (.request f) : Except ClientError α)⟩
    | ok r' =>
      rw [hr, hr'] at hrequest
      cases hrequest
  | ok r =>
    cases hr' : (c.withKey key).request e' s'.session.state.token with
    | error f' =>
      rw [hr, hr'] at hrequest
      cases hrequest
    | ok r' =>
      rw [hr, hr'] at hrequest
      have hseen : view r = view r' := Except.ok.inj hrequest
      have hurl : r.url = r'.url := by rw [← hview r, hseen, hview]
      have hreceived : received e r (s.peer.answer r).1 = received e' r' (s'.peer.answer r').1 := by
        rw [hs.peer, answer_eq _ hurl, received, received, hurl, h.outcome]
      rw [call_eq_ok hr, call_eq_ok hr', hreceived]
      exact ⟨rfl, (exchanged_alike hview hs hseen).reporting _⟩

omit hview

/-! ### Operations -/

theorem withKey_authorization (c : Client) (key token token' : Option String) {credential : Credential}
    (h : Mode.neither.Allows credential) :
    (c.withKey key).authorization token' credential = c.authorization token credential := by
  cases credential with
  | apiKey => exact absurd rfl h.1
  | session => exact absurd rfl h.2
  | _ => rfl

theorem Logins.headers {login : Session σ} {login' : Session τ} (h : Logins view login login') :
    Headers view (login.state.token.map bearer) (login'.state.token.map bearer) := by
  cases h with
  | same _ htoken _ =>
    rw [htoken]
    exact .same ..
  | hidden htoken htoken' _ _ htext htext' =>
    rw [htoken, htoken']
    exact .hidden ((isHeaderText_bearer _).trans htext) ((isHeaderText_bearer _).trans htext')

variable [Storage σ] [Storage τ] {op : Operation α}

theorem perform_alike_denied {denied : Session σ} {denied' : Session τ} (hop : op.endpoint.isGated = true)
    (hs : s.Alike view s') (h : s.session.check = .denied denied) (h' : s'.session.check = .denied denied') :
    AlikeRuns view (c.perform op s) ((c.withKey key).perform op s') := by
  rw [perform_refused hop (isAuthenticated_denied h), perform_refused hop (isAuthenticated_denied h')]
  have hdenied : (s.withSession denied).Alike view (s'.withSession denied') := ⟨hs.queue, hs.peer, hs.exchanges⟩
  exact ⟨rfl, hdenied.reporting (.error .notLoggedIn : Except ClientError α)⟩

theorem perform_alike_asked {token token' : String} (hview : ∀ r, (view r).url = r.url)
    (hop : op.isPrivileged = true) (hs : s.Alike view s') (htoken : s.session.state.token = some token)
    (htoken' : s'.session.state.token = some token') (h : s.session.check = .ask token)
    (h' : s'.session.check = .ask token') (hheader : Headers view (some (bearer token)) (some (bearer token'))) :
    AlikeRuns view (c.perform op s) ((c.withKey key).perform op s') := by
  have hgated := (Operation.isGated_eq op).trans hop
  have hcall : AlikeRuns view (c.call (Operation.validateToken token).endpoint s)
      ((c.withKey key).call (Operation.validateToken token').endpoint s') :=
    call_alike hview (sameCall_validateToken token token') hs hheader
  have hsession := (call_extends c (.validateToken token) s).2
  have hsession' := (call_extends (c.withKey key) (.validateToken token') s').2
  rcases hc : c.call (Operation.validateToken token).endpoint s with ⟨verdict, asked⟩
  rcases hc' : (c.withKey key).call (Operation.validateToken token').endpoint s' with ⟨verdict', asked'⟩
  rw [hc] at hcall hsession
  rw [hc'] at hcall hsession'
  obtain ⟨hverdict, hasked⟩ := hcall
  dsimp only at hverdict hasked hsession hsession'
  have hanswer := isAuthenticated_ask h hc
  have hanswer' := isAuthenticated_ask h' hc'
  rw [hverdict, Session.settle_snd, hsession] at hanswer
  rw [Session.settle_snd, hsession'] at hanswer'
  -- a settled session is a third one on each side, which the surroundings do not show
  have hsettled : ∀ (login : Session σ) (login' : Session τ),
      (asked.withSession login).Alike view (asked'.withSession login') := fun _ _ =>
    ⟨hasked.queue, hasked.peer, hasked.exchanges⟩
  cases hb : decide (verdict'.toOption = some true) with
  | false =>
    rw [hb] at hanswer hanswer'
    rw [perform_refused hgated hanswer, perform_refused hgated hanswer']
    exact ⟨rfl, (hsettled _ _).reporting (.error .notLoggedIn : Except ClientError α)⟩
  | true =>
    rw [hb, if_pos (.inl rfl)] at hanswer hanswer'
    rw [perform_admitted hgated hanswer, perform_admitted hgated hanswer']
    refine call_alike hview (.refl _) (hsettled _ _) ?_
    rw [(Operation.endpoint_of_isPrivileged hop).1]
    change Headers view (s.session.state.token.map bearer) (s'.session.state.token.map bearer)
    rw [htoken, htoken']
    exact hheader

theorem perform_alike_gated (hview : ∀ r, (view r).url = r.url) (hop : op.isPrivileged = true) (hs : s.Alike view s')
    (hlogin : Logins view s.session s'.session) :
    AlikeRuns view (c.perform op s) ((c.withKey key).perform op s') := by
  have hgated := (Operation.isGated_eq op).trans hop
  have hheader := hlogin.headers
  cases hlogin with
  | same _ htoken httl =>
    cases hown : s.session.state.token with
    | none =>
      have hother := htoken.symm.trans hown
      exact perform_alike_denied hgated hs (Session.check_eq_denied_self hown) (Session.check_eq_denied_self hother)
    | some token =>
      have hother := htoken.symm.trans hown
      rw [Session.ttl, Session.ttl, hown, hother] at httl
      by_cases hzero : Token.ttl (some token) s.session.now = 0
      · exact perform_alike_denied hgated hs (Session.check_eq_denied hown hzero)
          (Session.check_eq_denied hother (httl.symm.trans hzero))
      · exact perform_alike_asked hview hop hs hown hother (Session.check_eq_ask hown hzero)
          (Session.check_eq_ask hother (httl ▸ hzero)) (.same ..)
  | hidden htoken htoken' httl httl' htext htext' =>
    rw [Session.ttl, htoken] at httl
    rw [Session.ttl, htoken'] at httl'
    rw [htoken, htoken'] at hheader
    exact perform_alike_asked hview hop hs htoken htoken' (Session.check_eq_ask htoken httl)
      (Session.check_eq_ask htoken' httl') hheader

/-- What two runs of an operation may differ in: nothing that it shows, or what the view hides. -/
def Compares (view : Request → Request) (mode : Mode) (key key' : Option String) (login : Session σ)
    (login' : Session τ) : Prop :=
  match mode with
  | .key => Headers view key key'
  | .session => Logins view login login'
  | .neither => True

theorem perform_alike (hview : ∀ r, (view r).url = r.url) (hs : s.Alike view s')
    (h : Compares view op.mode c.settings.apiKey key s.session s'.session) :
    AlikeRuns view (c.perform op s) ((c.withKey key).perform op s') := by
  have hallows := op.mode_allows
  cases hgated : op.endpoint.isGated with
  | true =>
    have hop := (Operation.isGated_eq op).symm.trans hgated
    rw [Operation.mode_of_isPrivileged hop] at h
    exact perform_alike_gated hview hop hs h
  | false =>
    rw [perform_open hgated, perform_open hgated]
    refine call_alike hview (.refl _) hs ?_
    cases hmode : op.mode with
    | key =>
      rw [hmode] at h hallows
      rw [show op.endpoint.credential = .apiKey from hallows]
      exact h
    | session =>
      rw [hmode] at h hallows
      rw [show op.endpoint.credential = .session from hallows]
      exact h.headers
    | neither =>
      rw [hmode] at hallows
      rw [withKey_authorization c key s.session.state.token s'.session.state.token hallows]
      exact .same ..

/-- Whether a client has a key that may be sent. -/
def HasKey (c : Client) : Prop := ∃ key, c.settings.apiKey = some key ∧ isHeaderText key = true

/-- Whether a session has a token that is still valid and may be sent. -/
def IsLive (s : Session σ) : Prop := ∃ token, s.state.token = some token ∧ isHeaderText token = true ∧ s.ttl ≠ 0

/-- **A credential is shown by the operations of its kind alone, and nowhere but in its header.** -/
theorem perform_confined (c : Client) (key : Option String) (op : Operation α) (s : Surroundings σ)
    (login : Session τ) :
    let run := c.perform op s
    let run' := (c.withKey key).perform op (s.withSession login)
    (op.mode = .neither ∨ op.mode = .key ∧ c.settings.apiKey = key ∨
        op.mode = .session ∧ s.session.state.token = login.state.token ∧ s.session.ttl = login.ttl →
      AlikeRuns id run run') ∧
    (op.mode = .key ∧ c.HasKey ∧ (c.withKey key).HasKey ∨ op.mode = .session ∧ IsLive s.session ∧ IsLive login →
      AlikeRuns Request.masked run run') := by
  intro run run'
  constructor
  · intro h
    refine perform_alike (fun _ => rfl) (Surroundings.alike_withSession ..) ?_
    rcases h with hmode | ⟨hmode, hkey⟩ | ⟨hmode, htoken, httl⟩
    · rw [hmode]
      trivial
    · rw [hmode, hkey]
      exact Headers.same ..
    · rw [hmode]
      exact Logins.same _ htoken httl
  · intro h
    refine perform_alike (fun _ => rfl) (Surroundings.alike_withSession ..) ?_
    rcases h with ⟨hmode, ⟨own, hown, htext⟩, ⟨other, hother, htext'⟩⟩ |
      ⟨hmode, ⟨token, htoken, htext, httl⟩, ⟨token', htoken', htext', httl'⟩⟩
    · have hkey : key = some other := hother
      rw [hmode, hown, hkey]
      exact Headers.hidden htext htext'
    · rw [hmode]
      exact Logins.hidden htoken htoken' httl httl' htext htext'

/-- Two users with different keys and different logins delete a key alike. -/
theorem perform_confined_two :
    let c := onLocalhost.withKey (some "first")
    let op := Operation.deleteApiKey "7"
    let login : Session (Dict String) := ⟨⟨some "e30.eyJleHAiOjQxMDI0NDQ4MDB9.other", none⟩, .empty, ⟨7, 0⟩⟩
    op.mode = .session ∧ IsLive admitting.session ∧ IsLive login ∧
      AlikeRuns Request.masked (c.perform op admitting)
        ((c.withKey (some "second")).perform op (admitting.withSession login)) := by
  intro c op login
  have hlive : IsLive admitting.session := ⟨_, rfl, by decide, by decide +kernel⟩
  have hlive' : IsLive login := ⟨_, rfl, by decide, by decide +kernel⟩
  exact ⟨rfl, hlive, hlive', (perform_confined c (some "second") op admitting login).2 (.inr ⟨rfl, hlive, hlive'⟩)⟩

end Client

end HostingClient
