import HostingClient.Proofs.Client.Call
import HostingClient.Proofs.Client.Request
import HostingClient.Proofs.Session.Authentication

/-! # The login gate

A privileged operation asks the identity provider about the token of the session before anything else is sent. What
is sent, what the call gives and what becomes of the session is told by `Client.perform_privileged`. -/

namespace HostingClient

/-- Whether an operation is for a user that is logged in. -/
def Operation.isPrivileged : {α : Type} → Operation α → Bool
  | _, .updateUser _ _ _ _ | _, .verifyUser _ | _, .resendVerificationCode => true
  | _, .getApiKeys | _, .createApiKey _ | _, .deleteApiKey _ => true
  | _, .createIssue _ _ | _, .updateIssue _ _ _ | _, .deleteIssue _ _ => true
  | _, .createBlogArticle _ _ _ _ | _, .updateBlogArticle _ _ _ _ | _, .deleteBlogArticle _ => true
  | _, .createDashboard _ _ | _, .updateDashboard _ _ _ | _, .deleteDashboard _ _ => true
  | _, .createMetric _ | _, .updateMetric _ | _, .deleteMetric _ _ => true
  | _, .applyTemplate _ _ => true
  | _, _ => false

/-- **Exactly the privileged operations ask for a login.** -/
theorem Operation.isGated_eq {α : Type} (op : Operation α) : op.endpoint.isGated = op.isPrivileged := by
  cases op <;> rfl

/-- What a privileged operation sends is sent in the name of the session. -/
theorem Operation.endpoint_of_isPrivileged {α : Type} {op : Operation α} (h : op.isPrivileged = true) :
    op.endpoint.credential = .session ∧ op.endpoint.query = [] := by
  cases op <;> cases h <;> exact ⟨rfl, rfl⟩

namespace Client

variable {σ α : Type} {c : Client} {s : Surroundings σ}

/-! ### The two requests -/

/-- A call whose request cannot be written ends with that. -/
theorem call_unsendable {e : Endpoint α} (hquery : e.query = [])
    (h : (c.authorization s.session.state.token e.credential).toList.all isHeaderText = false ∨
      isPlace (c.place e) = false) :
    ∃ url queue, c.call e s = (.error (.request (.unsendable url)), { s with queue }) := by
  obtain ⟨url, hrequest⟩ := request_unsendable hquery h
  exact ⟨url, _, call_eq_fail hrequest⟩

section
variable {token : String}

/-- Where the identity provider is asked about tokens. -/
def checks (c : Client) : String := c.settings.identityUrl ++ "/tokens/validate"

theorem place_validateToken (c : Client) (token : String) :
    c.place (Operation.validateToken token).endpoint = c.checks := rfl

theorem ask_unsendable (h : isHeaderText token = false ∨ isPlace c.checks = false) (s : Surroundings σ) :
    ∃ url queue, c.call (Operation.validateToken token).endpoint s =
      (.error (.request (.unsendable url)), { s with queue }) := by
  rw [← place_validateToken c token] at h
  exact call_unsendable rfl (h.imp_left (all_isHeaderText_bearer token).trans)

theorem ask_sent (htext : isHeaderText token = true) (hplace : isPlace c.checks = true) (s : Surroundings σ) :
    ∃ asking, IsRequestTo c.checks .post .empty (bearer token) asking ∧
      Sent s asking (Operation.validateToken token).endpoint.outcome
        (c.call (Operation.validateToken token).endpoint s) := by
  have hbearer := (isHeaderText_bearer token).trans htext
  have hcredential : c.authorization s.session.state.token (Operation.validateToken token).endpoint.credential =
      some (bearer token) := rfl
  rw [← place_validateToken c token] at hplace ⊢
  obtain ⟨asking, hrequest, hasking⟩ := request_eq_ok hplace rfl hcredential hbearer
  exact ⟨asking, hasking, call_sent hrequest⟩

/-- A privileged operation sends the token of the session. -/
theorem own_sent {op : Operation α} (hop : op.isPrivileged = true) (hplace : isPlace (c.place op.endpoint) = true)
    (htext : isHeaderText token = true) (htoken : s.session.state.token = some token) :
    ∃ own, IsRequestTo (c.place op.endpoint) op.endpoint.method op.endpoint.body (bearer token) own ∧
      Sent s own op.endpoint.outcome (c.call op.endpoint s) := by
  have hbearer := (isHeaderText_bearer token).trans htext
  obtain ⟨hcredential, hquery⟩ := Operation.endpoint_of_isPrivileged hop
  have hown : c.authorization s.session.state.token op.endpoint.credential = some (bearer token) := by
    rw [hcredential, htoken]
    rfl
  obtain ⟨own, hrequest, hisown⟩ := request_eq_ok hplace hquery hown hbearer
  exact ⟨own, hisown, call_sent hrequest⟩

end

/-- The end of a call for want of a login, after some exchanges. -/
structure Refused (s : Surroundings σ) (sent : List Exchange) (called : Except ClientError α × Surroundings σ) :
    Prop where
  result : called.1 = .error .notLoggedIn
  exchanges : called.2.exchanges = s.exchanges ++ sent

/-- Whether an answer came back and is a success. -/
def isSuccess (answer : Option Reply) : Bool := answer.any fun reply => Status.isSuccess reply.status

/-- The provider accepts a token if it answers with success, whatever else it says. -/
theorem outcome_validateToken (token : String) (reply : Reply) :
    (Operation.validateToken token).endpoint.outcome reply = .ok (Status.isSuccess reply.status) := rfl

/-- What counts as an accepted token. -/
theorem accepted_eq_isSuccess {token : String} {r : Request} {called : Except ClientError Bool × Surroundings σ}
    (h : Sent s r (Operation.validateToken token).endpoint.outcome called) :
    decide (called.1.toOption = some true) = isSuccess (s.peer.answer r).1 := by
  rw [h.result]
  cases (s.peer.answer r).1 with
  | none => rfl
  | some reply =>
    rw [Option.elim_some, outcome_validateToken]
    cases hsuccess : Status.isSuccess reply.status <;> simp [isSuccess, hsuccess, Except.toOption]

/-! ### Asking for a login -/

theorem attempt_apply (act : Action σ α) (s : Surroundings σ) :
    attempt act s = (.ok (act s).1.toOption, (act s).2) := by
  unfold attempt
  rcases act s with ⟨_ | a, later⟩ <;> rfl

variable [Storage σ]

theorem isAuthenticated_denied {session : Session σ} (h : s.session.check = .denied session) :
    c.isAuthenticated s = (.ok false, { s with session }) := by
  unfold isAuthenticated
  rw [Action.bind_ok Action.get_apply, h]
  rfl

/-- The provider is asked, and its answer settles the session. -/
theorem isAuthenticated_ask {token : String} {verdict : Except ClientError Bool} {asked : Surroundings σ}
    (h : s.session.check = .ask token)
    (hcall : c.call (Operation.validateToken token).endpoint s = (verdict, asked)) :
    c.isAuthenticated s = (.ok (decide (verdict.toOption = some true)),
      { asked with session := (asked.session.settle token (decide (verdict.toOption = some true))).2 }) := by
  have hattempt := attempt_apply (c.call (Operation.validateToken token).endpoint) s
  rw [hcall] at hattempt
  unfold isAuthenticated
  rw [Action.bind_ok Action.get_apply, h]
  dsimp only
  rw [Action.bind_ok hattempt, Action.bind_ok Action.get_apply]
  refine (Action.bind_ok rfl _).trans ?_
  exact congrArg (fun b => (Except.ok b, _)) (Session.settle_fst token _)

theorem perform_refused {op : Operation α} {later : Surroundings σ} (hop : op.endpoint.isGated = true)
    (h : c.isAuthenticated s = (.ok false, later)) :
    c.perform op s = (.error .notLoggedIn, later.reporting (.error .notLoggedIn : Except ClientError α)) := by
  have hlogin : c.requireLogin s = Action.fail .notLoggedIn later := by
    unfold requireLogin
    rw [Action.bind_ok h]
    rfl
  unfold perform
  rw [hop]
  exact Action.bind_error hlogin _

theorem perform_admitted {op : Operation α} {later : Surroundings σ} (hop : op.endpoint.isGated = true)
    (h : c.isAuthenticated s = (.ok true, later)) : c.perform op s = c.call op.endpoint later := by
  have hlogin : c.requireLogin s = (.ok (), later) := by
    unfold requireLogin
    rw [Action.bind_ok h]
    rfl
  unfold perform
  rw [hop]
  exact Action.bind_ok hlogin _

/-! ### Privileged operations -/

variable {op : Operation α}

/-- A token that is not even asked about ends the call before anything is sent. -/
theorem perform_denied {session : Session σ} (hop : op.endpoint.isGated = true)
    (h : s.session.check = .denied session) :
    Refused s [] (c.perform op s) ∧ (c.perform op s).2.session = session := by
  rw [perform_refused (c := c) hop (isAuthenticated_denied h)]
  exact ⟨⟨rfl, (List.append_nil _).symm⟩, rfl⟩

/-- A token that the provider does not accept ends the call and logs out. -/
theorem perform_rejected {token : String} {verdict : Except ClientError Bool} {asked : Surroundings σ}
    (hop : op.endpoint.isGated = true) (h : s.session.check = .ask token)
    (hcall : c.call (Operation.validateToken token).endpoint s = (verdict, asked))
    (hverdict : decide (verdict.toOption = some true) = false) (htoken : asked.session.state.token = some token) :
    (c.perform op s).1 = .error .notLoggedIn ∧ (c.perform op s).2.exchanges = asked.exchanges ∧
      (c.perform op s).2.session = asked.session.clearUser := by
  have hasked := isAuthenticated_ask h hcall
  rw [hverdict, Session.settle_snd, if_neg (by simp [htoken])] at hasked
  rw [perform_refused hop hasked]
  exact ⟨rfl, rfl, rfl⟩

/-- A token that the provider accepts lets the call proceed. -/
theorem perform_accepted {token : String} {verdict : Except ClientError Bool} {asked : Surroundings σ}
    (hop : op.endpoint.isGated = true) (h : s.session.check = .ask token)
    (hcall : c.call (Operation.validateToken token).endpoint s = (verdict, asked))
    (hverdict : decide (verdict.toOption = some true) = true) : c.perform op s = c.call op.endpoint asked := by
  have hasked := isAuthenticated_ask h hcall
  rw [hverdict, Session.settle_snd, if_pos (Or.inl rfl)] at hasked
  exact perform_admitted hop hasked

variable [ReliableStorage σ]

/-- **What a privileged operation sends, gives and does.** Nothing is sent without a token that has not expired and can
be asked about: one that may stand in a header, to a provider at an address that requests can go to. Else the provider
is asked about it first, and only its success lets the operation send its own request, with the same token, to an
address that requests can go to. The session is cleared exactly if there was a token and it was not accepted. -/
theorem perform_privileged (hop : op.isPrivileged = true) (hs : ReliableStorage.IsSound s.session.storage) :
    let called : Except ClientError α × Surroundings σ := c.perform op s
    (s.session.state.token = none → Refused s [] called ∧ called.2.session = s.session) ∧
    ∀ token, s.session.state.token = some token →
      (s.session.ttl = 0 ∨ isHeaderText token = false ∨ isPlace c.checks = false →
        Refused s [] called ∧ Session.IsCleared s.session called.2.session) ∧
      (s.session.ttl ≠ 0 → isHeaderText token = true → isPlace c.checks = true → ∃ asking,
        IsRequestTo c.checks .post .empty (bearer token) asking ∧
        let verdict := (s.peer.answer asking).1
        (isSuccess verdict = false →
          Refused s [⟨asking, verdict⟩] called ∧ Session.IsCleared s.session called.2.session) ∧
        (isSuccess verdict = true → called.2.session = s.session ∧
          (isPlace (c.place op.endpoint) = false → (∃ url, called.1 = .error (.request (.unsendable url))) ∧
            called.2.exchanges = s.exchanges ++ [⟨asking, verdict⟩]) ∧
          (isPlace (c.place op.endpoint) = true → ∃ own,
            IsRequestTo (c.place op.endpoint) op.endpoint.method op.endpoint.body (bearer token) own ∧
            let answer := ((s.peer.answer asking).2.answer own).1
            called.1 = answer.elim (.error (.request (.unanswered own.url.text))) op.endpoint.outcome ∧
            called.2.exchanges = s.exchanges ++ [⟨asking, verdict⟩, ⟨own, answer⟩]))) := by
  intro called
  have hgated : op.endpoint.isGated = true := (Operation.isGated_eq op).trans hop
  have hcleared := Session.isCleared_clearUser hs
  constructor
  · intro htoken
    exact perform_denied hgated (Session.check_eq_denied_self htoken)
  intro token htoken
  have httl : s.session.ttl = Token.ttl (some token) s.session.now := by rw [Session.ttl, htoken]
  rw [httl]
  constructor
  · intro hunasked
    by_cases hzero : Token.ttl (some token) s.session.now = 0
    · obtain ⟨hrefused, hsession⟩ := perform_denied (c := c) hgated (Session.check_eq_denied htoken hzero)
      exact ⟨hrefused, hsession ▸ hcleared⟩
    · obtain ⟨url, queue, hcall⟩ := ask_unsendable (hunasked.resolve_left hzero) s
      obtain ⟨hresult, hexchanges, hsession⟩ :=
        perform_rejected hgated (Session.check_eq_ask htoken hzero) hcall rfl htoken
      exact ⟨⟨hresult, hexchanges.trans (List.append_nil _).symm⟩, hsession ▸ hcleared⟩
  · intro hlives htext hplace
    have hcheck := Session.check_eq_ask htoken hlives
    obtain ⟨asking, hasking, hsent⟩ := ask_sent htext hplace s
    have hverdict := accepted_eq_isSuccess hsent
    cases hcall : c.call (Operation.validateToken token).endpoint s with
    | mk verdict asked =>
      rw [hcall] at hsent hverdict
      obtain ⟨-, hkept, hpeer, hlogged⟩ := hsent
      dsimp only at hkept hpeer hlogged
      refine ⟨asking, hasking, ?_, ?_⟩
      · intro hrejected
        obtain ⟨hresult, hexchanges, hsession⟩ :=
          perform_rejected hgated hcheck hcall (hverdict.trans hrejected) (hkept ▸ htoken)
        rw [hkept] at hsession
        exact ⟨⟨hresult, hexchanges.trans hlogged⟩, hsession ▸ hcleared⟩
      · intro haccepted
        have hperform : called = c.call op.endpoint asked :=
          perform_accepted hgated hcheck hcall (hverdict.trans haccepted)
        cases hown : isPlace (c.place op.endpoint) with
        | false =>
          have hquery := (Operation.endpoint_of_isPrivileged hop).2
          obtain ⟨url, queue, hcalled⟩ := call_unsendable (s := asked) hquery (.inr hown)
          rw [hperform, hcalled]
          exact ⟨hkept, fun _ => ⟨⟨url, rfl⟩, hlogged⟩, nofun⟩
        | true =>
          obtain ⟨own, hisown, hsent⟩ := own_sent (s := asked) hop hown htext (hkept ▸ htoken)
          rw [← hperform] at hsent
          obtain ⟨hresult, hsession, -, hexchanges⟩ := hsent
          rw [hpeer] at hresult hexchanges
          refine ⟨hsession.trans hkept, nofun, fun _ => ⟨own, hisown, hresult, ?_⟩⟩
          rw [hexchanges, hlogged, List.append_assoc]
          rfl

/-- A client of services on one machine. -/
def onLocalhost : Client where
  settings :=
    { coreUrl := "http://localhost:8080/core"
      identityUrl := "http://localhost:8080/identity"
      analyticsUrl := "http://localhost:8080/analytics"
      storageUrl := "http://localhost:8080/storage"
      timeout := 30
      userAgent := "tester"
      apiKey := none
      storageDirectory := "" }

/-- Surroundings in which the token is accepted and the next answer is a failure. -/
def admitting : Surroundings (Dict String) where
  session := Session.lasting
  queue := none
  peer := ⟨[some ⟨204, [], false⟩, some ⟨404, [], false⟩], true, true⟩
  exchanges := []

/-- Who is let in stays logged in, even if the operation itself fails. -/
theorem perform_privileged_admitting :
    (Operation.deleteApiKey "7").isPrivileged = true ∧ ReliableStorage.IsSound admitting.session.storage ∧
    ∃ asking own, (onLocalhost.perform (.deleteApiKey "7") admitting).2.exchanges =
        [⟨asking, some ⟨204, [], false⟩⟩, ⟨own, some ⟨404, [], false⟩⟩] ∧
      asking.method = .post ∧ own.method = .delete ∧
      (onLocalhost.perform (.deleteApiKey "7") admitting).1 = .error (.status "delete api key" 404 "") ∧
      (onLocalhost.perform (.deleteApiKey "7") admitting).2.session = Session.lasting := by
  have hop : (Operation.deleteApiKey "7").isPrivileged = true := rfl
  have hsound : ReliableStorage.IsSound admitting.session.storage := trivial
  have httl : admitting.session.ttl ≠ 0 := by decide +kernel
  have htext : isHeaderText "e30.eyJleHAiOjQxMDI0NDQ4MDB9.x" = true := by decide
  have hplaces : isPlace onLocalhost.checks = true ∧
      isPlace (onLocalhost.place (Operation.deleteApiKey "7").endpoint) = true := by
    decide +kernel
  have hanswer : ∀ r, admitting.peer.answer r =
      (some ⟨204, [], false⟩, ⟨[some ⟨404, [], false⟩], true, true⟩) := fun r => by
    simp [admitting, Peer.answer, Peer.gets]
  have hanswer' : ∀ r, (Peer.mk [some ⟨404, [], false⟩] true true).answer r =
      (some ⟨404, [], false⟩, ⟨[], true, true⟩) := fun r => by
    simp [Peer.answer, Peer.gets]
  obtain ⟨asking, hasking, -, haccepted⟩ := ((perform_privileged hop hsound).2 _ rfl).2 httl htext hplaces.1
  rw [hanswer] at haccepted
  obtain ⟨hsession, -, hsent⟩ := haccepted rfl
  obtain ⟨own, hown, hresult, hexchanges⟩ := hsent hplaces.2
  rw [hanswer'] at hresult hexchanges
  exact ⟨hop, hsound, asking, own, hexchanges, hasking.method, hown.method, hresult, hsession⟩

/-- A host may have a name that an address can hold and a request cannot. Where it is the host of the provider, a token
that has not expired is dropped unasked; where it is that of the operation, the operation's own request is missing. -/
theorem perform_privileged_unnamed :
    let unasked : Client := ⟨{ onLocalhost.settings with identityUrl := "http://a\x7bb.test/x" }⟩
    let unheard : Client := ⟨{ onLocalhost.settings with coreUrl := "http://a\x7bb.test/x" }⟩
    unasked.settings.validate.toOption = some () ∧ unheard.settings.validate.toOption = some () ∧
    admitting.session.state.token = some "e30.eyJleHAiOjQxMDI0NDQ4MDB9.x" ∧ admitting.session.ttl ≠ 0 ∧
    isHeaderText "e30.eyJleHAiOjQxMDI0NDQ4MDB9.x" = true ∧
    (unasked.perform (.deleteApiKey "7") admitting).2.exchanges.length = 0 ∧
    (unasked.perform (.deleteApiKey "7") admitting).2.session.state = .none ∧
    (unheard.perform (.deleteBlogArticle "b1") admitting).2.exchanges.length = 1 := by
  decide +kernel

end Client

end HostingClient
