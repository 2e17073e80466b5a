import HostingClient.Proofs.Client.Run

/-! # Reports of failures

What calls leave in the queue of notifications. A call tells of its error, once, and a privileged operation tells
besides why the identity provider could not be asked, if it could not (`Accessor.run_tells`). Whether there is a queue
and what is in it makes no other difference. -/

namespace HostingClient

/-! ### What an action tells -/

namespace Action

variable {σ α β : Type} {s mid : Surroundings σ} {news later : List Notification}

/-- The action adds some notifications to the queue that there is, and does all else whatever the queue. -/
def Tells (act : Action σ α) (s : Surroundings σ) (news : List Notification) : Prop :=
  ∀ queue, act { s with queue } = ((act s).1, { (act s).2 with queue := queue.map (· ++ news) })

/-- What is told of a result: the error, if it is one. -/
def reportOf : Except ClientError α → List Notification
  | .ok _ => []
  | .error e => [Notification.error e.display]

theorem reporting_queue (s : Surroundings σ) (x : Except ClientError α) (queue : Option NotificationQueue) :
    { s with queue }.reporting x = { s.reporting x with queue := queue.map (· ++ reportOf x) } := by
  cases x with
  | ok a => cases queue <;> simp [Surroundings.reporting, reportOf]
  | error e => rfl

theorem tells_nil {act : Action σ α} (h : ∀ queue, act { s with queue } = ((act s).1, { (act s).2 with queue })) :
    act.Tells s [] := by
  intro queue
  rw [h]
  cases queue <;> simp

theorem tells_fail (e : ClientError) (s : Surroundings σ) :
    (fail e : Action σ α).Tells s [Notification.error e.display] := by
  intro queue
  rw [fail_apply, fail_apply, reporting_queue]
  rfl

theorem tells_onSession (f : Session σ → Session σ) (s : Surroundings σ) : (onSession f).Tells s [] :=
  tells_nil fun _ => rfl

theorem Tells.of_eq {act act' : Action σ α} (h : ∀ queue, act { s with queue } = act' { s with queue })
    (ht : act'.Tells s news) : act.Tells s news := by
  intro queue
  have hs : act s = act' s := h s.queue
  rw [h, hs, ht]

/-- What two steps tell is told in their order. -/
theorem Tells.bind_ok {x : Action σ α} {a : α} (h : x.Tells s news) (hx : x s = (.ok a, mid)) {f : α → Action σ β}
    (hf : (f a).Tells mid later) : (x >>= f).Tells s (news ++ later) := by
  intro queue
  have hqueue := h queue
  rw [hx] at hqueue
  rw [Action.bind_ok hqueue f, Action.bind_ok hx f, hf]
  cases queue <;> simp

theorem Tells.bind_error {x : Action σ α} {e : ClientError} (h : x.Tells s news) (hx : x s = (.error e, mid))
    (f : α → Action σ β) : (x >>= f).Tells s news := by
  intro queue
  have hqueue := h queue
  rw [hx] at hqueue
  rw [Action.bind_error hqueue f, Action.bind_error hx f]

end Action

namespace Client

variable {σ α : Type} {c : Client} {s : Surroundings σ}

open HostingClient.Action

/-! ### Calls -/

/-- A call tells of its error. -/
theorem call_tells (c : Client) (e : Endpoint α) (s : Surroundings σ) :
    (c.call e).Tells s (reportOf (c.call e s).1) := by
  intro queue
  cases h : c.request e s.session.state.token with
  | error f =>
    have hqueue : c.call e { s with queue } = Action.fail (.request f) { s with queue } := call_eq_fail h
    rw [hqueue, call_eq_fail h]
    exact tells_fail (.request f) s queue
  | ok r =>
    have hqueue := call_eq_ok (s := { s with queue }) h
    rw [hqueue, call_eq_ok h]
    exact congrArg (Prod.mk _) (reporting_queue (s.exchanged r) _ queue)

variable [Storage σ]

/-! ### Asking for a login -/

/-- Why the identity provider cannot be asked about the token of the session, if it is asked and cannot be. -/
def askFault? (c : Client) (s : Surroundings σ) : Option RequestFault :=
  match s.session.check with
  | .denied _ => none
  | .ask token =>
    match c.request (Operation.validateToken token).endpoint s.session.state.token with
    | .error f => some f
    | .ok r => if (s.peer.answer r).1.isSome then none else some (.unanswered r.url.text)

/-- What is told of a fault. -/
def faultReport (f : RequestFault) : Notification := Notification.error (ClientError.request f).display

/-- A question about a token ends with an error only if it cannot be asked. -/
theorem call_validateToken {token : String} (h : s.session.check = .ask token) :
    (∃ f, c.askFault? s = some f ∧ (c.call (Operation.validateToken token).endpoint s).1 = .error (.request f)) ∨
      c.askFault? s = none ∧ ∃ verdict, (c.call (Operation.validateToken token).endpoint s).1 = .ok verdict := by
  unfold askFault?
  rw [h]
  dsimp only
  cases hr : c.request (Operation.validateToken token).endpoint s.session.state.token with
  | error f =>
    rw [call_eq_fail hr]
    exact .inl ⟨f, rfl, rfl⟩
  | ok r =>
    rw [(call_sent hr).result]
    dsimp only
    cases (s.peer.answer r).1 with
    | none => exact .inl ⟨_, rfl, rfl⟩
    | some reply => exact .inr ⟨rfl, _, outcome_validateToken token reply⟩

/-- Asking for a login tells only why the provider cannot be asked. -/
theorem isAuthenticated_tells (c : Client) (s : Surroundings σ) :
    c.isAuthenticated.Tells s ((c.askFault? s).toList.map faultReport) := by
  cases hcheck : s.session.check with
  | denied session =>
    have hfault : c.askFault? s = none := by
      unfold askFault?
      rw [hcheck]
    rw [hfault]
    refine tells_nil fun queue => ?_
    rw [isAuthenticated_denied hcheck, isAuthenticated_denied (s := { s with queue }) hcheck]
  | ask token =>
    have htold := call_tells c (Operation.validateToken token).endpoint s
    have hverdict := call_validateToken (c := c) hcheck
    cases hcall : c.call (Operation.validateToken token).endpoint s with
    | mk verdict asked =>
      rw [hcall] at htold hverdict
      have hreport : reportOf verdict = (c.askFault? s).toList.map faultReport := by
        rcases hverdict with ⟨f, hf, rfl⟩ | ⟨hf, accepted, rfl⟩
        · rw [hf]
          rfl
        · rw [hf]
          rfl
      intro queue
      have hqueue := htold queue
      rw [hreport, hcall] at hqueue
      rw [isAuthenticated_ask hcheck hcall, isAuthenticated_ask (s := { s with queue }) hcheck hqueue]

/-- Nobody is logged in whose token cannot be asked about. -/
theorem isAuthenticated_of_askFault {f : RequestFault} (h : c.askFault? s = some f) :
    (c.isAuthenticated s).1 = .ok false := by
  cases hcheck : s.session.check with
  | denied session => rw [isAuthenticated_denied hcheck]
  | ask token =>
    have hverdict := call_validateToken (c := c) hcheck
    cases hcall : c.call (Operation.validateToken token).endpoint s with
    | mk verdict asked =>
      rw [hcall] at hverdict
      rcases hverdict with ⟨f', -, rfl⟩ | ⟨hf, -⟩
      · rw [isAuthenticated_ask hcheck hcall]
        rfl
      · rw [h] at hf
        cases hf

/-! ### Operations, logins and refreshes -/

/-- Why the identity provider cannot be asked, for an operation that has it asked. -/
def gateFault? (c : Client) (op : Operation α) (s : Surroundings σ) : Option RequestFault :=
  if op.isPrivileged then c.askFault? s else none

theorem perform_tells (c : Client) (op : Operation α) (s : Surroundings σ) :
    (c.perform op).Tells s ((c.gateFault? op s).toList.map faultReport ++ reportOf (c.perform op s).1) := by
  cases hgated : op.endpoint.isGated with
  | false =>
    have hfault : c.gateFault? op s = none := by
      rw [gateFault?, ← Operation.isGated_eq, hgated]
      rfl
    have htold := (call_tells c op.endpoint s).of_eq fun queue => perform_open hgated { s with queue }
    rw [hfault, perform_open hgated, Option.toList_none, List.map_nil, List.nil_append]
    exact htold
  | true =>
    have hfault : c.gateFault? op s = c.askFault? s := by
      rw [gateFault?, ← Operation.isGated_eq, hgated]
      rfl
    have hasked := isAuthenticated_tells c s
    have hsession := (isAuthenticated_extends c s).2
    rw [hfault]
    cases hauth : c.isAuthenticated s with
    | mk answer mid =>
      have hqueue : ∀ queue, c.isAuthenticated { s with queue } =
          (answer, { mid with queue := queue.map (· ++ (c.askFault? s).toList.map faultReport) }) := by
        intro queue
        rw [hasked queue, hauth]
      rw [hauth] at hsession
      rcases hsession with ⟨rfl, -⟩ | ⟨rfl, -⟩
      · have hown := call_tells c op.endpoint mid
        intro queue
        rw [perform_admitted hgated (hqueue queue), perform_admitted hgated hauth, hown]
        cases queue <;> simp
      · intro queue
        rw [perform_refused hgated (hqueue queue), perform_refused hgated hauth, reporting_queue]
        cases queue <;> simp [reportOf]

/-- Without an answer about the token nobody is let in. -/
theorem perform_of_gateFault {op : Operation α} {f : RequestFault} (h : c.gateFault? op s = some f) :
    (c.perform op s).1 = .error .notLoggedIn := by
  unfold gateFault? at h
  split at h
  · next hop =>
    have hgated := (Operation.isGated_eq op).trans hop
    have hanswer := isAuthenticated_of_askFault h
    cases hauth : c.isAuthenticated s with
    | mk answer mid =>
      rw [hauth] at hanswer
      obtain rfl : answer = .ok false := hanswer
      rw [perform_refused hgated hauth]
  · cases h

theorem perform_tells_open (c : Client) (op : Operation α) (h : op.endpoint.isGated = false) (s : Surroundings σ) :
    (c.perform op).Tells s (reportOf (c.perform op s).1) := by
  have htold := perform_tells c op s
  rw [gateFault?, ← Operation.isGated_eq, h] at htold
  exact htold

/-- What a login does once it has a token. -/
def enter (user : Profile) (token : String) : Action σ Profile := do
  Action.onSession fun s => (s.setToken token).setUser user
  pure user

theorem login_eq (c : Client) (email password : String) : (c.login email password : Action σ Profile) =
    c.perform (.validateUser email password) >>= fun user =>
      c.perform (.createToken email password) >>= fun token => enter user token := rfl

theorem login_tells (c : Client) (email password : String) (s : Surroundings σ) :
    (c.login email password).Tells s (reportOf (c.login email password s).1) := by
  have hcheck := perform_tells_open c (.validateUser email password) rfl s
  rw [login_eq]
  rcases hchecked : c.perform (.validateUser email password) s with ⟨e | user, mid⟩
  · rw [hchecked] at hcheck
    rw [Action.bind_error hchecked]
    exact hcheck.bind_error hchecked _
  have hcreate := perform_tells_open c (.createToken email password) rfl mid
  rw [hchecked] at hcheck
  rw [Action.bind_ok hchecked]
  rcases hcreated : c.perform (.createToken email password) mid with ⟨e | token, later⟩
  · rw [hcreated] at hcreate
    rw [Action.bind_error hcreated]
    exact hcheck.bind_ok hchecked (hcreate.bind_error hcreated _)
  · have hentered : (enter user token : Action σ Profile).Tells later [] := tells_nil fun _ => rfl
    rw [hcreated] at hcreate
    rw [Action.bind_ok hcreated]
    exact hcheck.bind_ok hchecked (hcreate.bind_ok hcreated hentered)

theorem refreshSession_tells (c : Client) (s : Surroundings σ) :
    c.refreshSession.Tells s (reportOf (c.refreshSession s).1) := by
  cases htoken : s.session.state.token with
  | none =>
    have hrun : ∀ queue,
        c.refreshSession { s with queue } = (Action.fail .notLoggedIn : Action σ Unit) { s with queue } :=
      fun _ => refreshDuring_none id htoken
    have hs : c.refreshSession s = (Action.fail .notLoggedIn : Action σ Unit) s := hrun s.queue
    rw [hs]
    exact (tells_fail .notLoggedIn s).of_eq hrun
  | some current =>
    have hrefresh := perform_tells_open c (.refreshToken current) rfl s
    have hrun := fun queue => refreshSession_some (c := c) (s := { s with queue }) htoken
    refine Tells.of_eq hrun ?_
    rw [refreshSession_some htoken]
    rcases hrefreshed : c.perform (.refreshToken current) s with ⟨e | token, later⟩
    · rw [hrefreshed] at hrefresh
      rw [Action.bind_error hrefreshed]
      exact hrefresh.bind_error hrefreshed _
    · rw [hrefreshed] at hrefresh
      rw [Action.bind_ok hrefreshed]
      exact hrefresh.bind_ok hrefreshed (tells_onSession _ later)

end Client

/-! ### All calls -/

/-- What can be called: an operation, a login, or a refresh. -/
inductive Accessor : Type → Type 1 where
  | operation {α : Type} (op : Operation α) : Accessor α
  | login (email password : String) : Accessor Profile
  | refreshSession : Accessor Unit

namespace Accessor

variable {σ α : Type} [Storage σ]

/-- Makes a call. -/
def run (c : Client) : {α : Type} → Accessor α → Action σ α
  | _, operation op => c.perform op
  | _, login email password => c.login email password
  | _, refreshSession => c.refreshSession

/-- Why the identity provider cannot be asked before a call, if it is asked and cannot be. -/
def gateFault? (c : Client) (s : Surroundings σ) : {α : Type} → Accessor α → Option RequestFault
  | _, operation op => c.gateFault? op s
  | _, _ => none

theorem run_tells (c : Client) (a : Accessor α) (s : Surroundings σ) :
    (a.run c).Tells s ((a.gateFault? c s).toList.map Client.faultReport ++ Action.reportOf (a.run c s).1) := by
  cases a with
  | operation op => exact Client.perform_tells c op s
  | login email password =>
    show (c.login email password).Tells s ([] ++ Action.reportOf (c.login email password s).1)
    rw [List.nil_append]
    exact Client.login_tells c email password s
  | refreshSession =>
    show c.refreshSession.Tells s ([] ++ Action.reportOf (c.refreshSession s).1)
    rw [List.nil_append]
    exact Client.refreshSession_tells c s

theorem run_of_gateFault {c : Client} {a : Accessor α} {s : Surroundings σ} {f : RequestFault}
    (h : a.gateFault? c s = some f) : (a.run c s).1 = .error .notLoggedIn := by
  cases a with
  | operation op => exact Client.perform_of_gateFault h
  | login email password => cases h
  | refreshSession => cases h

/-- **Failures are reported once.** A call adds nothing to the queue if it succeeds, and its error if it fails; only
where the identity provider could not be asked, it tells that first. What is in the queue stays there, and whether
there is one makes no other difference. -/
theorem run_reports (c : Client) (a : Accessor α) (s : Surroundings σ) : ∃ news : List Notification,
    (∀ queue, a.run c { s with queue } =
      ((a.run c s).1, { (a.run c s).2 with queue := queue.map (· ++ news) })) ∧
    match (a.run c s).1, a.gateFault? c s with
    | .ok _, _ => news = []
    | .error e, none => news = [.error e.display]
    | .error e, some f =>
      e = .notLoggedIn ∧ news = [.error (ClientError.request f).display, .error "User is not logged in"] := by
  refine ⟨_, run_tells c a s, ?_⟩
  cases hfault : a.gateFault? c s with
  | none =>
    cases (a.run c s).1 with
    | ok v => rfl
    | error e => rfl
  | some f =>
    rw [run_of_gateFault hfault]
    exact ⟨rfl, rfl⟩

end Accessor

/-- Nobody answers for the identity provider. -/
example :
    let s := { Client.admitting with queue := some [], peer.isReachable := false }
    (Client.onLocalhost.perform (.deleteApiKey "7") s).2.queue = some
      [.error "Request failed: error sending request for url (http://localhost:8080/identity/tokens/validate)",
        .error "User is not logged in"] := by
  decide +kernel

end HostingClient
