import HostingClient.Client.Basic

/-! # Calls step by step

What the steps of an action make of its surroundings, and what a call brings about: it sends one request at most
(`Client.call_eq_ok`), and an error is reported on the way. -/

namespace HostingClient

namespace Surroundings

variable {σ α : Type}

/-- The surroundings once a call has given its result: an error was reported. -/
def reporting (s : Surroundings σ) : Except ClientError α → Surroundings σ
  | .ok _ => s
  | .error e => { s with queue := s.queue.map (· ++ [Notification.error e.display]) }

/-- The surroundings once a request was sent. -/
def exchanged (s : Surroundings σ) (r : Request) : Surroundings σ :=
  { s with peer := (s.peer.answer r).2, exchanges := s.exchanges ++ [⟨r, (s.peer.answer r).1⟩] }

@[simp] theorem reporting_session (s : Surroundings σ) (x : Except ClientError α) :
    (s.reporting x).session = s.session := by cases x <;> rfl

@[simp] theorem reporting_peer (s : Surroundings σ) (x : Except ClientError α) : (s.reporting x).peer = s.peer := by
  cases x <;> rfl

@[simp] theorem reporting_exchanges (s : Surroundings σ) (x : Except ClientError α) :
    (s.reporting x).exchanges = s.exchanges := by cases x <;> rfl

end Surroundings

namespace Action

variable {σ α β : Type} {s later : Surroundings σ}

theorem bind_apply (x : Action σ α) (f : α → Action σ β) (s : Surroundings σ) :
    (x >>= f) s = ExceptT.bindCont f (x s).1 (x s).2 := rfl

theorem bind_ok {x : Action σ α} {a : α} (h : x s = (.ok a, later)) (f : α → Action σ β) :
    (x >>= f) s = f a later := by
  rw [bind_apply, h]
  rfl

theorem bind_error {x : Action σ α} {e : ClientError} (h : x s = (.error e, later)) (f : α → Action σ β) :
    (x >>= f) s = (.error e, later) := by
  rw [bind_apply, h]
  rfl

theorem get_apply : (get : Action σ (Surroundings σ)) s = (.ok s, s) := rfl

theorem fail_apply (e : ClientError) (s : Surroundings σ) :
    (fail e : Action σ α) s = (.error e, s.reporting (.error e : Except ClientError α)) := rfl

theorem ofExcept_apply (x : Except ClientError α) (s : Surroundings σ) : ofExcept x s = (x, s.reporting x) := by
  cases x <;> rfl

end Action

namespace Client

variable {σ α : Type} {c : Client} {s : Surroundings σ}

/-! ### Calls -/

/-- What one request brings about. -/
structure Sent (s : Surroundings σ) (r : Request) (outcome : Reply → Except ClientError α)
    (called : Except ClientError α × Surroundings σ) : Prop where
  result : called.1 = (s.peer.answer r).1.elim (.error (.request (.unanswered r.url.text))) outcome
  session : called.2.session = s.session
  peer : called.2.peer = (s.peer.answer r).2
  exchanges : called.2.exchanges = s.exchanges ++ [⟨r, (s.peer.answer r).1⟩]

theorem call_eq_fail {e : Endpoint α} {f : RequestFault} (h : c.request e s.session.state.token = .error f) :
    c.call e s = Action.fail (.request f) s := by
  unfold call
  rw [Action.bind_ok Action.get_apply, h]
  exact Action.bind_error rfl _

/-- What a call makes of what came back for its request. -/
def received (e : Endpoint α) (r : Request) (answer : Option Reply) : Except ClientError α :=
  answer.elim (.error (.request (.unanswered r.url.text))) e.outcome

/-- **A call sends its request**, and what came back for it decides the result. -/
theorem call_eq_ok {e : Endpoint α} {r : Request} (h : c.request e s.session.state.token = .ok r) :
    c.call e s = (received e r (s.peer.answer r).1, (s.exchanged r).reporting (received e r (s.peer.answer r).1)) := by
  have hcall : c.call e s = (exchange r >>= fun reply => Action.ofExcept (e.outcome reply) : Action σ α) s := by
    unfold call
    rw [Action.bind_ok Action.get_apply, h]
    exact Action.bind_ok rfl _
  rw [hcall]
  cases ha : s.peer.answer r with
  | mk answer peer =>
    have hexchanged : s.exchanged r = { s with peer, exchanges := s.exchanges ++ [⟨r, answer⟩] } := by
      rw [Surroundings.exchanged, ha]
    cases answer with
    | none =>
      have hexchange : exchange r s = (Action.fail (.request (.unanswered r.url.text)) : Action σ Reply)
          (s.exchanged r) := by
        unfold exchange
        rw [Action.bind_ok Action.get_apply, ha, hexchanged]
        rfl
      exact Action.bind_error hexchange _
    | some reply =>
      have hexchange : exchange r s = (.ok reply, s.exchanged r) := by
        unfold exchange
        rw [Action.bind_ok Action.get_apply, ha, hexchanged]
        rfl
      rw [Action.bind_ok hexchange, Action.ofExcept_apply]
      rfl

theorem call_sent {e : Endpoint α} {r : Request} (h : c.request e s.session.state.token = .ok r) :
    Sent s r e.outcome (c.call e s) := by
  rw [call_eq_ok h]
  exact ⟨rfl, Surroundings.reporting_session _ _, Surroundings.reporting_peer _ _,
    Surroundings.reporting_exchanges _ _⟩

end Client

end HostingClient
