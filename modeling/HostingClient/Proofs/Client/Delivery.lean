import HostingClient.Proofs.Client.Reports

/-! # Delivery of notifications

Any number of handles may refer to one queue, and clients that hold one add to it too. Whatever is done through all
handles in whatever order, each queue gives out what was put into it, in the order in which it was put in, and nothing
of another queue (`QueueUse.performAll_delivers`). -/

namespace HostingClient

/-! ### Queues behind handles -/

namespace Switchboard
variable {b : Switchboard} {handle : Nat}

/-- What is in the queue with a number. -/
def content (b : Switchboard) (q : Nat) : NotificationQueue := b.queues[q]?.getD []

/-- Whether every handle refers to a queue. -/
def IsWired (b : Switchboard) : Prop := ∀ q ∈ b.handles, q < b.queues.length

/-- The board with other content in the queue of a handle. -/
def put (b : Switchboard) (handle : Nat) (queue : NotificationQueue) : Switchboard :=
  { b with queues := b.queues.set (b.queueOf handle) queue }

theorem queueOf_eq (h : handle < b.handles.length) : b.queueOf handle = b.handles[handle] := by
  rw [queueOf, List.getElem?_eq_getElem h, Option.getD_some]

theorem IsWired.queueOf_lt (hb : b.IsWired) (h : handle < b.handles.length) :
    b.queueOf handle < b.queues.length := by
  rw [queueOf_eq h]
  exact hb _ (List.getElem_mem h)

theorem content_put (h : b.queueOf handle < b.queues.length) (queue : NotificationQueue) (q : Nat) :
    (b.put handle queue).content q = if b.queueOf handle = q then queue else b.content q := by
  unfold content put
  rw [List.getElem?_set, if_pos h]
  split <;> rfl

theorem add_eq_put (h : b.queueOf handle < b.queues.length) (n : Notification) :
    b.add handle n = b.put handle (b.queued handle ++ [n]) := by
  have hqueues : b.queues.modify (b.queueOf handle) (· ++ [n]) =
      b.queues.set (b.queueOf handle) (b.queued handle ++ [n]) := by
    refine List.ext_getElem? fun i => ?_
    rw [List.getElem?_modify, List.getElem?_set, if_pos h, queued]
    split
    · next hi =>
      subst hi
      rw [List.getElem?_eq_getElem h]
      rfl
    · exact Option.map_id'
  rw [add, hqueues]
  rfl

theorem content_create (q : Nat) : b.create.2.content q = b.content q := by
  unfold content create
  rw [List.getElem?_append]
  split
  · rfl
  · next h =>
    rw [List.getElem?_eq_none (Nat.not_lt.mp h)]
    cases q - b.queues.length <;> rfl

theorem queueOf_clone : (b.clone handle).2.queueOf (b.clone handle).1 = b.queueOf handle := by
  unfold queueOf clone
  rw [List.getElem?_concat_length]
  rfl

theorem queueOf_create : b.create.2.queueOf b.create.1 = b.queues.length := by
  unfold queueOf create
  rw [List.getElem?_concat_length]
  rfl

theorem IsWired.create (hb : b.IsWired) : b.create.2.IsWired := by
  intro q hq
  have hlength : b.create.2.queues.length = b.queues.length + 1 := List.length_append
  rw [hlength]
  rcases List.mem_append.mp hq with hq | hq
  · exact Nat.lt_succ_of_lt (hb q hq)
  · rw [List.mem_singleton.mp hq]
    exact Nat.lt_succ_self _

theorem IsWired.clone (hb : b.IsWired) (h : handle < b.handles.length) : (b.clone handle).2.IsWired := by
  intro q hq
  rcases List.mem_append.mp hq with hq | hq
  · exact hb q hq
  · rw [List.mem_singleton.mp hq]
    exact hb.queueOf_lt h

end Switchboard

/-! ### What clients tell -/

theorem Action.Tells.queue_eq {σ α : Type} {act : Action σ α} {s : Surroundings σ} {news : List Notification}
    (h : act.Tells s news) (queue : NotificationQueue) :
    (act { s with queue := some queue }).2.queue = some (queue ++ news) := by
  rw [h]
  rfl

namespace ClientStep
variable {σ : Type} [Storage σ]

/-- What a step of a client adds to a queue. -/
def news (c : Client) (s : Surroundings σ) (x : ClientStep) : List Notification :=
  (x.perform c { s with queue := some [] }).queue.getD []

/-- A step of a client only adds to the queue, and always the same. -/
theorem perform_queue (c : Client) (s : Surroundings σ) (x : ClientStep) (queue : NotificationQueue) :
    (x.perform c { s with queue := some queue }).queue = some (queue ++ x.news c s) := by
  have hnews : ∃ news, ∀ queue, (x.perform c { s with queue := some queue }).queue = some (queue ++ news) := by
    cases x with
    | call op =>
      simp only [perform, (Client.perform_tells c op s).queue_eq]
      exact ⟨_, fun _ => rfl⟩
    | login email password =>
      simp only [perform, (Client.login_tells c email password s).queue_eq]
      exact ⟨_, fun _ => rfl⟩
    | refreshSession =>
      simp only [perform, (Client.refreshSession_tells c s).queue_eq]
      exact ⟨_, fun _ => rfl⟩
    | isAuthenticated =>
      simp only [perform, (Client.isAuthenticated_tells c s).queue_eq]
      exact ⟨_, fun _ => rfl⟩
    | _ => exact ⟨[], fun queue => congrArg some (List.append_nil queue).symm⟩
  obtain ⟨news, hnews⟩ := hnews
  have hempty : x.news c s = news := by
    rw [ClientStep.news, hnews]
    rfl
  rw [hempty, hnews]

end ClientStep

/-! ### Uses of handles -/

/-- What can be done with handles on queues. -/
inductive QueueUse (σ : Type) : Type 1 where
  | create
  | clone (handle : Nat)
  | add (handle : Nat) (n : Notification)
  | info (handle : Nat) (text : String)
  | error (handle : Nat) (text : String)
  | drain (handle : Nat)
  | length (handle : Nat)
  | isEmpty (handle : Nat)
  /-- A client that holds a handle does a step, in whatever surroundings. -/
  | step (handle : Nat) (c : Client) (s : Surroundings σ) (x : ClientStep)

/-- What comes of it. -/
inductive QueueAnswer where
  | nothing
  | handle (handle : Nat)
  | drained (queue : NotificationQueue)
  | length (n : Nat)
  | isEmpty (b : Bool)

/-- What was drained. -/
def QueueAnswer.taken : QueueAnswer → List Notification
  | drained queue => queue
  | _ => []

namespace QueueUse
variable {σ : Type} [Storage σ]

/-- Does what can be done. -/
def perform (b : Switchboard) : QueueUse σ → QueueAnswer × Switchboard
  | create => (.handle b.create.1, b.create.2)
  | clone handle => (.handle (b.clone handle).1, (b.clone handle).2)
  | add handle n => (.nothing, b.add handle n)
  | info handle text => (.nothing, b.add handle (.info text))
  | error handle text => (.nothing, b.add handle (.error text))
  | drain handle => (.drained (b.drain handle).1, (b.drain handle).2)
  | length handle => (.length (b.queued handle).length, b)
  | isEmpty handle => (.isEmpty (b.queued handle).isEmpty, b)
  | step handle c s x =>
    (.nothing, b.put handle ((x.perform c { s with queue := some (b.queued handle) }).queue.getD []))

/-- The handle that is used. -/
def handle? : QueueUse σ → Option Nat
  | create => none
  | clone handle | add handle _ | info handle _ | error handle _ | drain handle | length handle | isEmpty handle
  | step handle _ _ _ => some handle

/-- What is added. -/
def news : QueueUse σ → List Notification
  | add _ n => [n]
  | info _ text => [.info text]
  | error _ text => [.error text]
  | step _ c s x => x.news c s
  | _ => []

/-- Whether the handle that is used has been given out. -/
def IsIssued (b : Switchboard) (u : QueueUse σ) : Prop := ∀ handle, u.handle? = some handle → handle < b.handles.length

/-- What is added to a queue. -/
def added (b : Switchboard) (q : Nat) (u : QueueUse σ) : List Notification :=
  if u.handle?.map b.queueOf = some q then u.news else []

/-- What is taken out of a queue. -/
def taken (b : Switchboard) (q : Nat) (u : QueueUse σ) : List Notification :=
  if u.handle?.map b.queueOf = some q then (u.perform b).1.taken else []

/-! ### One use -/

/-- What one use preserves: handles keep their queues, and in each queue, what was there and what is added is what is
taken out and what is there then. -/
structure Delivers (b : Switchboard) (u : QueueUse σ) : Prop where
  isWired : (u.perform b).2.IsWired
  length_le : b.handles.length ≤ (u.perform b).2.handles.length
  queueOf : ∀ handle < b.handles.length, (u.perform b).2.queueOf handle = b.queueOf handle
  content : ∀ q, b.content q ++ u.added b q = u.taken b q ++ (u.perform b).2.content q

variable {b : Switchboard} {u : QueueUse σ} {handle : Nat}

/-- A use that changes the queue of its handle. -/
theorem delivers_put (hb : b.IsWired) (hu : u.IsIssued b) (hhandle : u.handle? = some handle)
    (queue : NotificationQueue) (hlater : (u.perform b).2 = b.put handle queue)
    (hqueue : b.queued handle ++ u.news = (u.perform b).1.taken ++ queue) : u.Delivers b where
  isWired := by
    rw [hlater]
    intro q hq
    rw [Switchboard.put, List.length_set]
    exact hb q hq
  length_le := by rw [hlater]; exact Nat.le_refl _
  queueOf _ _ := by rw [hlater]; rfl
  content q := by
    have hlt := hb.queueOf_lt (hu handle hhandle)
    rw [added, taken, hlater, Switchboard.content_put hlt, hhandle]
    simp only [Option.map_some, Option.some_inj]
    split
    · next hq =>
      rw [← hq]
      exact hqueue
    · exact List.append_nil _

/-- A use that changes no queue. -/
theorem delivers_same {more : List Nat} (hhandles : (u.perform b).2.handles = b.handles ++ more)
    (hwired : (u.perform b).2.IsWired) (hcontent : ∀ q, (u.perform b).2.content q = b.content q) (hnews : u.news = [])
    (htaken : (u.perform b).1.taken = []) : u.Delivers b where
  isWired := hwired
  length_le := by rw [hhandles, List.length_append]; exact Nat.le_add_right _ _
  queueOf handle h := by rw [Switchboard.queueOf, hhandles, List.getElem?_append_left h, Switchboard.queueOf]
  content q := by rw [added, taken, hcontent, hnews, htaken, ite_self, List.append_nil, List.nil_append]

/-- **Every use delivers.** -/
theorem perform_delivers (hb : b.IsWired) (hu : u.IsIssued b) : u.Delivers b := by
  cases u with
  | create => exact delivers_same rfl hb.create Switchboard.content_create rfl rfl
  | clone handle => exact delivers_same rfl (hb.clone (hu handle rfl)) (fun _ => rfl) rfl rfl
  | add handle n => exact delivers_put hb hu rfl _ (Switchboard.add_eq_put (hb.queueOf_lt (hu handle rfl)) n) rfl
  | info handle text => exact delivers_put hb hu rfl _ (Switchboard.add_eq_put (hb.queueOf_lt (hu handle rfl)) _) rfl
  | error handle text => exact delivers_put hb hu rfl _ (Switchboard.add_eq_put (hb.queueOf_lt (hu handle rfl)) _) rfl
  | drain handle => exact delivers_put hb hu rfl [] rfl rfl
  | length handle => exact delivers_same (List.append_nil _).symm hb (fun q => rfl) rfl rfl
  | isEmpty handle => exact delivers_same (List.append_nil _).symm hb (fun q => rfl) rfl rfl
  | step handle c s x =>
    refine delivers_put hb hu rfl (b.queued handle ++ x.news c s) ?_ rfl
    rw [perform, ClientStep.perform_queue]
    rfl

/-! ### Runs -/

/-- Does one after the other. -/
def performAll (b : Switchboard) (us : List (QueueUse σ)) : Switchboard := us.foldl (fun b u => (u.perform b).2) b

/-- Whether each handle has been given out when it is used. -/
def AllIssued : Switchboard → List (QueueUse σ) → Prop
  | _, [] => True
  | b, u :: us => u.IsIssued b ∧ AllIssued (u.perform b).2 us

/-- What is added to a queue, in the order in which it is added. -/
def addedAll (q : Nat) : Switchboard → List (QueueUse σ) → List Notification
  | _, [] => []
  | b, u :: us => u.added b q ++ addedAll q (u.perform b).2 us

/-- What is taken out of a queue, in the order in which it is taken out. -/
def takenAll (q : Nat) : Switchboard → List (QueueUse σ) → List Notification
  | _, [] => []
  | b, u :: us => u.taken b q ++ takenAll q (u.perform b).2 us

theorem performAll_conserves : ∀ {us : List (QueueUse σ)} {b : Switchboard}, b.IsWired → AllIssued b us →
    (performAll b us).IsWired ∧
      (∀ handle < b.handles.length, (performAll b us).queueOf handle = b.queueOf handle) ∧
      ∀ q, takenAll q b us ++ (performAll b us).content q = b.content q ++ addedAll q b us
  | [], _, hb, _ => ⟨hb, fun _ _ => rfl, fun _ => (List.append_nil _).symm⟩
  | u :: us, b, hb, ⟨hu, hus⟩ => by
    obtain ⟨hnext, hlength, hkeeps, hcontent⟩ := perform_delivers hb hu
    obtain ⟨hwired, hqueues, hrun⟩ := performAll_conserves hnext hus
    refine ⟨hwired, fun handle h => ?_, fun q => ?_⟩
    · exact (hqueues handle (Nat.lt_of_lt_of_le h hlength)).trans (hkeeps handle h)
    · calc (u.taken b q ++ takenAll q (u.perform b).2 us) ++ (performAll (u.perform b).2 us).content q
          = u.taken b q ++ ((u.perform b).2.content q ++ addedAll q (u.perform b).2 us) := by
            rw [List.append_assoc, hrun]
        _ = (b.content q ++ u.added b q) ++ addedAll q (u.perform b).2 us := by
            rw [← List.append_assoc, hcontent]
        _ = b.content q ++ (u.added b q ++ addedAll q (u.perform b).2 us) := List.append_assoc _ _ _

/-- **Nothing is lost, repeated, put out of order or taken to another queue.** Whatever is done through all handles,
what is taken out of a queue and what is then in it is what was in it and what was added to it. Each handle keeps its
queue. The length that a handle tells, whether it tells that nothing is there, and what is drained through it are those
of what is in its queue; after that, all handles on that queue are empty and all others as they were. A copy of a handle
refers to its queue, and a new handle to a queue that no other refers to. -/
theorem performAll_delivers {b : Switchboard} {us : List (QueueUse σ)} (hb : b.IsWired) (hus : AllIssued b us) :
    let later := performAll b us
    (∀ q, takenAll q b us ++ later.content q = b.content q ++ addedAll q b us) ∧
      (∀ handle < b.handles.length, later.queueOf handle = b.queueOf handle) ∧
      ∀ handle < later.handles.length,
        let rest := later.content (later.queueOf handle)
        ((length handle : QueueUse σ).perform later = (.length rest.length, later) ∧
            (isEmpty handle : QueueUse σ).perform later = (.isEmpty rest.isEmpty, later)) ∧
          (((drain handle : QueueUse σ).perform later).1 = .drained rest ∧ ∀ other < later.handles.length,
            ((drain handle : QueueUse σ).perform later).2.queued other =
              if later.queueOf handle = later.queueOf other then [] else later.queued other) ∧
          (later.clone handle).2.queueOf (later.clone handle).1 = later.queueOf handle ∧
          later.create.2.queueOf later.create.1 ≠ later.queueOf handle := by
  intro later
  obtain ⟨hwired, hqueues, hrun⟩ := performAll_conserves hb hus
  refine ⟨hrun, hqueues, fun handle h => ⟨⟨rfl, rfl⟩, ⟨rfl, fun other _ => ?_⟩, ?_, ?_⟩⟩
  · exact Switchboard.content_put (hwired.queueOf_lt h) [] _
  · exact Switchboard.queueOf_clone
  · rw [Switchboard.queueOf_create]
    exact (Nat.ne_of_lt (hwired.queueOf_lt h)).symm

/-- Two queues, the first with two handles; a client that holds the second of them gets no answer. -/
def sharing : List (QueueUse (Dict String)) :=
  [.create, .clone 0, .error 2 "oops", .info 1 "saved", .drain 0,
    .step 2 Client.onLocalhost { Client.admitting with peer.isReachable := false } (.call (.getSpace "s1")),
    .info 0 "late"]

theorem performAll_delivers_sharing :
    let later := performAll Switchboard.start sharing
    let unanswered := "Request failed: error sending request for url (http://localhost:8080/core/spaces/s1)"
    (Switchboard.start.IsWired ∧ AllIssued Switchboard.start sharing ∧ later.handles.length = 3) ∧
      (addedAll 0 Switchboard.start sharing = [.error "oops", .error unanswered, .info "late"] ∧
        takenAll 0 Switchboard.start sharing = [.error "oops"]) ∧
      later.content 0 = [.error unanswered, .info "late"] ∧
      (length 2 : QueueUse (Dict String)).perform later = (.length 2, later) ∧
      ((drain 2 : QueueUse (Dict String)).perform later).1 = .drained [.error unanswered, .info "late"] ∧
      ((drain 2 : QueueUse (Dict String)).perform later).2.queued 0 = [] ∧
      ((drain 2 : QueueUse (Dict String)).perform later).2.queued 1 = [.info "saved"] := by
  intro later unanswered
  have hwired : Switchboard.start.IsWired := by simp [Switchboard.IsWired, Switchboard.start]
  have hissued : AllIssued Switchboard.start sharing := by
    refine ⟨nofun, ?_, ?_, ?_, ?_, ?_, ?_, trivial⟩
    all_goals
      intro handle hhandle
      cases hhandle
      decide +kernel
  have hadded : addedAll 0 Switchboard.start sharing = [.error "oops", .error unanswered, .info "late"] := by
    decide +kernel
  have htaken : takenAll 0 Switchboard.start sharing = [.error "oops"] := by decide +kernel
  have hhandles : later.handles = [0, 1, 0] := by decide +kernel
  have hother : later.queued 1 = [.info "saved"] := by decide +kernel
  obtain ⟨hrun, -, huse⟩ := performAll_delivers hwired hissued
  have hcontent : later.content 0 = [.error unanswered, .info "late"] := by
    have h := hrun 0
    rw [hadded, htaken] at h
    exact (List.cons.inj h).2
  have hcount : later.handles.length = 3 := congrArg List.length hhandles
  have hlt : ∀ handle < 3, handle < later.handles.length := fun _ h => hcount ▸ h
  have hqueue : later.queueOf 2 = 0 ∧ later.queueOf 0 = 0 ∧ later.queueOf 1 = 1 := by
    simp [Switchboard.queueOf, hhandles]
  obtain ⟨⟨hlength, -⟩, ⟨hdrained, hafter⟩, -⟩ := huse 2 (hlt 2 (by decide))
  rw [hqueue.1, hcontent] at hlength hdrained
  have hzero := hafter 0 (hlt 0 (by decide))
  have hone := hafter 1 (hlt 1 (by decide))
  rw [hqueue.1, hqueue.2.1, if_pos rfl] at hzero
  rw [hqueue.1, hqueue.2.2, if_neg (by decide), hother] at hone
  exact ⟨⟨hwired, hissued, hcount⟩, ⟨hadded, htaken⟩, hcontent, hlength, hdrained, hzero, hone⟩

end QueueUse

end HostingClient
