import HostingClient.Proofs.Session.Authentication

/-! # Sessions over storages that fail

What a session holds in memory, what a check of it answers and whom it asks about do not depend on its storage: all of
it follows from what is done with the session (`SessionUse.performAll_eq`). So does what the session tries to write,
and each write is tried whatever became of the others. A storage of which single operations fail therefore changes
nothing but itself, and there each key holds what the last write to it that did not fail has left
(`SessionUse.performAll_faulty`). -/

namespace HostingClient

/-! ### Writes -/

/-- A write to a storage: a value for a key, or the removal of the key. -/
structure StorageWrite where
  key : String
  value : Option String
deriving DecidableEq, Repr

namespace StorageWrite

/-- The operation of a write. -/
def access (w : StorageWrite) : StorageAccess := if w.value.isSome then .set else .remove

/-- Tries a write; whether it succeeds is not looked at. -/
def perform {σ : Type} [Storage σ] (storage : σ) (w : StorageWrite) : σ :=
  match w.value with
  | some value => (Storage.set w.key value storage).2
  | none => (Storage.remove w.key storage).2

/-- What a write makes of items. -/
def onItems (items : Dict String) (w : StorageWrite) : Dict String :=
  match w.value with
  | some value => items.insert w.key value
  | none => items.erase w.key

/-- What a key holds once all of some writes were made. -/
def lastTo (key : String) (before : Option String) (writes : List StorageWrite) : Option String :=
  match (writes.filter fun w => w.key = key).getLast? with
  | some w => w.value
  | none => before

theorem find?_onItems (items : Dict String) (w : StorageWrite) (key : String) :
    (w.onItems items).find? key = if w.key = key then w.value else items.find? key := by
  unfold onItems
  by_cases h : w.key = key
  · rw [if_pos h]
    cases hv : w.value <;> simp [h]
  · rw [if_neg h]
    have hne : key ≠ w.key := fun e => h e.symm
    cases hv : w.value <;> simp [hne]

theorem lastTo_cons (key : String) (before : Option String) (w : StorageWrite) (writes : List StorageWrite) :
    lastTo key before (w :: writes) = lastTo key (if w.key = key then w.value else before) writes := by
  unfold lastTo
  by_cases h : w.key = key
  · rw [List.filter_cons_of_pos (by simpa using h), List.getLast?_cons, if_pos h]
    cases (writes.filter fun w => w.key = key).getLast? <;> rfl
  · rw [List.filter_cons_of_neg (by simpa using h), if_neg h]

end StorageWrite

namespace FaultyStorage

/-- The writes that succeed if some writes are tried one after the other. -/
def completed (s : FaultyStorage) (writes : List StorageWrite) : List StorageWrite :=
  ((writes.zipIdx s.count).filter fun p => !s.fails p.2 p.1.access).map (·.1)

/-- The storage after a write was tried. -/
def after (s : FaultyStorage) (w : StorageWrite) : FaultyStorage :=
  { s with count := s.count + 1, items := if s.fails s.count w.access then s.items else w.onItems s.items }

/-- An operation that fails leaves the items as they were. -/
theorem attempt_snd {α : Type} (access : StorageAccess) (act : Dict String → Except Failure α × Dict String)
    (s : FaultyStorage) : (attempt access act s).2 =
      { s with count := s.count + 1, items := if s.fails s.count access then s.items else (act s.items).2 } := by
  unfold attempt
  cases s.fails s.count access <;> rfl

theorem perform_eq_after (s : FaultyStorage) (w : StorageWrite) : w.perform s = s.after w := by
  obtain ⟨key, value⟩ := w
  cases value with
  | some v => exact attempt_snd .set (Storage.set key v) s
  | none => exact attempt_snd .remove (Storage.remove key) s

theorem completed_cons (s : FaultyStorage) (w : StorageWrite) (writes : List StorageWrite) :
    s.completed (w :: writes) =
      if s.fails s.count w.access then (s.after w).completed writes else w :: (s.after w).completed writes := by
  unfold completed after
  rw [List.zipIdx_cons, List.filter_cons]
  cases s.fails s.count w.access <;> rfl

/-- Each key holds what the last write to it that succeeded has left. -/
theorem find?_performAll (key : String) : ∀ (writes : List StorageWrite) (s : FaultyStorage),
    (writes.foldl StorageWrite.perform s).items.find? key =
      StorageWrite.lastTo key (s.items.find? key) (s.completed writes)
  | [], s => rfl
  | w :: writes, s => by
    have ih := find?_performAll key writes (s.after w)
    have hitems : (s.after w).items.find? key =
        if s.fails s.count w.access then s.items.find? key
        else if w.key = key then w.value else s.items.find? key := by
      unfold after
      split
      · rfl
      · exact StorageWrite.find?_onItems s.items w key
    rw [List.foldl_cons, perform_eq_after, ih, completed_cons, hitems]
    split
    · rfl
    · rw [StorageWrite.lastTo_cons]

end FaultyStorage

/-! ### Changes -/

namespace SessionChange

/-- What a change writes. -/
def writes : SessionChange → List StorageWrite
  | setToken token => [⟨Session.tokenKey, some token⟩]
  | clearToken => [⟨Session.tokenKey, none⟩]
  | setUser user => [⟨Session.userKey, some (Session.storedUser user)⟩]
  | clearUser => [⟨Session.userKey, none⟩, ⟨Session.tokenKey, none⟩]

variable {σ : Type} [Storage σ]

/-- A change is made in memory whatever the storage does, and each of its writes is tried. -/
theorem apply_eq (s : Session σ) (c : SessionChange) :
    c.apply s = { s with state := c.onState s.state, storage := c.writes.foldl StorageWrite.perform s.storage } := by
  cases c <;> rfl

theorem applyAll_eq : ∀ (changes : List SessionChange) (s : Session σ),
    applyAll s changes = { s with
      state := changes.foldl onState s.state
      storage := (changes.flatMap writes).foldl StorageWrite.perform s.storage }
  | [], s => rfl
  | c :: changes, s => by
    have ih := applyAll_eq changes (c.apply s)
    rw [apply_eq] at ih
    rw [List.flatMap_cons, List.foldl_append, List.foldl_cons]
    exact (congrArg (fun s => applyAll s changes) (apply_eq s c)).trans ih

end SessionChange

/-! ### Uses -/

/-- A use of a session that reads nothing from its storage. -/
inductive SessionUse where
  | change (c : SessionChange)
  /-- Looking at the token at some time, with a validator that follows a plan: given the token and what is in memory,
  it makes changes of the session and answers. -/
  | isAuthenticated (now : Time.Instant) (plan : String → SessionState → Verdict × List SessionChange)

/-- What is seen of a use: what is in memory after it and, if the token was looked at, what the check answered and
which tokens the validator was asked about. -/
structure Observation where
  state : SessionState
  answer : Option Bool
  asked : List String
deriving DecidableEq, Repr

namespace SessionUse

/-- The changes that a use makes. A check that does not end well logs out, if the token that it is about is still the
one in memory. -/
def changes (st : SessionState) : SessionUse → List SessionChange
  | change c => [c]
  | isAuthenticated now plan =>
    match st.token with
    | none => []
    | some token =>
      if Token.ttl (some token) now = 0 then [.clearUser]
      else
        let (verdict, made) := plan token st
        made ++ if verdict = .accepted ∨ (made.foldl SessionChange.onState st).token ≠ some token then []
          else [.clearUser]

/-- What is in memory after a use. -/
def onState (st : SessionState) (x : SessionUse) : SessionState := (x.changes st).foldl SessionChange.onState st

/-- What is seen of a use. -/
def observation (st : SessionState) (x : SessionUse) : Observation :=
  match x with
  | change _ => ⟨x.onState st, none, []⟩
  | isAuthenticated now plan =>
    match st.token with
    | none => ⟨x.onState st, some false, []⟩
    | some token =>
      if Token.ttl (some token) now = 0 then ⟨x.onState st, some false, []⟩
      else ⟨x.onState st, some (decide ((plan token st).1 = .accepted)), [token]⟩

/-- What is seen of some uses, one after the other. -/
def observations (st : SessionState) : List SessionUse → List Observation
  | [] => []
  | x :: uses => x.observation st :: observations (x.onState st) uses

/-- What is written in the course of some uses. -/
def mirrored (st : SessionState) : List SessionUse → List StorageWrite
  | [] => []
  | x :: uses => (x.changes st).flatMap SessionChange.writes ++ mirrored (x.onState st) uses

variable {σ : Type} [Storage σ]

/-- Does a use. -/
def perform (s : Session σ) : SessionUse → Observation × Session σ
  | change c =>
    let s := c.apply s
    (⟨s.state, none, []⟩, s)
  | isAuthenticated now plan =>
    let (answer, asked, s) :=
      Session.isAuthenticated (Session.follow fun token s => plan token s.state) { s with now }
    (⟨s.state, some answer, asked⟩, s)

/-- Does some uses, one after the other. -/
def performAll (s : Session σ) : List SessionUse → List Observation × Session σ
  | [] => ([], s)
  | x :: uses =>
    let (o, s) := x.perform s
    let (os, s) := performAll s uses
    (o :: os, s)

/-- A check answers, asks and changes as its token, its time and its plan tell. -/
theorem perform_isAuthenticated (s : Session σ) (now : Time.Instant)
    (plan : String → SessionState → Verdict × List SessionChange) :
    ((isAuthenticated now plan).perform s).1 = (isAuthenticated now plan).observation s.state ∧
      ((isAuthenticated now plan).perform s).2 =
        SessionChange.applyAll { s with now } ((isAuthenticated now plan).changes s.state) := by
  have hstate : ∀ (changes : List SessionChange), (SessionChange.applyAll { s with now } changes).state =
      changes.foldl SessionChange.onState s.state := fun changes => by rw [SessionChange.applyAll_eq]
  simp only [perform, observation, onState, changes, Session.isAuthenticated]
  cases htoken : s.state.token with
  | none =>
    rw [Session.check_eq_denied_self (s := { s with now }) htoken]
    exact ⟨rfl, rfl⟩
  | some token =>
    by_cases httl : Token.ttl (some token) now = 0
    · rw [Session.check_eq_denied (s := { s with now }) htoken httl]
      simp only [if_pos httl]
      exact ⟨congrArg (fun st => Observation.mk st (some false) []) (hstate [.clearUser]), rfl⟩
    · rw [Session.check_eq_ask (s := { s with now }) htoken httl]
      simp only [if_neg httl]
      let made := (plan token s.state).2
      let accepted := decide ((plan token s.state).1 = .accepted)
      let left := SessionChange.applyAll { s with now } made
      have hleft : left.state = made.foldl SessionChange.onState s.state := hstate made
      have hlater : (left.settle token accepted).2 = SessionChange.applyAll { s with now }
          (made ++ if (plan token s.state).1 = .accepted ∨
            (made.foldl SessionChange.onState s.state).token ≠ some token then [] else [.clearUser]) := by
        rw [Session.settle_snd, SessionChange.applyAll, List.foldl_append, hleft]
        by_cases hkeep : (plan token s.state).1 = .accepted ∨
            (made.foldl SessionChange.onState s.state).token ≠ some token
        · rw [if_pos hkeep, if_pos (hkeep.imp_left decide_eq_true)]
          rfl
        · rw [if_neg hkeep, if_neg (mt (Or.imp_left of_decide_eq_true) hkeep)]
          rfl
      refine ⟨?_, hlater⟩
      change Observation.mk (left.settle token accepted).2.state (some (left.settle token accepted).1) [token] = _
      rw [Session.settle_fst, hlater, hstate]

/-- **A use of a session** is seen, and changes the session, independently of what the storage does. -/
theorem perform_eq (s : Session σ) (x : SessionUse) :
    (x.perform s).1 = x.observation s.state ∧ (x.perform s).2.state = x.onState s.state ∧
      (x.perform s).2.storage =
        ((x.changes s.state).flatMap SessionChange.writes).foldl StorageWrite.perform s.storage := by
  cases x with
  | change c =>
    have happly := SessionChange.apply_eq s c
    refine ⟨?_, ?_, ?_⟩
    · exact congrArg (fun s => Observation.mk s.state none []) happly
    · exact congrArg Session.state happly
    · rw [changes, List.flatMap_singleton]
      exact congrArg Session.storage happly
  | isAuthenticated now plan =>
    obtain ⟨hseen, hlater⟩ := perform_isAuthenticated s now plan
    rw [SessionChange.applyAll_eq] at hlater
    refine ⟨hseen, ?_, ?_⟩
    · rw [hlater]
      rfl
    · rw [hlater]

theorem performAll_eq : ∀ (uses : List SessionUse) (s : Session σ),
    (performAll s uses).1 = observations s.state uses ∧
      (performAll s uses).2.storage = (mirrored s.state uses).foldl StorageWrite.perform s.storage
  | [], s => ⟨rfl, rfl⟩
  | x :: uses, s => by
    obtain ⟨hseen, hstate, hstorage⟩ := perform_eq s x
    obtain ⟨ihseen, ihstorage⟩ := performAll_eq uses (x.perform s).2
    rw [hstate] at ihseen ihstorage
    constructor
    · change (x.perform s).1 :: (performAll (x.perform s).2 uses).1 = _
      rw [hseen, ihseen]
      rfl
    · change (performAll (x.perform s).2 uses).2.storage = _
      rw [ihstorage, hstorage, mirrored, List.foldl_append]

/-- **Faults of a storage stay in the storage.** Whatever operations of it fail, every use of a session is seen as over
the same storage without faults, and each key holds what the last write to it that succeeded has left. -/
theorem performAll_faulty (storage : FaultyStorage) (now : Time.Instant) (uses : List SessionUse) :
    let faulty := performAll (Session.new storage now) uses
    let smooth := performAll (Session.new { storage with fails := fun _ _ => false } now) uses
    faulty.1 = smooth.1 ∧
    ∀ key, faulty.2.storage.items.find? key =
      StorageWrite.lastTo key (storage.items.find? key) (storage.completed (mirrored .none uses)) := by
  intro faulty smooth
  obtain ⟨hseen, hstorage⟩ := performAll_eq uses (Session.new storage now)
  obtain ⟨hsmooth, -⟩ := performAll_eq uses (Session.new { storage with fails := fun _ _ => false } now)
  refine ⟨hseen.trans hsmooth.symm, fun key => ?_⟩
  have hfind := FaultyStorage.find?_performAll key (mirrored .none uses) storage
  rw [← hfind]
  exact congrArg (fun s : FaultyStorage => s.items.find? key) hstorage

end SessionUse

end HostingClient
