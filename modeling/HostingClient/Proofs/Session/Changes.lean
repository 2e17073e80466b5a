import HostingClient.Proofs.Storage.Reliable
import HostingClient.Session.Basic

/-! # What each operation does to a session

What looking at the token tells is decided by the token and the time alone (`Session.check_eq_ask` and others). Over
a reliable storage each operation of a session changes the state in memory and the items of the storage in step:
setters and clearers (`Session.changed_apply`), and loaders, which read the login that the items hold
(`Session.restore_eq`). -/

namespace HostingClient

/-- A change of a session. -/
inductive SessionChange where
  | setToken (token : String)
  | clearToken
  | setUser (user : Profile)
  | clearUser

namespace SessionChange

/-- Makes a change. -/
def apply {σ : Type} [Storage σ] (s : Session σ) : SessionChange → Session σ
  | setToken token => s.setToken token
  | clearToken => s.clearToken
  | setUser user => s.setUser user
  | clearUser => s.clearUser

/-- Makes some changes, one after the other. -/
def applyAll {σ : Type} [Storage σ] (s : Session σ) (changes : List SessionChange) : Session σ :=
  changes.foldl apply s

/-- What a change does in memory. -/
def onState (st : SessionState) : SessionChange → SessionState
  | setToken token => { st with token := some token }
  | clearToken => { st with token := none }
  | setUser user => { st with user := some user }
  | clearUser => .none

/-- What a change does to the items of the storage. -/
def onItems (items : Dict String) : SessionChange → Dict String
  | setToken token => items.insert Session.tokenKey token
  | clearToken => items.erase Session.tokenKey
  | setUser user => items.insert Session.userKey (Session.storedUser user)
  | clearUser => (items.erase Session.userKey).erase Session.tokenKey

end SessionChange

namespace Session

theorem userKey_ne_tokenKey : userKey ≠ tokenKey := by decide

/-- The login that items hold. An empty token counts as none, as does a user that cannot be decoded. -/
def loginIn (items : Dict String) : SessionState where
  token := (items.find? tokenKey).filter (· ≠ "")
  user := (items.find? userKey).bind fun text => (Profile.record.decode.run text).toOption

variable {σ : Type} [Storage σ]

/-! ### Looking at the token -/

section
variable {s : Session σ}

theorem check_eq_denied_self (h : s.state.token = none) : s.check = .denied s := by
  unfold check
  rw [h]

theorem clearIfToken_eq_clearUser {token : String} (h : s.state.token = some token) :
    s.clearIfToken token = s.clearUser := if_pos h

theorem check_eq_denied {token : String} (h : s.state.token = some token) (httl : Token.ttl (some token) s.now = 0) :
    s.check = .denied s.clearUser := by
  unfold check
  rw [h, ← clearIfToken_eq_clearUser h]
  exact if_pos httl

theorem check_eq_ask {token : String} (h : s.state.token = some token) (httl : Token.ttl (some token) s.now ≠ 0) :
    s.check = .ask token := by
  unfold check
  rw [h]
  exact if_neg httl

theorem settle_fst (token : String) (accepted : Bool) : (s.settle token accepted).1 = accepted := by
  cases accepted <;> rfl

theorem settle_snd (token : String) (accepted : Bool) :
    (s.settle token accepted).2 = if accepted ∨ s.state.token ≠ some token then s else s.clearUser := by
  cases accepted with
  | true =>
    rw [if_pos (Or.inl rfl)]
    rfl
  | false =>
    by_cases h : s.state.token = some token
    · rw [if_neg (by simp [h])]
      exact clearIfToken_eq_clearUser h
    · rw [if_pos (Or.inr h)]
      exact if_neg h

end

/-! ### Changing -/

variable [ReliableStorage σ]

/-- Whether the storage of a session holds some items and does not fail. -/
def Holds (s : Session σ) (items : Dict String) : Prop :=
  ReliableStorage.IsSound s.storage ∧ itemsOf s.storage = items

/-- A session that was changed in step with its storage. -/
structure Changed (s later : Session σ) (state : SessionState) (items : Dict String) : Prop where
  state : later.state = state
  now : later.now = s.now
  isSound : ReliableStorage.IsSound later.storage
  held : ReliableStorage.held later.storage = .ok items

theorem Changed.holds {s later : Session σ} {state : SessionState} {items : Dict String}
    (h : Changed s later state items) : later.Holds items := ⟨h.isSound, by rw [itemsOf, h.held]; rfl⟩

theorem Changed.get_eq {s later : Session σ} {state : SessionState} {items : Dict String}
    (h : Changed s later state items) (key : String) :
    (Storage.get key later.storage).1 = .ok (items.find? key) := by
  rw [ReliableStorage.get_eq key h.isSound, h.held]
  rfl

variable {s : Session σ}

theorem persist_some (h : ReliableStorage.IsSound s.storage) (key value : String) :
    Changed s (s.persist key (some value)) s.state ((itemsOf s.storage).insert key value) := by
  obtain ⟨later, heq, hsound, hheld⟩ := ReliableStorage.set_eq key value h
  rw [persist, heq]
  exact ⟨rfl, rfl, hsound, hheld⟩

theorem persist_none (h : ReliableStorage.IsSound s.storage) (key : String) :
    Changed s (s.persist key none) s.state ((itemsOf s.storage).erase key) := by
  obtain ⟨later, heq, hsound, hheld⟩ := ReliableStorage.remove_eq key h
  rw [persist, heq]
  exact ⟨rfl, rfl, hsound, hheld⟩

theorem clearUser_changed (h : ReliableStorage.IsSound s.storage) :
    Changed s s.clearUser .none (((itemsOf s.storage).erase userKey).erase tokenKey) := by
  have h1 := persist_none h userKey
  have h2 := persist_none (s := s.persist userKey none) h1.isSound tokenKey
  rw [h1.holds.2] at h2
  exact ⟨rfl, h2.now.trans h1.now, h2.isSound, h2.held⟩

/-- **Every change is made in memory and in the storage.** -/
theorem changed_apply (h : ReliableStorage.IsSound s.storage) (c : SessionChange) :
    Changed s (c.apply s) (c.onState s.state) (c.onItems (itemsOf s.storage)) := by
  cases c with
  | setToken token =>
    have hp := persist_some h tokenKey token
    exact ⟨by rw [SessionChange.apply, setToken, SessionChange.onState, ← hp.state], hp.now, hp.isSound, hp.held⟩
  | clearToken =>
    have hp := persist_none h tokenKey
    exact ⟨by rw [SessionChange.apply, clearToken, SessionChange.onState, ← hp.state], hp.now, hp.isSound, hp.held⟩
  | setUser user =>
    have hp := persist_some h userKey (storedUser user)
    exact ⟨by rw [SessionChange.apply, setUser, SessionChange.onState, ← hp.state], hp.now, hp.isSound, hp.held⟩
  | clearUser => exact clearUser_changed h

theorem isSound_applyAll (changes : List SessionChange) : ∀ {s : Session σ}, ReliableStorage.IsSound s.storage →
    ReliableStorage.IsSound (SessionChange.applyAll s changes).storage := by
  induction changes with
  | nil => exact id
  | cons c changes ih => exact fun h => ih (changed_apply h c).isSound

/-! ### Loading -/

theorem readStored_eq (h : ReliableStorage.IsSound s.storage) (key : String) :
    s.readStored key = ((itemsOf s.storage).find? key, s) := by
  rw [readStored, ReliableStorage.get_eq key h, itemsOf]
  cases ReliableStorage.held s.storage <;> rfl

theorem loadToken_eq (h : ReliableStorage.IsSound s.storage) :
    s.loadToken.2 = { s with state.token := (loginIn (itemsOf s.storage)).token } := by
  rw [loadToken, readStored_eq h]
  rfl

theorem loadUser_eq (h : ReliableStorage.IsSound s.storage) :
    s.loadUser.2 = { s with state.user := (loginIn (itemsOf s.storage)).user } := by
  rw [loadUser, readStored_eq h]
  rfl

/-- **A restored session has the login that the storage holds.** -/
theorem restore_eq {storage : σ} (h : ReliableStorage.IsSound storage) (now : Time.Instant) :
    restore storage now = ⟨loginIn (itemsOf storage), storage, now⟩ := by
  rw [restore, loadToken_eq (s := new storage now) h, loadUser_eq h]
  rfl

end Session

end HostingClient
