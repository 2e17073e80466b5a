import HostingClient.Proofs.Session.Changes

/-! # Looking at a token

What a check of a session gives and does (`Session.isAuthenticated_follow`), over a reliable storage, at any time, and
with a validator that may make changes of the session before it answers. A session is only cleared if it holds the
token that was asked about when the answer comes. -/

namespace HostingClient.Session

variable {σ : Type} [Storage σ]

/-- A session without login after another one: nothing is left in memory and under the keys of a session, and the
other keys of the storage keep their values. -/
structure IsCleared (before later : Session σ) : Prop where
  state : later.state = .none
  now : later.now = before.now
  token : (Storage.get tokenKey later.storage).1 = .ok none
  user : (Storage.get userKey later.storage).1 = .ok none
  others : ∀ key value, key ≠ tokenKey → key ≠ userKey → (Storage.get key before.storage).1 = .ok value →
    (Storage.get key later.storage).1 = .ok value

/-- A validator that makes the changes of a plan before it answers. -/
def follow (plan : String → Session σ → Verdict × List SessionChange) : Validator σ := fun token s =>
  ((plan token s).1, SessionChange.applyAll s (plan token s).2)

variable [ReliableStorage σ] {s : Session σ}

theorem isCleared_clearUser (h : ReliableStorage.IsSound s.storage) : IsCleared s s.clearUser := by
  have hc := clearUser_changed h
  refine ⟨hc.state, hc.now, ?_, ?_, ?_⟩
  · rw [hc.get_eq, Dict.find?_erase, if_pos rfl]
  · rw [hc.get_eq, Dict.find?_erase, if_neg userKey_ne_tokenKey, Dict.find?_erase, if_pos rfl]
  · intro key value ht hu hv
    rw [hc.get_eq, Dict.find?_erase, if_neg ht, Dict.find?_erase, if_neg hu, find?_itemsOf h hv]

/-- **What a check of a session gives and does.** -/
theorem isAuthenticated_follow (h : ReliableStorage.IsSound s.storage)
    (plan : String → Session σ → Verdict × List SessionChange) :
    (s.state.token = none → s.isAuthenticated (follow plan) = (false, [], s)) ∧
    ∀ token, s.state.token = some token →
      (Token.ttl (some token) s.now = 0 →
        ∃ later, s.isAuthenticated (follow plan) = (false, [], later) ∧ IsCleared s later) ∧
      (Token.ttl (some token) s.now ≠ 0 →
        let left := (follow plan token s).2
        let accepted := decide ((follow plan token s).1 = .accepted)
        ∃ later, s.isAuthenticated (follow plan) = (accepted, [token], later) ∧
          if accepted ∨ left.state.token ≠ some token then later = left else IsCleared left later) := by
  unfold isAuthenticated
  constructor
  · intro htoken
    rw [check_eq_denied_self htoken]
  intro token htoken
  constructor
  · intro httl
    rw [check_eq_denied htoken httl]
    exact ⟨s.clearUser, rfl, isCleared_clearUser h⟩
  · intro httl left accepted
    rw [check_eq_ask htoken httl]
    refine ⟨(left.settle token accepted).2, ?_, ?_⟩
    · exact congrArg (fun b => (b, [token], (left.settle token accepted).2)) (settle_fst token accepted)
    · rw [settle_snd]
      split
      · rfl
      · exact isCleared_clearUser (isSound_applyAll _ h)

/-- A session with a token that expires in 2100. -/
def lasting : Session (Dict String) := ⟨⟨some "e30.eyJleHAiOjQxMDI0NDQ4MDB9.x", none⟩, .empty, ⟨0, 0⟩⟩

/-- A validator that logs in anew and then rejects the token. -/
def renewing : String → Session (Dict String) → Verdict × List SessionChange := fun _ _ =>
  (.rejected, [.clearUser, .setToken "new"])

/-- A login that is made while the provider is asked stays when the old token is rejected. -/
theorem isAuthenticated_follow_renewing :
    ReliableStorage.IsSound lasting.storage ∧ lasting.ttl ≠ 0 ∧
    ∃ later, lasting.isAuthenticated (follow renewing) = (false, ["e30.eyJleHAiOjQxMDI0NDQ4MDB9.x"], later) ∧
      later.state = ⟨some "new", none⟩ ∧ (Storage.get tokenKey later.storage).1 = .ok (some "new") := by
  have hsound : ReliableStorage.IsSound lasting.storage := trivial
  have httl : Token.ttl (some "e30.eyJleHAiOjQxMDI0NDQ4MDB9.x") lasting.now ≠ 0 := by decide +kernel
  obtain ⟨later, heq, hlater⟩ := ((isAuthenticated_follow hsound renewing).2 _ rfl).2 httl
  rw [if_pos (.inr (by decide))] at hlater
  refine ⟨hsound, httl, later, heq, ?_, ?_⟩
  · rw [hlater]
    rfl
  · rw [hlater]
    rfl

end HostingClient.Session
