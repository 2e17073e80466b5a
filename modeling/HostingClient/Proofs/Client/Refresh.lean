import HostingClient.Proofs.Client.Login

/-! # Refreshes while others change the session

A refresh sends the token that it wants to trade, waits, and puts the token of the answer in the place of whatever
token the session has by then: of a newer one too, and of none at all after a logout (`Client.refreshDuring_replaces`).
An answer without a token leaves the session as the others left it. -/

namespace HostingClient.Client

open Session

variable {σ : Type} [Storage σ] [ReliableStorage σ] {c : Client} {s : Surroundings σ} {current : String}

/-- A session over a storage that does not fail whose token was replaced. Its state is what it was before only if it
had that token already. -/
theorem state_eq_of_renewed {left later : Session σ} {token : String} (h : Renewed left later token) :
    later.state = left.state ↔ left.state.token = some token := by
  rw [h.changed.state]
  constructor
  · intro heq
    rw [← heq]
  · intro htoken
    exact SessionState.ext htoken.symm rfl

/-- **A refresh replaces the token that the session has when the answer comes**, whatever changes others have made
since it was sent: the session is left alone only if the answer has no token, or the one that is there already. -/
theorem refreshDuring_replaces (hs : ReliableStorage.IsSound s.session.storage)
    (htoken : s.session.state.token = some current) :
    (∀ changes, let left := SessionChange.applyAll s.session changes
      let called := c.refreshDuring (SessionChange.applyAll · changes) s
      Failed left called ∨
        ∃ token, Text.isBlankText token = false ∧ called.1 = .ok () ∧ Renewed left called.2.session token) ∧
    (isPlace (c.settings.identityUrl ++ "/tokens/refresh") = true → isHeaderText current = true →
      ∃ trade, Posts c "/tokens/refresh" .empty (some (bearer current)) trade ∧
        ∀ changes, let left := SessionChange.applyAll s.session changes
          let called := c.refreshDuring (SessionChange.applyAll · changes) s
          let answer := (s.peer.answer trade).1
          called.2.exchanges = s.exchanges ++ [⟨trade, answer⟩] ∧
          ((∀ token, ¬ Grants 200 answer token) → Failed left called) ∧
          (∀ token, Grants 200 answer token → called.1 = .ok () ∧ Renewed left called.2.session token) ∧
          (called.2.session.state = left.state ↔
            ∀ token, Grants 200 answer token → left.state.token = some token)) := by
  constructor
  · intro changes left called
    have hleft : ReliableStorage.IsSound left.storage := isSound_applyAll changes hs
    rcases refreshDuring_ends c (SessionChange.applyAll · changes) htoken with
      hfailed | ⟨token, answer, hgrant, hresult, hsession⟩
    · exact .inl hfailed
    · refine .inr ⟨token, hgrant.not_blank, hresult, ?_⟩
      have hcalled : called.2.session = left.setToken token := hsession
      rw [hcalled]
      exact renewed hleft hgrant.ne_empty
  · intro hplace htext
    obtain ⟨trade, hposts, hends⟩ := refreshDuring_sent hplace htext htoken
    refine ⟨trade, hposts, fun changes => ?_⟩
    intro left called answer
    have hleft : ReliableStorage.IsSound left.storage := isSound_applyAll changes hs
    obtain ⟨hexchanges, hfailed, hgranted⟩ := hends (SessionChange.applyAll · changes)
    have hrenewed : ∀ token, Grants 200 answer token → called.1 = .ok () ∧ Renewed left called.2.session token := by
      intro token hgrant
      obtain ⟨hresult, hsession⟩ := hgranted token hgrant
      have hcalled : called.2.session = left.setToken token := hsession
      refine ⟨hresult, ?_⟩
      rw [hcalled]
      exact renewed hleft hgrant.ne_empty
    refine ⟨hexchanges, hfailed, hrenewed, fun heq token hgrant => ?_, fun hsame => ?_⟩
    · exact (state_eq_of_renewed (hrenewed token hgrant).2).mp heq
    · by_cases hgrant : ∃ token, Grants 200 answer token
      · obtain ⟨token, hgrant⟩ := hgrant
        exact (state_eq_of_renewed (hrenewed token hgrant).2).mpr (hsame token hgrant)
      · rw [(hfailed (not_exists.mp hgrant)).session]

/-- A login that is made while a refresh waits loses its token to the answer. -/
theorem refreshDuring_replaces_newer :
    let s := trading "old" (Text.Utf8.encode ['n', 'e', 'w'])
    let changes := [SessionChange.clearUser, .setToken "newer"]
    let left := SessionChange.applyAll s.session changes
    let called := onLocalhost.refreshDuring (SessionChange.applyAll · changes) s
    ReliableStorage.IsSound s.session.storage ∧ s.session.state.token = some "old" ∧
    isPlace (onLocalhost.settings.identityUrl ++ "/tokens/refresh") = true ∧ isHeaderText "old" = true ∧
    left.state = ⟨some "newer", none⟩ ∧ called.1 = .ok () ∧ Renewed left called.2.session "new" := by
  intro s changes left called
  have hsound : ReliableStorage.IsSound s.session.storage := trivial
  have htoken : s.session.state.token = some "old" := rfl
  have hplace : isPlace (onLocalhost.settings.identityUrl ++ "/tokens/refresh") = true := by decide +kernel
  have htext : isHeaderText "old" = true := by decide
  obtain ⟨trade, -, hends⟩ := (refreshDuring_replaces hsound htoken).2 hplace htext
  have hanswer : (s.peer.answer trade).1 = some ⟨200, Text.Utf8.encode ['n', 'e', 'w'], false⟩ := by
    simp [s, trading, Peer.answer, Peer.gets]
  have hgrant : Grants 200 (s.peer.answer trade).1 "new" := ⟨_, hanswer, rfl, rfl, by decide, by decide⟩
  obtain ⟨hresult, hrenewed⟩ := (hends changes).2.2.1 "new" hgrant
  exact ⟨hsound, htoken, hplace, htext, rfl, hresult, hrenewed⟩

/-- A logout that is made while a refresh waits is undone by the answer. -/
theorem refreshDuring_undoes_logout :
    let s := trading "old" (Text.Utf8.encode ['n', 'e', 'w'])
    let left := SessionChange.applyAll s.session [.clearUser]
    let later := (onLocalhost.refreshDuring (SessionChange.applyAll · [.clearUser]) s).2.session
    left.state = .none ∧ left.storage.find? tokenKey = none ∧
    later.state = ⟨some "new", none⟩ ∧ later.storage.find? tokenKey = some "new" := by
  decide +kernel

end HostingClient.Client
