import HostingClient.Proofs.Client.Run
import HostingClient.Proofs.Session.Faults

/-! # Tokens that were taken away

A token that was taken from a session does not come back by itself (`ClientStep.performAll_removed`). Two facts are
kept by every step: a token that is not in memory is not in the storage either, from which a session may be restored
(`Session.IsInStep`), and a token that is not in memory gets there only as the new token of a step. What a step sends
with a token carries the one in memory, unless the caller gave it. -/

namespace HostingClient

/-! ### Memory and storage -/

theorem SessionChange.token_foldl_ne {t : String} : ∀ (changes : List SessionChange) {st : SessionState},
    st.token ≠ some t → SessionChange.setToken t ∉ changes → (changes.foldl onState st).token ≠ some t
  | [], _, hst, _ => hst
  | c :: changes, st, hst, hc => by
    have hmem : c ≠ .setToken t ∧ SessionChange.setToken t ∉ changes := by
      constructor
      · rintro rfl
        exact hc (by simp)
      · exact fun h => hc (List.mem_cons_of_mem c h)
    refine token_foldl_ne changes ?_ hmem.2
    cases c with
    | setToken token => exact fun h => hmem.1 (congrArg setToken (Option.some.inj h))
    | clearToken => exact nofun
    | setUser user => exact hst
    | clearUser => exact nofun

namespace Session

variable {σ : Type} [Storage σ] [ReliableStorage σ] {s : Session σ} {t : String}

/-- The storage does not fail, and unless a token is in memory a restored session would not have it. -/
structure IsInStep (t : String) (s : Session σ) : Prop where
  isSound : ReliableStorage.IsSound s.storage
  stored : s.state.token ≠ some t → (loginIn (itemsOf s.storage)).token ≠ some t

theorem isInStep_apply (h : s.IsInStep t) (c : SessionChange) : (c.apply s).IsInStep t := by
  have hc := changed_apply h.isSound c
  refine ⟨hc.isSound, fun hne => ?_⟩
  rw [hc.state] at hne
  rw [hc.holds.2, loginIn]
  have hkeys := userKey_ne_tokenKey
  cases c with
  | setToken token =>
    rw [SessionChange.onItems, Dict.find?_insert, if_pos rfl]
    intro hstored
    have hkept : Option.filter (fun token => decide (token ≠ "")) (some token) = some t := hstored
    exact hne (Option.filter_eq_some_iff.mp hkept).1
  | clearToken =>
    rw [SessionChange.onItems, Dict.find?_erase, if_pos rfl]
    exact nofun
  | setUser user =>
    rw [SessionChange.onItems, Dict.find?_insert, if_neg hkeys.symm]
    exact h.stored hne
  | clearUser =>
    rw [SessionChange.onItems, Dict.find?_erase, if_pos rfl]
    exact nofun

theorem isInStep_applyAll : ∀ (changes : List SessionChange) {s : Session σ}, s.IsInStep t →
    (SessionChange.applyAll s changes).IsInStep t
  | [], _, h => h
  | c :: changes, _, h => isInStep_applyAll changes (isInStep_apply h c)

end Session

namespace ClientStep

variable {σ : Type} [Storage σ] {c : Client} {s : Surroundings σ} {t : String}

/-! ### Requests -/

/-- Whether a step is a call to which the caller gives a token. -/
def Presents (t : String) (x : ClientStep) : Prop := x = call (.validateToken t) ∨ x = call (.refreshToken t)

theorem presents_of_credential {α : Type} {op : Operation α} (h : op.endpoint.credential = .bearer t) :
    (call op).Presents t := by
  cases op
  case validateToken token =>
    cases h
    exact .inl rfl
  case refreshToken token =>
    cases h
    exact .inr rfl
  all_goals cases h

/-- What sends a token is a session that has it, or a caller that gives it. -/
theorem Involves.token_eq {token : Option String} {x : ClientStep} {α : Type} {op : Operation α}
    (hop : Involves token x op) (h : op.endpoint.credential = .bearer t) (hx : ¬ x.Presents t) : token = some t := by
  cases hop with
  | own op => exact absurd (presents_of_credential h) hx
  | validation htoken =>
    cases h
    exact htoken
  | refresh htoken =>
    cases h
    exact htoken
  | check email password => cases h
  | creation email password => cases h

theorem perform_extends_unsent (hkey : c.settings.apiKey ≠ some (Client.bearer t))
    (hne : s.session.state.token ≠ some t) {x : ClientStep} (hx : ¬ x.Presents t) :
    s.Extends (x.perform c s) fun e => Client.bearer t ∉ e.request.authorization := by
  refine (perform_extends c s x).mono ?_
  rintro e ⟨α, op, hop, hwrites⟩ hsent
  rcases Client.authorization_eq_bearer (Client.authorization_of_bearer_mem hwrites hsent) with
    htoken | hcredential | hown
  · exact hne htoken
  · exact hne (hop.token_eq hcredential hx)
  · exact hkey hown

/-! ### Steps that bring a token in or take it away -/

/-- The tokens that some steps bring into the session. -/
def newTokens (c : Client) (s : Surroundings σ) : List ClientStep → List String
  | [] => []
  | x :: steps => (x.newToken? c s).toList ++ newTokens c (x.perform c s) steps

/-- Whether a step ends the login: it logs out or drops the token, or it finds that the session is not authenticated. -/
def EndsLogin (c : Client) (s : Surroundings σ) : ClientStep → Prop
  | logout | change .clearToken | change .clearUser => True
  | isAuthenticated => (c.isAuthenticated s).1 = .ok false
  | call op => op.isPrivileged = true ∧ (c.isAuthenticated s).1 = .ok false
  | _ => False

theorem EndsLogin.token_eq_none {x : ClientStep} (h : x.EndsLogin c s) :
    (x.perform c s).session.state.token = none := by
  have hdenied : (c.isAuthenticated s).1 = .ok false → (c.isAuthenticated s).2.session.state.token = none := by
    intro hanswer
    rcases (Client.isAuthenticated_extends c s).2 with ⟨htrue, -⟩ | ⟨-, ⟨hsession, hnone⟩ | hsession⟩
    · exact absurd (htrue.symm.trans hanswer) nofun
    · rw [hsession, hnone]
    · rw [hsession]
      rfl
  cases x with
  | call op =>
    obtain ⟨hop, hanswer⟩ := h
    rw [perform, Client.perform_refused ((Operation.isGated_eq op).trans hop) (Prod.ext hanswer rfl)]
    exact hdenied hanswer
  | isAuthenticated => exact hdenied h
  | logout => rfl
  | change d =>
    cases d with
    | clearToken => rfl
    | clearUser => rfl
    | setToken token => exact absurd h id
    | setUser user => exact absurd h id
  | _ => exact absurd h id

/-! ### Runs -/

variable [ReliableStorage σ]

theorem Moved.isInStep {s later : Session σ} {newToken : Option String} (hm : Moved s later newToken)
    (h : s.IsInStep t) : later.IsInStep t := by
  cases hm with
  | changed changes hlater hnew =>
    rw [hlater]
    exact Session.isInStep_applyAll changes h
  | loaded hstorage htoken => exact ⟨hstorage ▸ h.isSound, fun hne => by rw [hstorage, ← htoken]; exact hne⟩
  | kept hstorage htoken =>
    refine ⟨hstorage ▸ h.isSound, fun hne => ?_⟩
    rw [hstorage]
    exact h.stored (htoken ▸ hne)

theorem Moved.token_ne {s later : Session σ} {newToken : Option String} (hm : Moved s later newToken)
    (h : s.IsInStep t) (hne : s.state.token ≠ some t) (hnew : newToken ≠ some t) : later.state.token ≠ some t := by
  cases hm with
  | changed changes hlater hset =>
    rw [hlater, SessionChange.applyAll_eq]
    exact SessionChange.token_foldl_ne changes hne fun hmem => hnew (hset t hmem)
  | loaded hstorage htoken =>
    rw [htoken]
    exact h.stored hne
  | kept hstorage htoken =>
    rw [htoken]
    exact hne

theorem performAll_isInStep : ∀ (steps : List ClientStep) {s : Surroundings σ}, s.session.IsInStep t →
    s.session.state.token ≠ some t → t ∉ newTokens c s steps →
    (performAll c s steps).session.state.token ≠ some t
  | [], _, _, hne, _ => hne
  | x :: steps, s, h, hne, hnew => by
    obtain ⟨hnow, hlater⟩ := not_or.mp (mt List.mem_append.mpr hnew)
    have hmoved := moved_perform c h.isSound x
    exact performAll_isInStep steps (hmoved.isInStep h)
      (hmoved.token_ne h hne fun hx => hnow (Option.mem_toList.mpr hx)) hlater

/-- **A token that was taken away does not come back.** Logging out, dropping the token and finding that the session
is not authenticated all take it away. From then on, until a step brings it in anew, the session does not have it, and
no request carries it, except for calls to which the caller gives it. -/
theorem performAll_removed (hkey : c.settings.apiKey ≠ some (Client.bearer t))
    (hs : ReliableStorage.IsSound s.session.storage) (htoken : s.session.state.token = some t) (x : ClientStep) :
    (x.EndsLogin c s → (x.perform c s).session.state.token ≠ some t) ∧
    ((x.perform c s).session.state.token ≠ some t →
      ∀ steps, t ∉ newTokens c (x.perform c s) steps →
        let before := performAll c (x.perform c s) steps
        before.session.state.token ≠ some t ∧
        ∀ y : ClientStep, ¬ y.Presents t →
          before.Extends (y.perform c before) fun e => Client.bearer t ∉ e.request.authorization) := by
  constructor
  · intro hends
    rw [hends.token_eq_none]
    exact nofun
  · intro hremoved steps hnew before
    -- as long as the token is in memory it does not matter whether it is stored
    have hheld : s.session.IsInStep t := ⟨hs, fun hne => absurd htoken hne⟩
    have hne := performAll_isInStep steps ((moved_perform c hs x).isInStep hheld) hremoved hnew
    exact ⟨hne, fun y hy => perform_extends_unsent hkey hne hy⟩

/-- After a logout and a new login the old token is not sent any more, nor after a restart. -/
theorem performAll_removed_logout :
    let old := "e30.eyJleHAiOjQxMDI0NDQ4MDB9.x"
    let steps : List ClientStep := [change (.setToken "new"), restart Client.admitting.session.now]
    Client.onLocalhost.settings.apiKey ≠ some (Client.bearer old) ∧
    ReliableStorage.IsSound Client.admitting.session.storage ∧ Client.admitting.session.state.token = some old ∧
    old ∉ newTokens Client.onLocalhost (logout.perform Client.onLocalhost Client.admitting) steps ∧
    let before := performAll Client.onLocalhost (logout.perform Client.onLocalhost Client.admitting) steps
    before.session.state.token ≠ some old ∧
    before.Extends (refreshSession.perform Client.onLocalhost before) fun e =>
      Client.bearer old ∉ e.request.authorization := by
  intro old steps
  have hkey : Client.onLocalhost.settings.apiKey ≠ some (Client.bearer old) := nofun
  have hsound : ReliableStorage.IsSound Client.admitting.session.storage := trivial
  have htoken : Client.admitting.session.state.token = some old := rfl
  have hnew : old ∉ newTokens Client.onLocalhost (logout.perform Client.onLocalhost Client.admitting) steps := by
    change old ∉ ["new"]
    decide
  obtain ⟨hremoved, hkept⟩ := performAll_removed hkey hsound htoken logout
  obtain ⟨hgone, hunsent⟩ := hkept (hremoved trivial) steps hnew
  exact ⟨hkey, hsound, htoken, hnew, hgone, hunsent refreshSession (by rintro (h | h) <;> cases h)⟩

end ClientStep

end HostingClient
