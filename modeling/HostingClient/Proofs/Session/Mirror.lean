import HostingClient.Proofs.Session.Changes
import HostingClient.Proofs.Session.Profile
import HostingClient.Proofs.Storage.File

/-! # The storage mirrors the session

Over a reliable storage a session that was restored once stays the session that could be restored from its storage
(`Session.IsMirrored`), whatever is done with it: an empty token counts as none. The other keys of the storage keep
their values. -/

namespace HostingClient

/-- The state with an empty token counting as none. -/
def SessionState.withoutEmpty (st : SessionState) : SessionState := { st with token := st.token.filter (· ≠ "") }

/-- A user that is set has been decoded before. -/
def SessionChange.IsProper : SessionChange → Prop
  | setUser user => user.IsDecoded
  | _ => True

/-- What can be done with a session. -/
inductive SessionStep where
  | change (c : SessionChange)
  | loadToken
  | loadUser
  /-- Looking at the token at some time, while a validator makes changes and answers. -/
  | isAuthenticated (now : Time.Instant) (changes : List SessionChange) (verdict : Verdict)
  /-- A new session over the same storage. -/
  | restart (now : Time.Instant)

namespace SessionStep

/-- Does a step. -/
def perform {σ : Type} [Storage σ] (s : Session σ) : SessionStep → Session σ
  | change c => c.apply s
  | loadToken => s.loadToken.2
  | loadUser => s.loadUser.2
  | isAuthenticated now changes verdict =>
    (Session.isAuthenticated (fun _ s => (verdict, SessionChange.applyAll s changes)) { s with now }).2.2
  | restart now => Session.restore s.storage now

/-- Every user that is set has been decoded before. -/
def IsProper : SessionStep → Prop
  | change c => c.IsProper
  | isAuthenticated _ changes _ => ∀ c ∈ changes, c.IsProper
  | _ => True

end SessionStep

namespace Session

/-- A storage over which every session stays the one that can be restored, and in which the other keys keep their
values, after whatever steps. -/
def StaysMirrored {σ : Type} [Storage σ] (storage : σ) : Prop :=
  ∀ (now : Time.Instant) (steps : List SessionStep), (∀ x ∈ steps, x.IsProper) →
    let s := steps.foldl SessionStep.perform (restore storage now)
    (∀ later, (restore s.storage later).state = s.state.withoutEmpty) ∧
    ∀ key value, key ≠ tokenKey → key ≠ userKey → (Storage.get key storage).1 = .ok value →
      (Storage.get key s.storage).1 = .ok value

/-! ### What a change keeps -/

section
variable {items : Dict String} {st : SessionState}

theorem loginIn_onItems (h : loginIn items = st.withoutEmpty) {c : SessionChange} (hc : c.IsProper) :
    loginIn (c.onItems items) = (c.onState st).withoutEmpty := by
  have htoken := congrArg SessionState.token h
  have huser := congrArg SessionState.user h
  have hne := userKey_ne_tokenKey
  unfold loginIn SessionState.withoutEmpty at *
  dsimp only at htoken huser
  cases c with
  | setToken token =>
    simp only [SessionChange.onItems, SessionChange.onState, Dict.find?_insert, if_pos, if_neg hne, huser]
  | clearToken =>
    simp only [SessionChange.onItems, SessionChange.onState, Dict.find?_erase, if_pos, if_neg hne, huser]
  | setUser user =>
    simp only [SessionChange.onItems, SessionChange.onState, Dict.find?_insert, if_pos, if_neg hne.symm, htoken,
      Option.bind_some, Profile.run_storedUser hc]
    rfl
  | clearUser =>
    simp only [SessionChange.onItems, SessionChange.onState, Dict.find?_erase, if_pos, if_neg hne]
    rfl

theorem find?_onItems (c : SessionChange) {key : String} (ht : key ≠ tokenKey) (hu : key ≠ userKey) :
    (c.onItems items).find? key = items.find? key := by
  cases c <;> simp only [SessionChange.onItems, Dict.find?_insert, Dict.find?_erase, if_neg ht, if_neg hu]

end

/-- A check makes the changes of the validator, and at most logs out after them. -/
theorem isAuthenticated_changes {σ : Type} [Storage σ] (s : Session σ) (changes : List SessionChange)
    (verdict : Verdict) : ∃ made, (∀ c ∈ made, c ∈ changes ∨ c = .clearUser) ∧
      (s.isAuthenticated fun _ s => (verdict, SessionChange.applyAll s changes)).2.2 =
        SessionChange.applyAll s made := by
  unfold isAuthenticated
  cases htoken : s.state.token with
  | none =>
    rw [check_eq_denied_self htoken]
    exact ⟨[], nofun, rfl⟩
  | some token =>
    by_cases httl : Token.ttl (some token) s.now = 0
    · rw [check_eq_denied htoken httl]
      exact ⟨[.clearUser], by simp, rfl⟩
    · rw [check_eq_ask htoken httl]
      have hsettle := settle_snd (s := SessionChange.applyAll s changes) token (decide (verdict = .accepted))
      split at hsettle
      · exact ⟨changes, fun c hc => .inl hc, hsettle⟩
      · refine ⟨changes ++ [.clearUser], fun c hc => ?_, ?_⟩
        · rcases List.mem_append.mp hc with hc | hc
          · exact .inl hc
          · exact .inr (List.mem_singleton.mp hc)
        · rw [SessionChange.applyAll, List.foldl_append]
          exact hsettle

section
variable {σ : Type} [Storage σ] [ReliableStorage σ]

/-- The storage does not fail and holds the login in memory, and other keys have the values they had before. -/
structure IsMirrored (before : σ) (s : Session σ) : Prop where
  isSound : ReliableStorage.IsSound s.storage
  login : loginIn (itemsOf s.storage) = s.state.withoutEmpty
  others : ∀ key value, key ≠ tokenKey → key ≠ userKey → (Storage.get key before).1 = .ok value →
    (Storage.get key s.storage).1 = .ok value

variable {before : σ} {s : Session σ}

theorem withoutEmpty_loginIn (items : Dict String) : (loginIn items).withoutEmpty = loginIn items := by
  unfold SessionState.withoutEmpty loginIn
  simp only [Option.filter_filter, Bool.and_self]

theorem isMirrored_apply (h : IsMirrored before s) {c : SessionChange} (hc : c.IsProper) :
    IsMirrored before (c.apply s) := by
  have hch := changed_apply h.isSound c
  refine ⟨hch.isSound, ?_, fun key value ht hu hv => ?_⟩
  · rw [hch.holds.2, hch.state]
    exact loginIn_onItems h.login hc
  · rw [hch.get_eq, find?_onItems c ht hu, find?_itemsOf h.isSound (h.others key value ht hu hv)]

theorem isMirrored_applyAll : ∀ (changes : List SessionChange) {s : Session σ}, IsMirrored before s →
    (∀ c ∈ changes, c.IsProper) → IsMirrored before (SessionChange.applyAll s changes)
  | [], _, h, _ => h
  | c :: changes, _, h, hc =>
    isMirrored_applyAll changes (isMirrored_apply h (hc c (by simp))) fun d hd => hc d (List.mem_cons_of_mem c hd)

/-! ### What a step keeps -/

theorem isMirrored_restore {storage : σ} (hs : ReliableStorage.IsSound storage) (now : Time.Instant) :
    IsMirrored storage (restore storage now) := by
  rw [restore_eq hs now]
  exact ⟨hs, (withoutEmpty_loginIn _).symm, fun _ _ _ _ hv => hv⟩

theorem isMirrored_perform (h : IsMirrored before s) {x : SessionStep} (hx : x.IsProper) :
    IsMirrored before (x.perform s) := by
  obtain ⟨hs, hlogin, hothers⟩ := h
  have htoken : (loginIn (itemsOf s.storage)).token = s.state.withoutEmpty.token := by rw [hlogin]
  have huser : (loginIn (itemsOf s.storage)).user = s.state.user := by rw [hlogin]; rfl
  have hidem : (loginIn (itemsOf s.storage)).withoutEmpty.token = (loginIn (itemsOf s.storage)).token :=
    congrArg SessionState.token (withoutEmpty_loginIn _)
  cases x with
  | change c => exact isMirrored_apply ⟨hs, hlogin, hothers⟩ hx
  | loadToken =>
    rw [SessionStep.perform, loadToken_eq hs]
    refine ⟨hs, ?_, hothers⟩
    exact SessionState.ext hidem.symm huser
  | loadUser =>
    rw [SessionStep.perform, loadUser_eq hs]
    refine ⟨hs, ?_, hothers⟩
    exact SessionState.ext htoken rfl
  | isAuthenticated now changes verdict =>
    obtain ⟨made, hmade, heq⟩ := isAuthenticated_changes { s with now } changes verdict
    rw [SessionStep.perform, heq]
    refine isMirrored_applyAll made ⟨hs, hlogin, hothers⟩ fun c hc => ?_
    rcases hmade c hc with hc | rfl
    · exact hx c hc
    · trivial
  | restart now =>
    have hr := isMirrored_restore hs now
    rw [restore_eq hs now] at hr
    rw [SessionStep.perform, restore_eq hs now]
    exact ⟨hr.isSound, hr.login, hothers⟩

theorem staysMirrored_of_isSound {storage : σ} (hs : ReliableStorage.IsSound storage) : StaysMirrored storage := by
  intro now steps hsteps s
  have hrun : ∀ (steps : List SessionStep) {s : Session σ}, IsMirrored storage s → (∀ x ∈ steps, x.IsProper) →
      IsMirrored storage (steps.foldl SessionStep.perform s) := by
    intro steps
    induction steps with
    | nil => exact fun h _ => h
    | cons x steps ih =>
      intro s h hsteps
      exact ih (isMirrored_perform h (hsteps x (by simp))) fun y hy => hsteps y (List.mem_cons_of_mem x hy)
  have h := hrun steps (isMirrored_restore hs now) hsteps
  refine ⟨fun later => ?_, h.others⟩
  rw [restore_eq h.isSound later]
  exact h.login

end

/-- **Sessions stay mirrored**, in memory and in a file that is missing or has whatever text. -/
theorem staysMirrored :
    (∀ items : Dict String, StaysMirrored items) ∧
    ∀ (directory : String) (disk : FileSystem) (file : Option (List Char)),
      disk.Keeps (FileStorage.inDirectory directory disk).location file →
      StaysMirrored (FileStorage.inDirectory directory disk) := by
  constructor
  · intro items
    exact staysMirrored_of_isSound (σ := Dict String) trivial
  · intro directory disk file h
    obtain ⟨above, habove⟩ := FileStorage.location_inDirectory directory disk
    have hne : (FileStorage.inDirectory directory disk).location ≠ [] := by rw [habove]; simp
    have hsound : FileStorage.IsSound (FileStorage.inDirectory directory disk) := ⟨hne, file, h⟩
    exact staysMirrored_of_isSound hsound

/-- A user of some provider. -/
def ada : Profile where
  id := "7"
  provider := "github"
  name := "Ada \u2028 \"A\""
  email := ""
  verified := true
  password := false
  roles := ["admin"]
  createdAt := ⟨1735787045, 678000000⟩
  isActive := true
  metadata := .empty

theorem isDecoded_ada : ada.IsDecoded := by
  refine ⟨.ofText, .array [.text (.ok "7"), .text (.ok "github"), .text (.ok ada.name), .text (.ok ""), .bool true,
    .bool false, .array [.text (.ok "admin")] none, .text (.ok "2025-01-02T03:04:05.678Z"), .bool true] none, ?_⟩
  rfl

/-- Over a file that is not JSON, a user and an empty token are set; the user comes back and the token does not. -/
theorem staysMirrored_spoiled :
    FileStorage.spoiledDisk.Keeps (FileStorage.inDirectory "" FileStorage.spoiledDisk).location
      (some ['o', 'o', 'p', 's']) ∧
    ada.IsDecoded ∧ ∀ now later,
      let s := [SessionStep.change (.setUser ada), .change (.setToken "")].foldl SessionStep.perform
        (restore (FileStorage.inDirectory "" FileStorage.spoiledDisk) now)
      (restore s.storage later).state = ⟨none, some ada⟩ := by
  have hkeeps : FileStorage.spoiledDisk.Keeps (FileStorage.inDirectory "" FileStorage.spoiledDisk).location
      (some ['o', 'o', 'p', 's']) := ⟨fun _ => rfl, by decide, [0x6F, 0x6F, 0x70, 0x73], by decide, by decide⟩
  have hada := isDecoded_ada
  refine ⟨hkeeps, hada, fun now later => ?_⟩
  have hsteps : ∀ x ∈ [SessionStep.change (.setUser ada), .change (.setToken "")], x.IsProper := by
    intro x hx
    rcases List.mem_cons.mp hx with rfl | hx
    · exact hada
    · rw [List.mem_singleton.mp hx]
      trivial
  exact (staysMirrored.2 "" FileStorage.spoiledDisk _ hkeeps now _ hsteps).1 later

end Session

end HostingClient
