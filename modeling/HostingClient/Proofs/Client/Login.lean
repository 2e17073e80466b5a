import HostingClient.Proofs.Client.Classification
import HostingClient.Proofs.Session.Mirror

/-! # Logins and refreshes are made in full or not at all

A login checks the credentials, and asks for a token only if the check was answered with a user; a refresh asks for
another token in the name of the one that the session has. If an answer is not what it should be, the session is what
it was before, in memory and in the storage; if all are, it has the token of the last answer in both, and after a login
the user of the first one (`Client.login_whole`). -/

namespace HostingClient

/-! ### Answers -/

/-- Whether an answer accepts the credentials of a user. -/
def Welcomes (answer : Option Reply) (user : Profile) : Prop :=
  ∃ reply, answer = some reply ∧ reply.status = 200 ∧ reply.isCut = false ∧
    Profile.record.decode.run reply.text = .ok user

/-- Whether an answer has a status and is a token: a whole body that is not blank. -/
def Grants (code : Nat) (answer : Option Reply) (token : String) : Prop :=
  ∃ reply, answer = some reply ∧ reply.status = code ∧ reply.isCut = false ∧ reply.text = token ∧
    Text.isBlankText token = false

theorem Grants.not_blank {code : Nat} {answer : Option Reply} {token : String} (h : Grants code answer token) :
    Text.isBlankText token = false := by
  obtain ⟨-, -, -, -, -, hblank⟩ := h
  exact hblank

theorem Grants.ne_empty {code : Nat} {answer : Option Reply} {token : String} (h : Grants code answer token) :
    token ≠ "" := by
  rintro rfl
  cases h.not_blank

namespace Endpoint

variable {α : Type} {e : Endpoint α} {code : Nat} {reply : Reply}

theorem bodyText_eq_ok {text : String} : bodyText reply = .ok text ↔ reply.isCut = false ∧ reply.text = text := by
  unfold bodyText
  cases reply.isCut with
  | true => exact iff_of_false nofun nofun
  | false => exact ⟨fun h => ⟨rfl, Except.ok.inj h⟩, fun h => congrArg Except.ok h.2⟩

theorem outcome_eq_ok {a : α} (haccepts : e.accepts reply.status = e.expect.accepts reply.status)
    (hexpect : e.expect = .exactly code) :
    e.outcome reply = .ok a ↔ reply.status = code ∧ read e.context reply e.content = .ok a := by
  unfold outcome
  rw [haccepts, hexpect, Expectation.accepts]
  by_cases h : reply.status = code
  · rw [if_pos (decide_eq_true h)]
    exact ⟨fun hread => ⟨h, hread⟩, And.right⟩
  · rw [if_neg (by simpa using h)]
    refine iff_of_false (fun hfailed => ?_) fun hread => h hread.1
    cases hfailed

theorem outcome_json {d : Decoder α} (hcontent : e.content = .json d) (hexpect : e.expect = .exactly code) {a : α} :
    e.outcome reply = .ok a ↔ reply.status = code ∧ reply.isCut = false ∧ d.run reply.text = .ok a := by
  have haccepts : e.accepts reply.status = e.expect.accepts reply.status := by
    unfold accepts
    rw [hcontent]
  have hread : read e.context reply e.content = .ok a ↔ ∃ body, bodyText reply = .ok body ∧ d.run body = .ok a := by
    rw [hcontent]
    exact bind_eq_ok.trans (exists_congr fun body => and_congr_right fun _ => mapError_eq_ok)
  rw [outcome_eq_ok haccepts hexpect, hread]
  simp only [bodyText_eq_ok, and_assoc, exists_and_left, exists_eq_left']

theorem outcome_nonBlank {e : Endpoint String} (hcontent : e.content = .nonBlank) (hexpect : e.expect = .exactly code)
    {token : String} : e.outcome reply = .ok token ↔
      reply.status = code ∧ reply.isCut = false ∧ reply.text = token ∧ Text.isBlankText token = false := by
  have haccepts : e.accepts reply.status = e.expect.accepts reply.status := by
    unfold accepts
    rw [hcontent]
  have hread : read e.context reply e.content = .ok token ↔
      bodyText reply = .ok token ∧ Text.isBlankText token = false := by
    rw [hcontent]
    refine bind_eq_ok.trans ⟨?_, fun h => ⟨token, h.1, if_neg (Bool.eq_false_iff.mp h.2)⟩⟩
    rintro ⟨body, hbody, htoken⟩
    split at htoken
    · cases htoken
    · next hblank =>
      cases htoken
      exact ⟨hbody, Bool.eq_false_iff.mpr hblank⟩
  rw [outcome_eq_ok haccepts hexpect, hread, bodyText_eq_ok, and_assoc]

end Endpoint

/-! ### Sessions -/

namespace Session

variable {σ : Type} [Storage σ] [ReliableStorage σ] {s : Session σ} {token : String} {user : Profile}

/-- A session that has taken a login: it is all that is in memory, and it is in the storage, from which it can be
restored. -/
structure LoggedIn (s later : Session σ) (token : String) (user : Profile) : Prop where
  changed : Changed s later ⟨some token, some user⟩
    (((itemsOf s.storage).insert tokenKey token).insert userKey (storedUser user))
  restored : ∀ now, (restore later.storage now).state = ⟨some token, some user⟩

/-- A session that has taken another token, in memory and in the storage, and has the user that it had. -/
structure Renewed (s later : Session σ) (token : String) : Prop where
  changed : Changed s later ⟨some token, s.state.user⟩ ((itemsOf s.storage).insert tokenKey token)
  restored : ∀ now, (restore later.storage now).state = ⟨some token, (restore s.storage now).state.user⟩

theorem renewed (hs : ReliableStorage.IsSound s.storage) (ht : token ≠ "") : Renewed s (s.setToken token) token := by
  have hset : Changed s (s.setToken token) ⟨some token, s.state.user⟩ ((itemsOf s.storage).insert tokenKey token) :=
    changed_apply hs (.setToken token)
  have htoken : (some token).filter (· ≠ "") = some token := by simp [ht]
  refine ⟨hset, fun now => ?_⟩
  rw [restore_eq hset.isSound now, restore_eq hs now, hset.holds.2]
  simp only [loginIn, Dict.find?_insert, if_pos, if_neg userKey_ne_tokenKey, htoken]

theorem loggedIn (hs : ReliableStorage.IsSound s.storage) (ht : token ≠ "") (hu : user.IsDecoded) :
    LoggedIn s ((s.setToken token).setUser user) token user := by
  have hset := (renewed hs ht).changed
  have huser := changed_apply hset.isSound (.setUser user)
  rw [hset.holds.2, hset.state] at huser
  have hboth : Changed s ((s.setToken token).setUser user) ⟨some token, some user⟩
      (((itemsOf s.storage).insert tokenKey token).insert userKey (storedUser user)) :=
    ⟨huser.state, huser.now.trans hset.now, huser.isSound, huser.held⟩
  have htoken : (some token).filter (· ≠ "") = some token := by simp [ht]
  refine ⟨hboth, fun now => ?_⟩
  rw [restore_eq hboth.isSound now, hboth.holds.2]
  simp only [loginIn, Dict.find?_insert, if_pos, if_neg userKey_ne_tokenKey.symm, htoken, Option.bind_some,
    Profile.run_storedUser hu]
  rfl

end Session

theorem Welcomes.isDecoded {answer : Option Reply} {user : Profile} (h : Welcomes answer user) : user.IsDecoded := by
  obtain ⟨reply, -, -, -, hrun⟩ := h
  obtain ⟨decoded, hdecode, hdocument⟩ := bind_eq_ok.mp hrun
  split at hdocument
  · cases hdocument
  · cases hdocument
    exact ⟨_, _, hdecode⟩

/-! ### What is sent -/

namespace Client

variable {σ : Type} {c : Client} {s : Surroundings σ}

/-- A request that posts something to the identity provider, with a credential behind the one that the address of the
provider holds itself. -/
structure Posts (c : Client) (path : String) (body : Body) (credential : Option String) (r : Request) : Prop where
  method : r.method = .post
  body : r.body = body
  url : ∃ u, Url.read (c.settings.identityUrl ++ path) = .ok u ∧ r.url = (takeUser u).2 ∧
    r.authorization = (takeUser u).1.toList ++ credential.toList

theorem IsRequestTo.posts {path : String} {body : Body} {credential : String} {r : Request}
    (h : IsRequestTo (c.settings.identityUrl ++ path) .post body credential r) :
    Posts c path body (some credential) r :=
  ⟨h.method, h.body, h.url⟩

theorem place_identity {α : Type} {e : Endpoint α} {path : String} (hservice : e.service = .identity)
    (hpath : String.ofList (pathText e.path) = path) : c.place e = c.settings.identityUrl ++ path := by
  rw [place, hservice, hpath]
  rfl

/-- What the identity provider is asked to do is posted to it, with any credential that may stand in a header, if
requests can go to the path. -/
theorem exists_posts {α : Type} {e : Endpoint α} {path : String} {credential : Option String} {token : Option String}
    (hplace : isPlace (c.settings.identityUrl ++ path) = true) (hservice : e.service = .identity)
    (hmethod : e.method = .post) (hpath : String.ofList (pathText e.path) = path) (hquery : e.query = [])
    (hc : c.authorization token e.credential = credential) (ht : credential.toList.all isHeaderText = true) :
    ∃ r, c.request e token = .ok r ∧ Posts c path e.body credential r := by
  rw [← place_identity hservice hpath] at hplace
  rw [← hc] at ht ⊢
  obtain ⟨r, u, hr, hread, hm, hb, hu, ha⟩ := request_eq hplace hquery ht
  rw [place_identity hservice hpath] at hread
  exact ⟨r, hr, hm.trans hmethod, hb, u, hread, hu, ha⟩

/-- Where requests cannot go to the path, nothing is posted, and neither is a credential that may not stand in a
header. -/
theorem call_not_posted {α : Type} {e : Endpoint α} {path : String} {credential : Option String}
    (hservice : e.service = .identity) (hpath : String.ofList (pathText e.path) = path) (hquery : e.query = [])
    (hc : c.authorization s.session.state.token e.credential = credential)
    (h : credential.toList.all isHeaderText = false ∨ isPlace (c.settings.identityUrl ++ path) = false) :
    ∃ url queue, c.call e s = (.error (.request (.unsendable url)), { s with queue }) := by
  rw [← place_identity hservice hpath, ← hc] at h
  exact call_unsendable hquery h

theorem check_posts (hplace : isPlace (c.settings.identityUrl ++ "/users/validate") = true) (email password : String)
    (token : Option String) :
    ∃ r, c.request (Operation.validateUser email password).endpoint token = .ok r ∧
      Posts c "/users/validate" (.json (ValidateUserRequest.record.encode ⟨email, password⟩)) none r :=
  exists_posts hplace rfl rfl rfl rfl rfl rfl

theorem creation_posts (hplace : isPlace (c.settings.identityUrl ++ "/tokens/create") = true) (email password : String)
    (token : Option String) :
    ∃ r, c.request (Operation.createToken email password).endpoint token = .ok r ∧
      Posts c "/tokens/create" .empty (some (basic email.toList password.toList)) r := by
  have ht : (some (basic email.toList password.toList)).toList.all isHeaderText = true := by
    simp [isHeaderText_basic]
  exact exists_posts hplace rfl rfl rfl rfl rfl ht

theorem refresh_posts (hplace : isPlace (c.settings.identityUrl ++ "/tokens/refresh") = true) {current : String}
    (htext : isHeaderText current = true) (token : Option String) :
    ∃ r, c.request (Operation.refreshToken current).endpoint token = .ok r ∧
      Posts c "/tokens/refresh" .empty (some (bearer current)) r := by
  have ht := (all_isHeaderText_bearer current).trans htext
  exact exists_posts hplace rfl rfl rfl rfl rfl ht

/-! ### What comes of it -/

/-- A call that ended with an error and left the session as it was. -/
structure Failed {α : Type} (session : Session σ) (called : Except ClientError α × Surroundings σ) : Prop where
  result : ∃ e, called.1 = .error e
  session : called.2.session = session

theorem check_eq_ok {email password : String} {r : Request} {user : Profile}
    (h : c.request (Operation.validateUser email password).endpoint s.session.state.token = .ok r) :
    (c.call (Operation.validateUser email password).endpoint s).1 = .ok user ↔ Welcomes (s.peer.answer r).1 user := by
  have hcontent : (Operation.validateUser email password).endpoint.content = .json Profile.record.decode := rfl
  rw [(call_sent h).result, Welcomes]
  cases (s.peer.answer r).1 with
  | none => exact iff_of_false nofun nofun
  | some reply => simp [Endpoint.outcome_json hcontent rfl]

theorem token_eq_ok {op : Operation String} {code : Nat} {r : Request} {token : String}
    (hcontent : op.endpoint.content = .nonBlank) (hexpect : op.endpoint.expect = .exactly code)
    (h : c.request op.endpoint s.session.state.token = .ok r) :
    (c.call op.endpoint s).1 = .ok token ↔ Grants code (s.peer.answer r).1 token := by
  rw [(call_sent h).result, Grants]
  cases (s.peer.answer r).1 with
  | none => exact iff_of_false nofun nofun
  | some reply => simp [Endpoint.outcome_nonBlank hcontent hexpect]

/-- A result comes from an answer to a request. -/
theorem exists_request {α : Type} {op : Operation α} {a : α} (h : (c.call op.endpoint s).1 = .ok a) :
    ∃ r, c.request op.endpoint s.session.state.token = .ok r := by
  cases hr : c.request op.endpoint s.session.state.token with
  | error f =>
    rw [call_eq_fail hr] at h
    cases h
  | ok r => exact ⟨r, rfl⟩

variable [Storage σ]

/-- A login fails, or it has taken the user and the token of two answers. -/
theorem login_ends (c : Client) (email password : String) (s : Surroundings σ) :
    Failed s.session (c.login email password s) ∨
      ∃ user token first second, Welcomes first user ∧ Grants 201 second token ∧
        (c.login email password s).1 = .ok user ∧
        (c.login email password s).2.session = (s.session.setToken token).setUser user := by
  have hkept := (call_extends c (.validateUser email password) s).2
  rcases hchecked : c.call (Operation.validateUser email password).endpoint s with ⟨e | user, mid⟩
  · rw [hchecked] at hkept
    rw [login_of_unchecked hchecked]
    exact .inl ⟨⟨e, rfl⟩, hkept⟩
  obtain ⟨check, hcheck⟩ := exists_request (congrArg Prod.fst hchecked)
  have hwelcome := (check_eq_ok hcheck).mp (congrArg Prod.fst hchecked)
  rw [hchecked] at hkept
  have hkept' := (call_extends c (.createToken email password) mid).2
  rcases hcreated : c.call (Operation.createToken email password).endpoint mid with ⟨e | token, later⟩
  · rw [hcreated] at hkept'
    rw [login_of_uncreated hchecked hcreated]
    exact .inl ⟨⟨e, rfl⟩, hkept'.trans hkept⟩
  obtain ⟨creation, hcreation⟩ := exists_request (congrArg Prod.fst hcreated)
  have hgrant := (token_eq_ok rfl rfl hcreation).mp (congrArg Prod.fst hcreated)
  rw [hcreated] at hkept'
  rw [login_of_created hchecked hcreated, hkept'.trans hkept]
  exact .inr ⟨user, token, _, _, hwelcome, hgrant, rfl, rfl⟩

/-- A login whose credentials were not accepted sends nothing more. -/
theorem login_stops {email password : String} {e : ClientError} {mid : Surroundings σ}
    (hchecked : c.call (Operation.validateUser email password).endpoint s = (.error e, mid))
    (hkept : mid.session = s.session) :
    (c.login email password s).2.exchanges = mid.exchanges ∧ Failed s.session (c.login email password s) := by
  rw [login_of_unchecked hchecked]
  exact ⟨rfl, ⟨e, rfl⟩, hkept⟩

/-- A refresh fails, or it has put the token of an answer in the place of whatever token is there by then. -/
theorem refreshDuring_ends (c : Client) (meanwhile : Session σ → Session σ) {current : String}
    (htoken : s.session.state.token = some current) :
    Failed (meanwhile s.session) (c.refreshDuring meanwhile s) ∨
      ∃ token answer, Grants 200 answer token ∧ (c.refreshDuring meanwhile s).1 = .ok () ∧
        (c.refreshDuring meanwhile s).2.session = (meanwhile s.session).setToken token := by
  have hkept := (call_extends c (.refreshToken current) { s with session := meanwhile s.session }).2
  rcases htraded : c.call (Operation.refreshToken current).endpoint { s with session := meanwhile s.session } with
    ⟨e | token, later⟩
  · rw [htraded] at hkept
    rw [refreshDuring_of_untraded meanwhile htoken htraded]
    exact .inl ⟨⟨e, rfl⟩, hkept⟩
  · obtain ⟨trade, htrade⟩ := exists_request (congrArg Prod.fst htraded)
    have hgrant := (token_eq_ok rfl rfl htrade).mp (congrArg Prod.fst htraded)
    rw [htraded] at hkept
    rw [refreshDuring_of_traded meanwhile htoken htraded]
    exact .inr ⟨token, _, hgrant, rfl, congrArg (Session.setToken token) hkept⟩

/-- What a refresh sends, whatever others do to the session in the meantime, and what comes of it. -/
theorem refreshDuring_sent (hplace : isPlace (c.settings.identityUrl ++ "/tokens/refresh") = true)
    {current : String} (htext : isHeaderText current = true) (htoken : s.session.state.token = some current) :
    ∃ trade, Posts c "/tokens/refresh" .empty (some (bearer current)) trade ∧
      ∀ meanwhile : Session σ → Session σ,
        (c.refreshDuring meanwhile s).2.exchanges = s.exchanges ++ [⟨trade, (s.peer.answer trade).1⟩] ∧
        ((∀ token, ¬ Grants 200 (s.peer.answer trade).1 token) →
          Failed (meanwhile s.session) (c.refreshDuring meanwhile s)) ∧
        ∀ token, Grants 200 (s.peer.answer trade).1 token →
          (c.refreshDuring meanwhile s).1 = .ok () ∧
            (c.refreshDuring meanwhile s).2.session = (meanwhile s.session).setToken token := by
  obtain ⟨trade, htrade, hposts⟩ := refresh_posts hplace htext none
  refine ⟨trade, hposts, fun meanwhile => ?_⟩
  -- the request has the token that is to be traded, so it does not matter what the session has by then
  have hrequest : c.request (Operation.refreshToken current).endpoint
      ({ s with session := meanwhile s.session } : Surroundings σ).session.state.token = .ok trade := htrade
  have hgrant : ∀ token, (c.call (Operation.refreshToken current).endpoint
      { s with session := meanwhile s.session }).1 = .ok token ↔ Grants 200 (s.peer.answer trade).1 token :=
    fun token => token_eq_ok rfl rfl hrequest
  obtain ⟨-, hsession, -, hexchanges⟩ := call_sent hrequest
  rcases htraded : c.call (Operation.refreshToken current).endpoint { s with session := meanwhile s.session } with
    ⟨e | token, later⟩
  · rw [htraded] at hgrant hsession hexchanges
    rw [refreshDuring_of_untraded meanwhile htoken htraded]
    refine ⟨hexchanges, fun _ => ⟨⟨e, rfl⟩, hsession⟩, fun token hgranted => ?_⟩
    cases (hgrant token).mpr hgranted
  · rw [htraded] at hgrant hsession hexchanges
    rw [refreshDuring_of_traded meanwhile htoken htraded]
    refine ⟨hexchanges, fun hnone => absurd ((hgrant token).mp rfl) (hnone token), fun other hother => ?_⟩
    obtain rfl : token = other := Except.ok.inj ((hgrant other).mpr hother)
    exact ⟨rfl, congrArg (Session.setToken token) hsession⟩

/-- A token that may not stand in a header is not sent, and none is to where requests cannot go. -/
theorem refreshSession_unsent {current : String} (htoken : s.session.state.token = some current)
    (h : isHeaderText current = false ∨ isPlace (c.settings.identityUrl ++ "/tokens/refresh") = false) :
    (c.refreshSession s).2.exchanges = s.exchanges ∧ Failed s.session (c.refreshSession s) := by
  obtain ⟨url, queue, hcall⟩ : ∃ url queue, c.call (Operation.refreshToken current).endpoint s =
      (.error (.request (.unsendable url)), { s with queue }) :=
    call_not_posted rfl rfl rfl rfl (h.imp_left (all_isHeaderText_bearer current).trans)
  have hperform : c.perform (.refreshToken current) s = (.error (.request (.unsendable url)), { s with queue }) :=
    (perform_open rfl s).trans hcall
  rw [refreshSession_some htoken, Action.bind_error hperform]
  exact ⟨rfl, ⟨_, rfl⟩, rfl⟩

variable [ReliableStorage σ]

open Session

/-- What a login sends and what comes of it, by the answers to its two requests. -/
structure LoginRun (c : Client) (email password : String) (s : Surroundings σ) : Prop where
  /-- Where requests cannot go to the check of credentials, nothing is sent. -/
  unsent : isPlace (c.settings.identityUrl ++ "/users/validate") = false →
    (c.login email password s).2.exchanges = s.exchanges ∧ Failed s.session (c.login email password s)
  sent : isPlace (c.settings.identityUrl ++ "/users/validate") = true → ∃ check,
    Posts c "/users/validate" (.json (ValidateUserRequest.record.encode ⟨email, password⟩)) none check ∧
    let first := (s.peer.answer check).1
    -- if the credentials are not accepted, or requests cannot go to where tokens are made, no token is asked for
    ((∀ user, ¬ Welcomes first user) ∨ isPlace (c.settings.identityUrl ++ "/tokens/create") = false →
      (c.login email password s).2.exchanges = s.exchanges ++ [⟨check, first⟩] ∧
        Failed s.session (c.login email password s)) ∧
    ∀ user, Welcomes first user → isPlace (c.settings.identityUrl ++ "/tokens/create") = true → ∃ creation,
      Posts c "/tokens/create" .empty (some (basic email.toList password.toList)) creation ∧
      let second := ((s.peer.answer check).2.answer creation).1
      (c.login email password s).2.exchanges = s.exchanges ++ [⟨check, first⟩, ⟨creation, second⟩] ∧
        ((∀ token, ¬ Grants 201 second token) → Failed s.session (c.login email password s)) ∧
        ∀ token, Grants 201 second token → (c.login email password s).1 = .ok user ∧
          LoggedIn s.session (c.login email password s).2.session token user

/-- What a refresh sends and what comes of it. -/
structure RefreshRun (c : Client) (s : Surroundings σ) : Prop where
  /-- A token that may not stand in a header is not sent, and none is to where requests cannot go. -/
  unsent : ∀ current, s.session.state.token = some current →
    isHeaderText current = false ∨ isPlace (c.settings.identityUrl ++ "/tokens/refresh") = false →
      (c.refreshSession s).2.exchanges = s.exchanges ∧ Failed s.session (c.refreshSession s)
  sent : ∀ current, s.session.state.token = some current →
    isHeaderText current = true → isPlace (c.settings.identityUrl ++ "/tokens/refresh") = true →
      ∃ trade, Posts c "/tokens/refresh" .empty (some (bearer current)) trade ∧
        (c.refreshSession s).2.exchanges = s.exchanges ++ [⟨trade, (s.peer.answer trade).1⟩] ∧
        ((∀ token, ¬ Grants 200 (s.peer.answer trade).1 token) → Failed s.session (c.refreshSession s)) ∧
        ∀ token, Grants 200 (s.peer.answer trade).1 token → (c.refreshSession s).1 = .ok () ∧
          Renewed s.session (c.refreshSession s).2.session token

theorem loginRun (hs : ReliableStorage.IsSound s.session.storage) (email password : String) :
    LoginRun c email password s where
  unsent hplace := by
    obtain ⟨url, queue, hcall⟩ : ∃ url queue, c.call (Operation.validateUser email password).endpoint s =
        (.error (.request (.unsendable url)), { s with queue }) := call_not_posted rfl rfl rfl rfl (.inr hplace)
    have hstops := login_stops hcall rfl
    exact hstops
  sent hplace := by
    obtain ⟨check, hcheck, hposts⟩ := check_posts hplace email password s.session.state.token
    have hwelcome : ∀ user, (c.call (Operation.validateUser email password).endpoint s).1 = .ok user ↔
        Welcomes (s.peer.answer check).1 user := fun user => check_eq_ok hcheck
    obtain ⟨-, hsession, hpeer, hexchanges⟩ := call_sent hcheck
    refine ⟨check, hposts, ?_⟩
    rcases hchecked : c.call (Operation.validateUser email password).endpoint s with ⟨e | user, mid⟩
    · rw [hchecked] at hwelcome hsession hexchanges
      obtain ⟨hsent, hfailed⟩ := login_stops hchecked hsession
      refine ⟨fun _ => ⟨hsent.trans hexchanges, hfailed⟩, fun user huser => ?_⟩
      cases (hwelcome user).mpr huser
    rw [hchecked] at hwelcome hsession hpeer hexchanges
    dsimp only at hwelcome hsession hpeer hexchanges
    refine ⟨fun h => ?_, fun other hother' hplace' => ?_⟩
    · have hplace' := h.resolve_left fun hnone => hnone user ((hwelcome user).mp rfl)
      obtain ⟨url, queue, hcall⟩ : ∃ url queue, c.call (Operation.createToken email password).endpoint mid =
          (.error (.request (.unsendable url)), { mid with queue }) := call_not_posted rfl rfl rfl rfl (.inr hplace')
      rw [login_of_uncreated hchecked hcall]
      exact ⟨hexchanges, ⟨_, rfl⟩, hsession⟩
    obtain rfl : user = other := Except.ok.inj ((hwelcome other).mpr hother')
    obtain ⟨creation, hcreation, hposts'⟩ := creation_posts hplace' email password mid.session.state.token
    have hgrant : ∀ token, (c.call (Operation.createToken email password).endpoint mid).1 = .ok token ↔
        Grants 201 (mid.peer.answer creation).1 token := fun token => token_eq_ok rfl rfl hcreation
    obtain ⟨-, hsession', -, hexchanges'⟩ := call_sent hcreation
    rw [hpeer] at hgrant hexchanges'
    rw [hexchanges, List.append_assoc] at hexchanges'
    refine ⟨creation, hposts', ?_⟩
    rcases hcreated : c.call (Operation.createToken email password).endpoint mid with ⟨e | token, later⟩
    · rw [hcreated] at hgrant hsession' hexchanges'
      rw [login_of_uncreated hchecked hcreated]
      refine ⟨hexchanges', fun _ => ⟨⟨e, rfl⟩, hsession'.trans hsession⟩, fun token htoken => ?_⟩
      cases (hgrant token).mpr htoken
    · rw [hcreated] at hgrant hsession' hexchanges'
      rw [login_of_created hchecked hcreated, hsession'.trans hsession]
      refine ⟨hexchanges', fun hnone => absurd ((hgrant token).mp rfl) (hnone token), fun other hother => ?_⟩
      obtain rfl : token = other := Except.ok.inj ((hgrant other).mpr hother)
      exact ⟨rfl, loggedIn hs hother.ne_empty hother'.isDecoded⟩

theorem refreshRun (hs : ReliableStorage.IsSound s.session.storage) : RefreshRun c s where
  unsent current htoken h := refreshSession_unsent htoken h
  sent current htoken htext hplace := by
    obtain ⟨trade, hposts, hends⟩ := refreshDuring_sent hplace htext htoken
    obtain ⟨hexchanges, hfailed, hgranted⟩ := hends id
    refine ⟨trade, hposts, hexchanges, hfailed, fun token htoken => ?_⟩
    obtain ⟨hresult, hsession⟩ := hgranted token htoken
    refine ⟨hresult, ?_⟩
    rw [refreshSession, hsession]
    exact renewed hs htoken.ne_empty

/-- **Logins and refreshes are made in full or not at all.** A call that ends with an error leaves the session as it
was. One that succeeds leaves a token that is not blank in it, in memory and in the storage, and a login its user. What
is sent depends on whether requests can go to the identity provider; whether the call succeeds, on the answers. -/
theorem login_whole (c : Client) (s : Surroundings σ) (hs : ReliableStorage.IsSound s.session.storage) :
    (∀ email password,
      Failed s.session (c.login email password s) ∨
        ∃ user token, Text.isBlankText token = false ∧ (c.login email password s).1 = .ok user ∧
          LoggedIn s.session (c.login email password s).2.session token user) ∧
    (Failed s.session (c.refreshSession s) ∨
      ∃ token, Text.isBlankText token = false ∧ (c.refreshSession s).1 = .ok () ∧
        Renewed s.session (c.refreshSession s).2.session token) ∧
    (s.session.state.token = none →
      (c.refreshSession s).2.exchanges = s.exchanges ∧ Failed s.session (c.refreshSession s)) ∧
    (∀ email password, LoginRun c email password s) ∧ RefreshRun c s := by
  have hmissing : s.session.state.token = none →
      (c.refreshSession s).2.exchanges = s.exchanges ∧ Failed s.session (c.refreshSession s) := fun htoken => by
    rw [refreshSession, refreshDuring_none id htoken]
    exact ⟨rfl, ⟨_, rfl⟩, rfl⟩
  refine ⟨fun email password => ?_, ?_, hmissing, loginRun hs, refreshRun hs⟩
  · rcases login_ends c email password s with hfailed | ⟨user, token, first, second, huser, htoken, hresult, hsession⟩
    · exact .inl hfailed
    · refine .inr ⟨user, token, htoken.not_blank, hresult, ?_⟩
      rw [hsession]
      exact loggedIn hs htoken.ne_empty huser.isDecoded
  · cases htoken : s.session.state.token with
    | none => exact .inl (hmissing htoken).2
    | some current =>
      rcases refreshDuring_ends c id htoken with hfailed | ⟨token, answer, hgrant, hresult, hsession⟩
      · exact .inl hfailed
      · refine .inr ⟨token, hgrant.not_blank, hresult, ?_⟩
        rw [refreshSession, hsession]
        exact renewed hs hgrant.ne_empty

/-- A login with two answers as they should be. -/
theorem login_whole_ada :
    let first := Operation.textReply 200 (storedUser ada) false
    let second := Operation.textReply 201 "new" false
    let s : Surroundings (Dict String) := { admitting with peer := ⟨[some first, some second], true, true⟩ }
    ReliableStorage.IsSound s.session.storage ∧
    (∃ check creation, (onLocalhost.login "ada" "secret" s).2.exchanges =
      [⟨check, some first⟩, ⟨creation, some second⟩]) ∧
    (onLocalhost.login "ada" "secret" s).1 = .ok ada ∧
    LoggedIn s.session (onLocalhost.login "ada" "secret" s).2.session "new" ada := by
  intro first second s
  have hsound : ReliableStorage.IsSound s.session.storage := trivial
  have hplaces : isPlace (onLocalhost.settings.identityUrl ++ "/users/validate") = true ∧
      isPlace (onLocalhost.settings.identityUrl ++ "/tokens/create") = true := by
    decide +kernel
  have hfirst : ∀ r, s.peer.answer r = (some first, ⟨[some second], true, true⟩) := fun r => by
    simp [s, Peer.answer, Peer.gets]
  have hsecond : ∀ r, ((Peer.mk [some second] true true).answer r).1 = some second := fun r => by
    simp [Peer.answer, Peer.gets]
  have hwelcome : Welcomes (some first) ada := by
    refine ⟨first, rfl, rfl, rfl, ?_⟩
    rw [Operation.text_textReply]
    exact Profile.run_storedUser isDecoded_ada
  have hgrant : Grants 201 (some second) "new" := ⟨second, rfl, rfl, rfl, Operation.text_textReply, by decide⟩
  obtain ⟨check, -, -, hchecked⟩ := ((login_whole onLocalhost s hsound).2.2.2.1 "ada" "secret").sent hplaces.1
  obtain ⟨creation, -, hexchanges, -, hgranted⟩ := hchecked ada ((hfirst check).symm ▸ hwelcome) hplaces.2
  rw [hfirst check, hsecond creation] at hexchanges hgranted
  obtain ⟨hresult, hloggedIn⟩ := hgranted "new" hgrant
  exact ⟨hsound, ⟨check, creation, hexchanges⟩, hresult, hloggedIn⟩

/-- Surroundings in which the session has a token, and the next answer accepts it with some body. -/
def trading (token : String) (body : List UInt8) : Surroundings (Dict String) :=
  { admitting with
    session := { lasting with state := ⟨some token, none⟩ }
    peer := ⟨[some ⟨200, body, false⟩], true, true⟩ }

/-- A token with a line break is not sent, nor are credentials to a provider that is not on the web. Where the body of
the answer is not a text, the token is not exactly what came. -/
theorem refreshSession_unwritable :
    (onLocalhost.refreshSession (trading "a\nb" [0x74])).2.exchanges.length = 0 ∧
    (({ onLocalhost with settings.identityUrl := "ftp://localhost" } : Client).login "ada" "secret"
      admitting).2.exchanges.length = 0 ∧
    (onLocalhost.refreshSession (trading "old" [0x74, 0xFF])).2.session.state.token = some "t\uFFFD" ∧
    Text.Utf8.encode "t\uFFFD".toList ≠ [0x74, 0xFF] := by
  refine ⟨?_, ?_, ?_, ?_⟩ <;> decide +kernel

end Client

end HostingClient
