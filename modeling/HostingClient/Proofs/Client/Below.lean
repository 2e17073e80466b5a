import HostingClient.Proofs.Client.Identifiers
import HostingClient.Proofs.Url.Slashes

/-! # Requests go below the configured addresses

The address of a service is checked as it is configured, but its text is what the paths of operations are put behind,
without the slashes at its end. Where the text is tidy, both come to the same (`ClientBuilder.build_below`): every
request goes to the scheme, the host and the port of the configured address, and to its path with the path of the
operation behind. A query, a fragment, a blank at the end, and a backslash or a dot behind a slash at the end make the
difference (`ClientBuilder.not_below_untidy`). -/

namespace HostingClient

open Client

/-- Whether an address lies below another one, by a path that is put behind the latter without the slashes at its
end. -/
structure IsBelow (u : Url) (path : List Segment) (url : Url) : Prop where
  scheme : url.scheme = u.scheme
  host : url.authority.map (·.host) = u.authority.map (·.host)
  port : url.authority.map (·.port) = u.authority.map (·.port)
  path : url.path.text = Text.trimEndBy (· == '/') u.path.text ++ pathText path

/-- Whether an address lies below the one that a text is read as. -/
def GoesBelow (text : String) (path : List Segment) (url : Url) : Prop :=
  ∃ u, Url.read text = .ok u ∧ IsBelow u path url

/-- Whether paths can be put behind a text: it is an address of the web without query and fragment, it does not end in
a blank, and no slash is left at the end of its path once those at the end of the text are gone. -/
def isTidyBase (text : String) : Bool :=
  isPlainBase (Text.trimSlashes text) && !Url.endsBlank text &&
    (Url.read (Text.trimSlashes text ++ "/")).toOption.all fun v => !(['/', '/'].isSuffixOf v.path.text)

/-! ### Where requests go -/

theorem addQuery_place (u : Url) (pairs : List (List Char × List Char)) :
    (u.addQuery pairs).scheme = u.scheme ∧ (u.addQuery pairs).authority = u.authority := by
  unfold Url.addQuery
  split
  · exact ⟨rfl, rfl⟩
  · split <;> exact ⟨rfl, rfl⟩

theorem takeUser_place (u : Url) : (takeUser u).2.authority.map (·.host) = u.authority.map (·.host) ∧
    (takeUser u).2.authority.map (·.port) = u.authority.map (·.port) := by
  unfold takeUser
  split
  · exact ⟨rfl, rfl⟩
  · next a ha =>
    split
    · exact ⟨rfl, rfl⟩
    · dsimp only
      split
      · exact ⟨rfl, rfl⟩
      · rw [ha]
        exact ⟨rfl, rfl⟩

variable {σ α : Type} {c : Client} {text : String}

theorem isTidyBase_iff : isTidyBase text = true ↔ ∃ v, Url.read (Text.trimSlashes text ++ "/") = .ok v ∧
    isWebScheme v = true ∧ v.query = none ∧ v.fragment = none ∧ Url.endsBlank text = false ∧
    ¬ ['/', '/'] <:+ v.path.text := by
  unfold isTidyBase isPlainBase
  cases Url.read (Text.trimSlashes text ++ "/") with
  | error e => exact iff_of_false nofun nofun
  | ok v => simp [Except.toOption, and_assoc, ← List.isSuffixOf_iff_suffix]

theorem pathText_eq_intercalate (op : Operation α) :
    pathText op.endpoint.path = '/' :: ['/'].intercalate (op.endpoint.path.map Segment.text) := by
  rw [pathText_eq_text]
  obtain ⟨s, rest, hpath⟩ := List.exists_cons_of_ne_nil (path_ne_nil op)
  rw [hpath]
  exact Url.text_segments_cons _ _

/-- The request of an operation goes below a tidy address. -/
theorem goesBelow_of_request (htidy : isTidyBase text = true) {op : Operation α}
    (hbase : c.baseUrl op.endpoint.service = Text.trimSlashes text)
    (hdots : ∀ id ∈ op.identifiers, id ≠ "." ∧ id ≠ "..") {token : Option String} {r : Request}
    (h : c.request op.endpoint token = .ok r) : GoesBelow text op.endpoint.path r.url := by
  obtain ⟨v, hv, hscheme, hquery, hfragment, hblank, hends⟩ := isTidyBase_iff.mp htidy
  obtain ⟨path, hread, w, n, hw, hpath⟩ :=
    Url.read_trimmed (schemeKind_of_isWebScheme hscheme) hv hquery hfragment hblank
  have hlast : w.getLast? ≠ some '/' := by
    intro hlast
    obtain ⟨init, rfl⟩ := List.getLast?_eq_some_iff.mp hlast
    exact hends ⟨init, by rw [hw, List.append_assoc]; rfl⟩
  rw [← hbase] at hv
  obtain ⟨own, hplace, hown⟩ := read_place hv hscheme hquery hfragment hdots
  obtain ⟨u, haddress, rfl⟩ := eq_of_request h
  rw [read_of_address haddress] at hplace
  cases hplace
  obtain ⟨hs, ha⟩ := addQuery_place (takeUser { v with path := own }).2
    (op.endpoint.query.map fun p => (p.1.toList, p.2.toList))
  obtain ⟨hhost, hport⟩ := takeUser_place { v with path := own }
  refine ⟨_, hread, hs.trans (takeUser_keeps _).2.1, ?_, ?_, ?_⟩
  · rw [ha, hhost]
  · rw [ha, hport]
  · rw [addQuery_path, takeUser_path, hown, hw, hpath, Text.trimEndBy_replicate hlast, pathText_eq_intercalate,
      List.append_assoc]
    rfl

/-! ### Clients that were built -/

namespace ClientBuilder

/-- The address of a service as it is configured. -/
def configured (b : ClientBuilder σ) : Service → String := (Client.mk b.effective).baseUrl

theorem eq_of_build {b : ClientBuilder σ} {session : Session σ} (h : b.build = .ok (c, session)) :
    c = ⟨trimmed b.effective⟩ := by
  unfold build at h
  dsimp only at h
  split at h
  · cases h
  · split at h
    · cases h
    · split at h
      · cases h
        rfl
      · cases h

theorem build_eq_ok {b : ClientBuilder σ} {session : Session σ} (hvalid : b.effective.validate = .ok ())
    (hsession : b.session = some session) (hagent : isHeaderText b.effective.userAgent = true) :
    b.build = .ok (⟨trimmed b.effective⟩, session) := by
  unfold build
  dsimp only
  rw [hvalid, hsession]
  exact if_pos hagent

theorem baseUrl_trimmed (b : ClientBuilder σ) (service : Service) :
    (Client.mk (trimmed b.effective)).baseUrl service = Text.trimSlashes (b.configured service) := by
  cases service <;> rfl

variable [Storage σ]

/-- **Requests go below the configured addresses.** Whatever is done with a client that was built, each request that is
sent is the one of an operation, and it goes below the address of its service as it was configured, if that is tidy and
the operation is given no dots for an identifier. So operations that have different paths never get to the same path of
a service. -/
theorem build_below {b : ClientBuilder σ} {session : Session σ} (hbuild : b.build = .ok (c, session)) :
    (∀ (s : Surroundings σ) (x : ClientStep), s.Extends (x.perform c s) fun e => ∃ (α : Type) (op : Operation α),
      ClientStep.Involves s.session.state.token x op ∧ c.Writes s op e.request ∧
        (isTidyBase (b.configured op.endpoint.service) = true → (∀ id ∈ op.identifiers, id ≠ "." ∧ id ≠ "..") →
          GoesBelow (b.configured op.endpoint.service) op.endpoint.path e.request.url)) ∧
    ∀ {α β : Type} (op : Operation α) (op' : Operation β) (token token' : Option String) (r r' : Request),
      op.endpoint.service = op'.endpoint.service → isTidyBase (b.configured op.endpoint.service) = true →
      (∀ id ∈ op.identifiers ++ op'.identifiers, id ≠ "." ∧ id ≠ "..") →
      c.request op.endpoint token = .ok r → c.request op'.endpoint token' = .ok r' →
      r.url.path.text = r'.url.path.text → pathText op.endpoint.path = pathText op'.endpoint.path := by
  obtain rfl := eq_of_build hbuild
  have hbelow : ∀ {α : Type} (op : Operation α) {token : Option String} {r : Request},
      isTidyBase (b.configured op.endpoint.service) = true → (∀ id ∈ op.identifiers, id ≠ "." ∧ id ≠ "..") →
      (Client.mk (trimmed b.effective)).request op.endpoint token = .ok r →
      GoesBelow (b.configured op.endpoint.service) op.endpoint.path r.url := fun op _ _ htidy hdots h =>
    goesBelow_of_request htidy (baseUrl_trimmed b _) hdots h
  constructor
  · intro s x
    refine (ClientStep.perform_extends _ s x).mono ?_
    rintro e ⟨α, op, hinvolves, hwrites⟩
    exact ⟨α, op, hinvolves, hwrites, fun htidy hdots => hbelow op htidy hdots hwrites⟩
  · intro α β op op' token token' r r' hservice htidy hdots h h' hpath
    obtain ⟨u, hread, hr⟩ := hbelow op htidy (fun id hid => hdots id (List.mem_append_left _ hid)) h
    rw [hservice] at htidy hread
    obtain ⟨u', hread', hr'⟩ := hbelow op' htidy (fun id hid => hdots id (List.mem_append_right _ hid)) h'
    rw [hread'] at hread
    cases hread
    rw [hr.path, hr'.path] at hpath
    exact List.append_cancel_left hpath

/-- A builder of a client of services on one machine, with an address for the core service. -/
def withCore (text : String) : ClientBuilder (Dict String) where
  settings := { onLocalhost.settings with coreUrl := text }
  apiKey := none
  session := some Session.lasting

theorem validate_withCore (h : (Url.read text).toOption.isSome = true) :
    (withCore text).effective.validate = .ok () := by
  obtain ⟨u, hu⟩ := exists_eq_ok h
  have hcore : Settings.checkUrl "core_api_url" text = .ok () := by
    unfold Settings.checkUrl
    rw [hu]
  have hothers : (onLocalhost.settings.urls.drop 1).forM (fun e => Settings.checkUrl e.1 e.2) = .ok () := by
    decide +kernel
  have hurls : (withCore text).effective.urls =
      ("core_api_url", text) :: onLocalhost.settings.urls.drop 1 := rfl
  have hall : (withCore text).effective.urls.forM (fun e => Settings.checkUrl e.1 e.2) = .ok () := by
    rw [hurls]
    exact bind_eq_ok.mpr ⟨(), hcore, hothers⟩
  exact bind_eq_ok.mpr ⟨(), hall, rfl⟩

/-- Slashes, capitals, a default port, and a dot at the end of the path. -/
theorem build_below_slashes :
    let b := withCore "HTTP://Svc.Test:80/a//b/.///"
    ∃ c, b.build = .ok (c, Session.lasting) ∧ isTidyBase (b.configured .core) = true ∧
    (c.request (Operation.getSpace "s1").endpoint none).toOption.map (·.url.text) =
      some "http://svc.test/a//b/spaces/s1" ∧
    ∀ r r', c.request (Operation.getSpace "s1").endpoint none = .ok r →
      c.request (Operation.getSpace "s2").endpoint none = .ok r' → r.url.path.text ≠ r'.url.path.text := by
  intro b
  have hbuild : b.build = .ok (⟨trimmed b.effective⟩, Session.lasting) :=
    build_eq_ok (validate_withCore (by decide +kernel)) rfl (by decide)
  have htidy : isTidyBase (b.configured .core) = true := by decide +kernel
  refine ⟨_, hbuild, htidy, by decide +kernel, fun r r' h h' hpath => ?_⟩
  have hsame := (build_below hbuild).2 (Operation.getSpace "s1") (Operation.getSpace "s2") none none r r' rfl htidy
    (by decide) h h' hpath
  exact absurd hsame (by decide)

/-- Addresses with a query, a fragment, a blank, a backslash, and a dot behind two slashes at the end, each with the
path that a request for the space `s1` gets to. -/
def untidy : List (String × String) :=
  [("http://svc.test/api?v=1", "/api"), ("http://svc.test/api#v", "/api"),
    ("http://svc.test/api ", "/api%20/spaces/s1"), ("http://svc.test/api\\", "/api//spaces/s1"),
    ("http://svc.test/api//.", "/api//spaces/s1")]

theorem exists_not_below {op : Operation α} {token : Option String} {path : String}
    (hpath : (c.request op.endpoint token).toOption.map (·.url.path.text) = some path.toList)
    (hne : ((Url.read text).toOption.all fun u =>
      Text.trimEndBy (· == '/') u.path.text ++ pathText op.endpoint.path ≠ path.toList) = true) :
    ∃ r, c.request op.endpoint token = .ok r ∧ r.url.path.text = path.toList ∧
      ¬ GoesBelow text op.endpoint.path r.url := by
  cases hr : c.request op.endpoint token with
  | error f =>
    rw [hr] at hpath
    cases hpath
  | ok r =>
    rw [hr] at hpath
    have hpath : r.url.path.text = path.toList := Option.some.inj hpath
    refine ⟨r, rfl, hpath, ?_⟩
    rintro ⟨u, hu, hbelow⟩
    rw [hu] at hne
    exact of_decide_eq_true hne (hbelow.path.symm.trans hpath)

/-- Addresses that are accepted, and that requests do not go below. With a query all operations get to one path. -/
theorem not_below_untidy :
    (∀ p ∈ untidy, (withCore p.1).build = .ok (⟨trimmed (withCore p.1).effective⟩, Session.lasting) ∧
      ∃ r, (Client.mk (trimmed (withCore p.1).effective)).request (Operation.getSpace "s1").endpoint none = .ok r ∧
        r.url.path.text = p.2.toList ∧ ¬ GoesBelow p.1 (Operation.getSpace "s1").endpoint.path r.url) ∧
    ((Client.mk (trimmed (withCore "http://svc.test/api?v=1").effective)).request
      (Operation.getSpace "s2").endpoint none).toOption.map (·.url.path.text) = some "/api".toList := by
  have hread : ∀ p ∈ untidy, (Url.read p.1).toOption.isSome = true := by decide +kernel
  have hagent : isHeaderText onLocalhost.settings.userAgent = true := by decide
  have hpath : ∀ p ∈ untidy, ((Client.mk (trimmed (withCore p.1).effective)).request
      (Operation.getSpace "s1").endpoint none).toOption.map (·.url.path.text) = some p.2.toList := by decide +kernel
  have hne : ∀ p ∈ untidy, ((Url.read p.1).toOption.all fun u => Text.trimEndBy (· == '/') u.path.text ++
      pathText (Operation.getSpace "s1").endpoint.path ≠ p.2.toList) = true := by decide +kernel
  refine ⟨fun p hp => ⟨build_eq_ok (validate_withCore (hread p hp)) rfl hagent, ?_⟩, by decide +kernel⟩
  exact exists_not_below (hpath p hp) (hne p hp)

end ClientBuilder

end HostingClient
