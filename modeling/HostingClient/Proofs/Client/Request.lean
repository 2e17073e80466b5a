import HostingClient.Client.Basic
import HostingClient.Proofs.Url.Reader

/-! # Requests that can be written

The request of a call without a query can be written exactly if requests can go to its address, and its credential may
stand in a header (`Client.request_eq`, `Client.request_unsendable`). Behind an address of the web with a host that
requests can name, requests can go to every address that is not too long (`Client.isPlace_place`). -/

namespace HostingClient.Client

variable {α : Type}

/-- Whether a text is an address that requests can go to, once its user is taken out: one of the web that is not too
long, with a host that requests can name. -/
def isPlace (address : String) : Bool := (Url.read address).toOption.any fun u => isSendable (takeUser u).2

/-- Whether a text is an address of the web behind which paths can be put, with a host that requests can name. -/
def isBase (base : String) : Bool := (Url.read (base ++ "/")).toOption.any fun u => isWebScheme u && isSendableHost u

/-- A request to an address, with a credential behind the one that the address holds itself. -/
structure IsRequestTo (address : String) (method : Method) (body : Body) (credential : String) (r : Request) :
    Prop where
  method : r.method = method
  body : r.body = body
  url : ∃ u, Url.read address = .ok u ∧ r.url = (takeUser u).2 ∧
    r.authorization = (takeUser u).1.toList ++ [credential]

/-- The address of a call as it is written. -/
def place (c : Client) (e : Endpoint α) : String := c.baseUrl e.service ++ String.ofList (pathText e.path)

/-! ### Credentials in headers -/

theorem isHeaderText_append (a b : String) : isHeaderText (a ++ b) = (isHeaderText a && isHeaderText b) := by
  unfold isHeaderText
  rw [String.toList_append, List.all_append]

theorem isHeaderText_bearer (token : String) : isHeaderText (bearer token) = isHeaderText token := by
  have hword : isHeaderText "Bearer " = true := by decide
  rw [bearer, isHeaderText_append, hword, Bool.true_and]

/-- A token may be sent exactly if it may stand in a header. -/
@[simp] theorem all_isHeaderText_bearer (token : String) :
    (some (bearer token)).toList.all isHeaderText = isHeaderText token := by
  rw [Option.toList_some, List.all_cons, List.all_nil, Bool.and_true, isHeaderText_bearer]

theorem isHeaderChar_digit (n : Nat) : isHeaderChar (Codec.Base64.Alphabet.standard.digit n) = true := by
  have hbelow : ∀ n < 63, isHeaderChar (Codec.Base64.Alphabet.standard.digit n) = true := by decide
  by_cases h : n < 63
  · exact hbelow n h
  · have hlast : Codec.Base64.Alphabet.standard.digit n = '/' := by
      unfold Codec.Base64.Alphabet.digit
      rw [if_neg (by omega), if_neg (by omega), if_neg (by omega), if_neg (by omega)]
      rfl
    rw [hlast]
    decide

theorem isHeaderText_basic (user password : List Char) : isHeaderText (basic user password) = true := by
  have hword : isHeaderText "Basic " = true := by decide
  rw [basic, isHeaderText_append, hword, Bool.true_and, isHeaderText, String.toList_ofList, List.all_eq_true]
  intro c hc
  unfold Codec.Base64.encodePadded at hc
  rcases List.mem_append.mp hc with hc | hc
  · obtain ⟨n, -, rfl⟩ := List.mem_map.mp hc
    exact isHeaderChar_digit n
  · rw [List.eq_of_mem_replicate hc]
    decide

/-- What an address holds of a user may stand in a header, and the rest of it is the same address. -/
theorem takeUser_keeps (u : Url) : (takeUser u).1.toList.all isHeaderText = true ∧ (takeUser u).2.scheme = u.scheme ∧
    isSendableHost (takeUser u).2 = isSendableHost u := by
  unfold takeUser
  split
  · exact ⟨rfl, rfl, rfl⟩
  · next a ha =>
    split
    · exact ⟨rfl, rfl, rfl⟩
    · dsimp only
      split
      · exact ⟨rfl, rfl, rfl⟩
      · refine ⟨?_, rfl, ?_⟩
        · rw [Option.toList_some, List.all_cons, isHeaderText_basic]
          rfl
        · unfold isSendableHost
          rw [ha]

/-- What an address tells of a user is sent with the user's password. -/
theorem basic_of_takeUser {u : Url} {credential : String} (h : (takeUser u).1 = some credential) :
    ∃ user password, credential = basic user password := by
  unfold takeUser at h
  split at h
  · cases h
  · split at h
    · cases h
    · dsimp only at h
      split at h
      · cases h
      · cases h
        exact ⟨_, _, rfl⟩

theorem bearer_injective {t t' : String} (h : bearer t = bearer t') : t = t' := by
  have hlist := congrArg String.toList h
  rw [bearer, bearer, String.toList_append, String.toList_append] at hlist
  exact String.toList_inj.mp (List.append_cancel_left hlist)

theorem basic_ne_bearer (user password : List Char) (t : String) : basic user password ≠ bearer t := by
  intro h
  have hlist := congrArg (fun s => s.toList[1]?) h
  rw [basic, bearer, String.toList_append, String.toList_append, List.getElem?_append_left (by decide),
    List.getElem?_append_left (by decide)] at hlist
  exact absurd hlist (by decide)

/-! ### Requests -/

theorem pathText_eq {path : List Segment} (h : path ≠ []) : ∃ p, pathText path = '/' :: p := by
  cases path with
  | nil => exact absurd rfl h
  | cons s rest => exact ⟨_, rfl⟩

theorem schemeKind_of_isWebScheme {u : Url} (h : isWebScheme u = true) : Url.schemeKind u.scheme = .web := by
  unfold isWebScheme at h
  rcases Bool.or_eq_true_iff.mp h with h | h
  · rw [of_decide_eq_true h]
    decide
  · rw [of_decide_eq_true h]
    decide

theorem isBase_iff {base : String} :
    isBase base = true ↔ ∃ u, Url.read (base ++ "/") = .ok u ∧ isWebScheme u = true ∧ isSendableHost u = true := by
  unfold isBase
  cases Url.read (base ++ "/") with
  | error e => exact iff_of_false nofun nofun
  | ok u => simp [Except.toOption]

theorem isPlace_iff {address : String} :
    isPlace address = true ↔ ∃ u, Url.read address = .ok u ∧ isSendable (takeUser u).2 = true := by
  unfold isPlace
  cases Url.read address with
  | error e => exact iff_of_false nofun nofun
  | ok u => simp [Except.toOption]

/-- **Behind an address of the web only the length counts**, if requests can name its host: every call of its service
has an address, and requests can go there unless it is too long. -/
theorem isPlace_place {c : Client} {e : Endpoint α} (hbase : isBase (c.baseUrl e.service) = true)
    (hpath : e.path ≠ []) :
    ∃ u, Url.read (c.place e) = .ok u ∧
      (isPlace (c.place e) = true ↔ (takeUser u).2.text.utf8ByteSize ≤ greatestAddress) := by
  obtain ⟨base, hread, hscheme, hhost⟩ := isBase_iff.mp hbase
  obtain ⟨p, hp⟩ := pathText_eq hpath
  obtain ⟨u, hu, hus, hua⟩ := Url.read_append (schemeKind_of_isWebScheme hscheme) hread p
  obtain ⟨-, hs, hh⟩ := takeUser_keeps u
  have hweb : isWebScheme (takeUser u).2 = true := by
    rw [isWebScheme, hs, hus]
    exact hscheme
  have hname : isSendableHost (takeUser u).2 = true := by
    rw [hh, isSendableHost, hua]
    exact hhost
  rw [place, hp]
  refine ⟨u, hu, ?_⟩
  rw [isPlace, hu, Except.toOption, Option.any_some, isSendable, hweb, hname, Bool.true_and, Bool.true_and]
  exact decide_eq_true_iff

variable {c : Client} {e : Endpoint α} {token : Option String} {credential : String}

/-- What a request is made of. -/
theorem eq_of_request {r : Request} (h : c.request e token = .ok r) : ∃ u, c.address e = .ok u ∧
    r = { method := e.method, url := (takeUser u).2.addQuery (e.query.map fun p => (p.1.toList, p.2.toList)),
          authorization := (takeUser u).1.toList ++ (c.authorization token e.credential).toList, accept := e.accept,
          userAgent := c.settings.userAgent, body := e.body } := by
  unfold request at h
  obtain ⟨u, hu, h⟩ := bind_eq_ok.mp h
  dsimp only at h
  split at h
  · cases h
  · split at h
    · cases h
    · exact ⟨u, hu, (Except.ok.inj h).symm⟩

/-- A token in a request is the credential of the call. -/
theorem authorization_of_bearer_mem {r : Request} {t : String} (h : c.request e token = .ok r)
    (ht : bearer t ∈ r.authorization) : c.authorization token e.credential = some (bearer t) := by
  obtain ⟨u, -, rfl⟩ := eq_of_request h
  rcases List.mem_append.mp ht with hu | hc
  · obtain ⟨user, password, hbasic⟩ := basic_of_takeUser (Option.mem_toList.mp hu)
    exact absurd hbasic.symm (basic_ne_bearer user password t)
  · exact Option.mem_toList.mp hc

/-- A credential that reads like a token is the one of the session, one that the call gives, or the key. -/
theorem authorization_eq_bearer {credential : Credential} {t : String}
    (h : c.authorization token credential = some (bearer t)) :
    token = some t ∨ credential = .bearer t ∨ c.settings.apiKey = some (bearer t) := by
  cases credential with
  | none => cases h
  | session =>
    obtain ⟨own, hown, heq⟩ := Option.map_eq_some_iff.mp h
    exact .inl (hown.trans (congrArg some (bearer_injective heq)))
  | bearer own => exact .inr (.inl (congrArg Credential.bearer (bearer_injective (Option.some.inj h))))
  | apiKey => exact .inr (.inr h)
  | basic user password => exact absurd (Option.some.inj h) (basic_ne_bearer _ _ t)

theorem request_of_address {u : Url} (h : c.address e = .ok u) :
    c.request e token =
      let url := (takeUser u).2.addQuery (e.query.map fun p => (p.1.toList, p.2.toList))
      let authorization := (takeUser u).1.toList ++ (c.authorization token e.credential).toList
      if !authorization.all isHeaderText then .error (.unsendable none)
      else if !isSendable url then .error (.unsendable (some url.text))
      else
        .ok { method := e.method, url, authorization, accept := e.accept, userAgent := c.settings.userAgent,
              body := e.body } := by
  rw [request, h]
  rfl

theorem read_of_address {u : Url} (h : c.address e = .ok u) : Url.read (c.place e) = .ok u := by
  unfold address at h
  rw [place]
  split at h
  · cases h
  · next hread =>
    split at h
    · cases h
      exact hread
    · cases h

theorem unsendable_of_address {f : RequestFault} (h : c.address e = .error f) : ∃ url, f = .unsendable url := by
  unfold address at h
  split at h
  · exact ⟨none, (Except.error.inj h).symm⟩
  · next u _ =>
    split at h
    · cases h
    · exact ⟨some u.text, (Except.error.inj h).symm⟩

/-- An address that requests can go to is the address of the call. -/
theorem address_of_isSendable {u : Url} (hread : Url.read (c.place e) = .ok u)
    (hsendable : isSendable (takeUser u).2 = true) : c.address e = .ok u := by
  unfold isSendable at hsendable
  simp only [Bool.and_eq_true] at hsendable
  have hweb : isWebScheme u = true := by
    rw [isWebScheme, ← (takeUser_keeps u).2.1]
    exact hsendable.1.1
  rw [place] at hread
  rw [address, hread]
  exact if_pos (Url.hasHost_of_read (schemeKind_of_isWebScheme hweb) hread)

/-- The request of a call without a query. -/
theorem request_plain {u : Url} (hquery : e.query = []) (h : c.address e = .ok u) :
    c.request e token =
      let url := (takeUser u).2
      let credential := (c.authorization token e.credential).toList
      if !credential.all isHeaderText then .error (.unsendable none)
      else if !isSendable url then .error (.unsendable (some url.text))
      else
        .ok { method := e.method, url, authorization := (takeUser u).1.toList ++ credential, accept := e.accept,
              userAgent := c.settings.userAgent, body := e.body } := by
  have hplain : (takeUser u).2.addQuery (e.query.map fun p => (p.1.toList, p.2.toList)) = (takeUser u).2 := by
    rw [hquery]
    rfl
  rw [request_of_address h, hplain]
  dsimp only
  rw [List.all_append, (takeUser_keeps u).1, Bool.true_and]

/-- **A call has a request** if requests can go to its address and its credential may stand in a header. -/
theorem request_eq (hplace : isPlace (c.place e) = true) (hquery : e.query = [])
    (ht : (c.authorization token e.credential).toList.all isHeaderText = true) :
    ∃ r u, c.request e token = .ok r ∧ Url.read (c.place e) = .ok u ∧ r.method = e.method ∧ r.body = e.body ∧
      r.url = (takeUser u).2 ∧
      r.authorization = (takeUser u).1.toList ++ (c.authorization token e.credential).toList := by
  obtain ⟨u, hread, hsendable⟩ := isPlace_iff.mp hplace
  rw [request_plain hquery (address_of_isSendable hread hsendable)]
  dsimp only
  rw [ht, hsendable]
  exact ⟨_, u, rfl, hread, rfl, rfl, rfl, rfl⟩

theorem request_eq_ok (hplace : isPlace (c.place e) = true) (hquery : e.query = [])
    (hc : c.authorization token e.credential = some credential) (ht : isHeaderText credential = true) :
    ∃ r, c.request e token = .ok r ∧ IsRequestTo (c.place e) e.method e.body credential r := by
  have hall : (c.authorization token e.credential).toList.all isHeaderText = true := by
    rw [hc, Option.toList_some, List.all_cons, ht]
    rfl
  obtain ⟨r, u, hrequest, hread, hmethod, hbody, hurl, hauthorization⟩ := request_eq hplace hquery hall
  rw [hc] at hauthorization
  exact ⟨r, hrequest, hmethod, hbody, u, hread, hurl, hauthorization⟩

/-- **Nothing else is sent**: a credential that may not stand in a header, or an address that requests cannot go to, is
found out before. -/
theorem request_unsendable (hquery : e.query = []) (h : (c.authorization token e.credential).toList.all isHeaderText =
    false ∨ isPlace (c.place e) = false) : ∃ url, c.request e token = .error (.unsendable url) := by
  cases haddress : c.address e with
  | error f =>
    obtain ⟨url, rfl⟩ := unsendable_of_address haddress
    exact ⟨url, by rw [request, haddress]; rfl⟩
  | ok u =>
    rw [request_plain hquery haddress]
    dsimp only
    cases ht : (c.authorization token e.credential).toList.all isHeaderText with
    | false => exact ⟨none, rfl⟩
    | true =>
      have hplace := h.resolve_left (by simp [ht])
      rw [isPlace, read_of_address haddress] at hplace
      have hsendable : isSendable (takeUser u).2 = false := hplace
      rw [hsendable]
      exact ⟨some (takeUser u).2.text, rfl⟩

end HostingClient.Client
