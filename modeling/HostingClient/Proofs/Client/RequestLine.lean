import HostingClient.Proofs.Client.Identifiers
import HostingClient.Proofs.Number.Digits
import HostingClient.Proofs.Url.Query

/-! # Request lines

What the line at the head of a request tells: method, path and query. A service finds the operation in it
(`RequestLine.operation?_line`), up to what is sent elsewhere in the request, so that different operations have
different lines (`Client.line_eq_iff`). -/

namespace HostingClient

open Codec Operation

/-- Which service is asked for what. -/
@[ext]
structure RequestLine where
  service : Service
  method : Method
  words : List String
  query : List (String × String)

/-- The word that a segment is written for. -/
def Segment.word : Segment → String
  | fixed word => word
  | given id => id

/-- The request line of a call. -/
def Endpoint.line {α : Type} (e : Endpoint α) : RequestLine := ⟨e.service, e.method, e.path.map Segment.word, e.query⟩

/-! ### What a line shows of an operation -/

/-- An operation with the type of its result. -/
abbrev AnyOperation := (α : Type) × Operation α

/-- The operation without what its body and its credential hold. Operations that ask the same endpoint are one. -/
def Operation.target : {α : Type} → Operation α → AnyOperation
  | _, registerUser _ _ _ => ⟨_, registerUser "" "" ""⟩
  | _, validateUser _ _ => ⟨_, validateUser "" ""⟩
  | _, updateUser userId _ _ _ => ⟨_, updateUser userId "" "" ""⟩
  | _, verifyUser _ => ⟨_, verifyUser ""⟩
  | _, createToken _ _ => ⟨_, createToken "" ""⟩
  | _, validateToken _ => ⟨_, validateToken ""⟩
  | _, refreshToken _ => ⟨_, refreshToken ""⟩
  | _, createApiKey _ => ⟨_, createApiKey ""⟩
  | _, getDownloadCountPerVersion spaceId => ⟨_, getDownloadCountForSpace spaceId⟩
  | _, createIssue spaceId _ => ⟨_, createIssue spaceId default⟩
  | _, updateIssue spaceId issueId _ => ⟨_, updateIssue spaceId issueId default⟩
  | _, getLatestVersion spaceId => ⟨_, getVersion spaceId latestVersion⟩
  | _, createSecret spaceId _ _ _ => ⟨_, createSecret spaceId "" "" ""⟩
  | _, updateSecret spaceId key _ _ => ⟨_, updateSecret spaceId key "" ""⟩
  | _, createBlogArticle _ _ _ _ => ⟨_, createBlogArticle "" "" "" ""⟩
  | _, updateBlogArticle articleId _ _ _ => ⟨_, updateBlogArticle articleId "" "" ""⟩
  | _, kvDelete database collection _ => ⟨_, kvDelete database collection ""⟩
  | _, kvDeleteMultiple database collection _ => ⟨_, kvDeleteMultiple database collection []⟩
  | _, kvExists database collection _ => ⟨_, kvExists database collection ""⟩
  | _, kvGet database collection _ => ⟨_, kvGet database collection ""⟩
  | _, kvGetMultiple database collection _ => ⟨_, kvGetMultiple database collection []⟩
  | _, createDashboard projectId _ => ⟨_, createDashboard projectId default⟩
  | _, updateDashboard projectId dashboardId _ => ⟨_, updateDashboard projectId dashboardId default⟩
  | _, createMetric m => ⟨_, createMetric { (default : Metric) with projectId := m.projectId }⟩
  | _, updateMetric m => ⟨_, updateMetric { (default : Metric) with projectId := m.projectId, metricId := m.metricId }⟩
  | _, getLatestRecordsPerMinute projectId metricId => ⟨_, getAggregatedRecords projectId metricId .minute⟩
  | _, getLatestRecordsPerHour projectId metricId => ⟨_, getAggregatedRecords projectId metricId .hour⟩
  | _, getLatestRecordsPerDay projectId metricId => ⟨_, getAggregatedRecords projectId metricId .day⟩
  | _, applyTemplate _ templateId => ⟨_, applyTemplate "" templateId⟩
  | _, op => ⟨_, op⟩

/-- What is left of an operation has the address of the operation. -/
theorem Operation.address_target {α : Type} (op : Operation α) :
    op.target.2.endpoint.service = op.endpoint.service ∧ op.target.2.endpoint.method = op.endpoint.method ∧
      op.target.2.endpoint.path = op.endpoint.path ∧ op.target.2.endpoint.query = op.endpoint.query := by
  cases op <;> exact ⟨rfl, rfl, rfl, rfl⟩

/-! ### From a line to its operation -/

/-- The number that a text in an address stands for. -/
def numberOf (text : String) : Nat := Number.valueOf text.toList

theorem numberOf_numberText (n : Nat) : numberOf (Catalogue.numberText n) = n := by
  rw [numberOf, Catalogue.numberText, String.toList_ofList, Number.valueOf_digitsOf]

namespace RequestLine

/-- The operations of the identity provider. -/
def identityOperation? : Method → List String → Option AnyOperation
  | .post, ["users", "register"] => some ⟨_, registerUser "" "" ""⟩
  | .post, ["users", "validate"] => some ⟨_, validateUser "" ""⟩
  | .post, ["users", "verify", "check"] => some ⟨_, verifyUser ""⟩
  | .post, ["users", "verify", "resend"] => some ⟨_, resendVerificationCode⟩
  | .put, ["users", userId] => some ⟨_, updateUser userId "" "" ""⟩
  | .post, ["tokens", "create"] => some ⟨_, createToken "" ""⟩
  | .post, ["tokens", "validate"] => some ⟨_, validateToken ""⟩
  | .post, ["tokens", "refresh"] => some ⟨_, refreshToken ""⟩
  | .get, ["api-keys"] => some ⟨_, getApiKeys⟩
  | .post, ["api-keys"] => some ⟨_, createApiKey ""⟩
  | .delete, ["api-keys", keyId] => some ⟨_, deleteApiKey keyId⟩
  | _, _ => none

/-- The operations on a space. -/
def spaceOperation? (spaceId : String) : Method → List String → Option AnyOperation
  | .get, [] => some ⟨_, getSpace spaceId⟩
  | .get, ["downloads"] => some ⟨_, getDownloadCountForSpace spaceId⟩
  | .get, ["issues"] => some ⟨_, getAllIssues spaceId⟩
  | .post, ["issues"] => some ⟨_, createIssue spaceId default⟩
  | .get, ["issues", issueId] => some ⟨_, getIssue spaceId issueId⟩
  | .put, ["issues", issueId] => some ⟨_, updateIssue spaceId issueId default⟩
  | .delete, ["issues", issueId] => some ⟨_, deleteIssue spaceId issueId⟩
  | .get, ["versions"] => some ⟨_, getAllVersions spaceId⟩
  | .get, ["versions", versionId] => some ⟨_, getVersion spaceId versionId⟩
  | .get, ["versions", versionId, "downloads"] => some ⟨_, getDownloadCountForVersion spaceId versionId⟩
  | .get, ["secrets"] => some ⟨_, getAllSecrets spaceId⟩
  | .post, ["secrets"] => some ⟨_, createSecret spaceId "" "" ""⟩
  | .get, ["secrets", key] => some ⟨_, getSecret spaceId key⟩
  | .put, ["secrets", key] => some ⟨_, updateSecret spaceId key "" ""⟩
  | .delete, ["secrets", key] => some ⟨_, deleteSecret spaceId key⟩
  | .get, ["secrets", key, "decrypted"] => some ⟨_, getSecretDecrypted spaceId key⟩
  | .get, ["maven-repositories"] => some ⟨_, getAllMavenRepositories spaceId⟩
  | .get, ["maven-repositories", repository] => some ⟨_, getMavenRepository spaceId repository⟩
  | .get, ["maven-repositories", repository, "artifacts"] => some ⟨_, getAllMavenArtifacts spaceId repository⟩
  | .get, ["maven-repositories", repository, "artifacts", coordinate] =>
    some ⟨_, getMavenArtifact spaceId repository coordinate⟩
  | .get, ["blog-articles"] => some ⟨_, getBlogArticlesForSpace spaceId⟩
  | _, _ => none

/-- The operations of the core service. -/
def coreOperation? : Method → List String → Option AnyOperation
  | .get, ["spaces"] => some ⟨_, getAllSpaces⟩
  | method, "spaces" :: spaceId :: rest => spaceOperation? spaceId method rest
  | .get, ["users", userId, "blog-articles"] => some ⟨_, getBlogArticlesForUser userId⟩
  | .post, ["blog-articles"] => some ⟨_, createBlogArticle "" "" "" ""⟩
  | .get, ["blog-articles", articleId] => some ⟨_, getBlogArticle articleId⟩
  | .put, ["blog-articles", articleId] => some ⟨_, updateBlogArticle articleId "" "" ""⟩
  | .delete, ["blog-articles", articleId] => some ⟨_, deleteBlogArticle articleId⟩
  | .get, ["blog-articles", articleId, "content"] => some ⟨_, getBlogArticleContent articleId⟩
  | _, _ => none

/-- The operations on a project. -/
def projectOperation? (projectId : String) : Method → List String → List (String × String) → Option AnyOperation
  | .get, ["dashboards"], _ => some ⟨_, getDashboards projectId⟩
  | .post, ["dashboards"], _ => some ⟨_, createDashboard projectId default⟩
  | .get, ["dashboards", dashboardId], _ => some ⟨_, getDashboard projectId dashboardId⟩
  | .put, ["dashboards", dashboardId], _ => some ⟨_, updateDashboard projectId dashboardId default⟩
  | .delete, ["dashboards", dashboardId], _ => some ⟨_, deleteDashboard projectId dashboardId⟩
  | .get, ["events"], [("name", name), ("time", n)] => some ⟨_, getLatestEventsByTime projectId name (numberOf n)⟩
  | .get, ["events"], [("name", name), ("amount", n)] => some ⟨_, getLatestEventsByCount projectId name (numberOf n)⟩
  | .get, ["logs"], [("time", n)] => some ⟨_, getLatestLogsByTime projectId "" (numberOf n)⟩
  | .get, ["logs"], [("time", n), ("service", service)] => some ⟨_, getLatestLogsByTime projectId service (numberOf n)⟩
  | .get, ["logs"], [("amount", n)] => some ⟨_, getLatestLogsByCount projectId "" (numberOf n)⟩
  | .get, ["logs"], [("amount", n), ("service", service)] =>
    some ⟨_, getLatestLogsByCount projectId service (numberOf n)⟩
  | .get, ["metrics"], _ => some ⟨_, getMetrics projectId⟩
  | .post, ["metrics"], _ => some ⟨_, createMetric { (default : Metric) with projectId }⟩
  | .put, ["metrics", metricId], _ => some ⟨_, updateMetric { (default : Metric) with projectId, metricId }⟩
  | .delete, ["metrics", metricId], _ => some ⟨_, deleteMetric projectId metricId⟩
  | .get, ["metrics", metricId, "records"], [("amount", n)] =>
    some ⟨_, getLatestRecordsByCount projectId metricId (numberOf n)⟩
  | .get, ["metrics", metricId, "records", "per-minute"], _ => some ⟨_, getAggregatedRecords projectId metricId .minute⟩
  | .get, ["metrics", metricId, "records", "per-hour"], _ => some ⟨_, getAggregatedRecords projectId metricId .hour⟩
  | .get, ["metrics", metricId, "records", "per-day"], _ => some ⟨_, getAggregatedRecords projectId metricId .day⟩
  | _, _, _ => none

/-- The operations of analytics. -/
def analyticsOperation? : Method → List String → List (String × String) → Option AnyOperation
  | .get, ["templates"], _ => some ⟨_, getTemplates⟩
  | .post, ["templates", templateId, "apply"], _ => some ⟨_, applyTemplate "" templateId⟩
  | method, "projects" :: projectId :: rest, query => projectOperation? projectId method rest query
  | _, _, _ => none

/-- The operation of a command. -/
def commandOperation (database collection : String) : KvCommand → AnyOperation
  | .delete => ⟨_, kvDelete database collection ""⟩
  | .deleteMultiple => ⟨_, kvDeleteMultiple database collection []⟩
  | .deleteAll => ⟨_, kvDeleteAll database collection⟩
  | .contains => ⟨_, kvExists database collection ""⟩
  | .get => ⟨_, kvGet database collection ""⟩
  | .getMultiple => ⟨_, kvGetMultiple database collection []⟩
  | .getAll => ⟨_, kvGetAll database collection⟩
  | .keys => ⟨_, kvKeys database collection⟩
  | .count => ⟨_, kvCount database collection⟩
  | .size => ⟨_, kvSize database collection⟩

/-- The commands of the key/value engine. -/
def commands : List KvCommand :=
  [.delete, .deleteMultiple, .deleteAll, .contains, .get, .getMultiple, .getAll, .keys, .count, .size]

/-- The operations of the storage. -/
def storageOperation? : Method → List String → Option AnyOperation
  | .post, ["databases", database, "collections", collection, "kv", number] =>
    (commands.find? fun c => Nat.repr c.id = number).map (commandOperation database collection)
  | _, _ => none

/-- The operation that a service finds in a request line. -/
def operation? (l : RequestLine) : Option AnyOperation :=
  match l.service with
  | .identity => identityOperation? l.method l.words
  | .core => coreOperation? l.method l.words
  | .analytics => analyticsOperation? l.method l.words l.query
  | .storage => storageOperation? l.method l.words

/-- Records of the log are asked for with the service that they are about, unless it is empty. -/
theorem operation?_logs (projectId service : String) (n : Nat) :
    projectOperation? projectId .get ["logs"]
        (("time", Catalogue.numberText n) :: if service.isEmpty then [] else [("service", service)]) =
      some ⟨_, getLatestLogsByTime projectId service n⟩ ∧
    projectOperation? projectId .get ["logs"]
        (("amount", Catalogue.numberText n) :: if service.isEmpty then [] else [("service", service)]) =
      some ⟨_, getLatestLogsByCount projectId service n⟩ := by
  have hn := numberOf_numberText n
  cases hs : service.isEmpty with
  | true =>
    obtain rfl := String.isEmpty_iff.mp hs
    constructor
    · show some (⟨_, getLatestLogsByTime projectId "" (numberOf _)⟩ : AnyOperation) = _
      rw [hn]
    · show some (⟨_, getLatestLogsByCount projectId "" (numberOf _)⟩ : AnyOperation) = _
      rw [hn]
  | false =>
    constructor
    · show some (⟨_, getLatestLogsByTime projectId service (numberOf _)⟩ : AnyOperation) = _
      rw [hn]
    · show some (⟨_, getLatestLogsByCount projectId service (numberOf _)⟩ : AnyOperation) = _
      rw [hn]

/-- **The line of an operation leads back to it.** -/
theorem operation?_line {α : Type} (op : Operation α) : op.endpoint.line.operation? = some op.target := by
  cases op
  case getLatestEventsByTime projectId name hours =>
    show some (⟨_, getLatestEventsByTime projectId name (numberOf _)⟩ : AnyOperation) = _
    rw [numberOf_numberText]
    rfl
  case getLatestEventsByCount projectId name count =>
    show some (⟨_, getLatestEventsByCount projectId name (numberOf _)⟩ : AnyOperation) = _
    rw [numberOf_numberText]
    rfl
  case getLatestLogsByTime projectId service hours => exact (operation?_logs projectId service hours).1
  case getLatestLogsByCount projectId service count => exact (operation?_logs projectId service count).2
  case getLatestRecordsByCount projectId metricId count =>
    show some (⟨_, getLatestRecordsByCount projectId metricId (numberOf _)⟩ : AnyOperation) = _
    rw [numberOf_numberText]
    rfl
  case getAggregatedRecords projectId metricId interval => cases interval <;> rfl
  -- the others have only words and identifiers in their lines
  all_goals rfl

/-! ### From an address to its line -/

/-- What the address of a call has behind the address of its service. -/
def text (l : RequestLine) : List Char :=
  ['/'].intercalate (l.words.map fun word => Percent.segment word.toList) ++
    Url.queryText (l.query.map fun p => (p.1.toList, p.2.toList))

theorem not_mem_segment {sign : Char} (h : Percent.isEscaped sign = false) (s : List Char) :
    sign ∉ Percent.segment s :=
  fun hmem => absurd (h.symm.trans (Percent.isEscaped_of_mem_segment hmem)) nofun

theorem words_eq_of_intercalate {words others : List String} (hne : words ≠ []) (hne' : others ≠ [])
    (h : ['/'].intercalate (words.map fun word => Percent.segment word.toList) =
      ['/'].intercalate (others.map fun word => Percent.segment word.toList)) : words = others := by
  have hsplit : ∀ words : List String, words ≠ [] →
      (['/'].intercalate (words.map fun word => Percent.segment word.toList)).splitOn '/' =
        words.map fun word => Percent.segment word.toList := by
    intro words hne
    refine List.splitOn_intercalate '/' (fun segment hsegment => ?_) (mt List.map_eq_nil_iff.mp hne)
    obtain ⟨word, -, rfl⟩ := List.mem_map.mp hsegment
    exact not_mem_segment (by decide) _
  have hmap := hsplit words hne
  rw [h, hsplit others hne'] at hmap
  have hinjective : Function.Injective fun word : String => Percent.segment word.toList :=
    fun _ _ heq => String.toList_inj.mp (Percent.segment_injective heq)
  exact (List.map_injective_iff.mpr hinjective hmap).symm

/-- A path ends before its query. -/
theorem takeWhile_text (l : RequestLine) : l.text.takeWhile (· != '?') =
    ['/'].intercalate (l.words.map fun word => Percent.segment word.toList) := by
  have hpath : ∀ c ∈ ['/'].intercalate (l.words.map fun word => Percent.segment word.toList), (c != '?') = true := by
    intro c hc
    rw [bne_iff_ne]
    rintro rfl
    rcases Url.mem_intercalate hc with h | ⟨segment, hsegment, h⟩
    · exact absurd h (by decide)
    · obtain ⟨word, -, rfl⟩ := List.mem_map.mp hsegment
      exact not_mem_segment (by decide) _ h
  have hquery : ∀ pairs, (Url.queryText pairs).takeWhile (· != '?') = [] := by
    intro pairs
    unfold Url.queryText
    split <;> rfl
  rw [text, List.takeWhile_append_of_pos hpath, hquery, List.append_nil]

/-- **Different lines have different addresses.** -/
theorem eq_of_text {l l' : RequestLine} (hne : l.words ≠ []) (hne' : l'.words ≠ []) (h : l.text = l'.text) :
    l.words = l'.words ∧ l.query = l'.query := by
  have hpath := takeWhile_text l
  rw [h, takeWhile_text] at hpath
  have hquery := h
  rw [text, text, hpath] at hquery
  have hpairs := Url.queryText_injective (List.append_cancel_left hquery)
  have hinjective : Function.Injective fun p : String × String => (p.1.toList, p.2.toList) := by
    rintro ⟨name, value⟩ ⟨name', value'⟩ heq
    obtain ⟨hname, hvalue⟩ := Prod.mk.inj heq
    exact Prod.ext (String.toList_inj.mp hname) (String.toList_inj.mp hvalue)
  exact ⟨words_eq_of_intercalate hne hne' hpath.symm, List.map_injective_iff.mpr hinjective hpairs⟩

end RequestLine

namespace Client

variable {σ α β : Type} {c : Client} {op : Operation α} {op' : Operation β}

theorem text_path (op : Operation α) : op.endpoint.path.map Segment.text =
    op.endpoint.line.words.map fun word => Percent.segment word.toList := by
  rw [Endpoint.line, List.map_map]
  refine List.map_congr_left fun s hs => ?_
  rw [Segment.text_eq (List.all_eq_true.mp (Operation.path_isTidy op) s hs)]
  cases s <;> rfl

/-- A user is taken out of an address whatever its path is. -/
theorem takeUser_setPath (u : Url) (path : Url.UrlPath) :
    (takeUser { u with path }).2 = { (takeUser u).2 with path } := by
  obtain ⟨scheme, authority, _, query, fragment⟩ := u
  unfold takeUser
  cases authority with
  | none => rfl
  | some a =>
    dsimp only
    split
    · rfl
    · split <;> rfl

/-- Nothing but a user is taken out of an address. -/
theorem takeUser_rest {u : Url} (h : u.hasHost = true) : (∃ a, (takeUser u).2.authority = some a) ∧
    (takeUser u).2.query = u.query ∧ (takeUser u).2.fragment = u.fragment := by
  unfold Url.hasHost at h
  split at h
  · next a ha =>
    unfold takeUser
    simp only [ha]
    split
    · exact ⟨⟨a, ha⟩, rfl, rfl⟩
    · split
      · exact ⟨⟨a, ha⟩, rfl, rfl⟩
      · exact ⟨⟨_, rfl⟩, rfl, rfl⟩
  · cases h

/-- Behind the address of a service stands the line of the call. -/
theorem exists_front {service : Service} (hbase : isPlainBase (c.baseUrl service) = true) :
    ∃ front : List Char, ∀ {α : Type} {op : Operation α} {token : Option String} {r : Request},
      op.endpoint.service = service → (∀ id ∈ op.identifiers, id ≠ "." ∧ id ≠ "..") →
        c.request op.endpoint token = .ok r → r.url.text = String.ofList (front ++ op.endpoint.line.text) := by
  obtain ⟨base, hread, hscheme, hquery, hfragment⟩ := isPlainBase_iff.mp hbase
  refine ⟨(takeUser base).2.origin ++ base.path.text, ?_⟩
  intro α op token r hservice hdots h
  subst hservice
  obtain ⟨u, haddress, rfl⟩ := eq_of_request h
  obtain ⟨path, hplace, hpath⟩ := read_place hread hscheme hquery hfragment hdots
  have hu : u = { base with path } := Except.ok.inj ((read_of_address haddress).symm.trans hplace)
  obtain ⟨⟨a, ha⟩, huserQuery, huserFragment⟩ :=
    takeUser_rest (Url.hasHost_of_read (schemeKind_of_isWebScheme hscheme) hread)
  have htext := Url.text_addQuery ha (huserQuery.trans hquery) (huserFragment.trans hfragment) path
    (op.endpoint.query.map fun p => (p.1.toList, p.2.toList))
  dsimp only
  rw [hu, takeUser_setPath, htext, hpath, text_path, RequestLine.text]
  simp only [List.append_assoc]
  rfl

theorem words_ne_nil (op : Operation α) : op.endpoint.line.words ≠ [] :=
  mt List.map_eq_nil_iff.mp (path_ne_nil op)

/-- What is left of an operation has the line of the operation. -/
theorem line_target (op : Operation α) : op.target.2.endpoint.line = op.endpoint.line := by
  obtain ⟨hservice, hmethod, hpath, hquery⟩ := op.address_target
  rw [Endpoint.line, hservice, hmethod, hpath, hquery]
  rfl

/-- **No two operations share a request line**, unless they ask the same endpoint: requests to a service have the same
method and the same address exactly if their operations differ in nothing but what is sent elsewhere. -/
theorem line_eq_iff (hbase : ∀ service, isPlainBase (c.baseUrl service) = true)
    (hservice : op.endpoint.service = op'.endpoint.service)
    (hdots : ∀ id ∈ op.identifiers ++ op'.identifiers, id ≠ "." ∧ id ≠ "..")
    {token token' : Option String} {r r' : Request} (h : c.request op.endpoint token = .ok r)
    (h' : c.request op'.endpoint token' = .ok r') :
    r.method = r'.method ∧ r.url.text = r'.url.text ↔ op.target = op'.target := by
  obtain ⟨front, hfront⟩ := exists_front (hbase op.endpoint.service)
  have htext := hfront rfl (fun id hid => hdots id (List.mem_append_left _ hid)) h
  have htext' := hfront hservice.symm (fun id hid => hdots id (List.mem_append_right _ hid)) h'
  have hmethod : r.method = op.endpoint.method ∧ r'.method = op'.endpoint.method := by
    obtain ⟨_, -, rfl⟩ := eq_of_request h
    obtain ⟨_, -, rfl⟩ := eq_of_request h'
    exact ⟨rfl, rfl⟩
  rw [htext, htext', hmethod.1, hmethod.2]
  constructor
  · rintro ⟨hmethods, haddresses⟩
    have hlines := List.append_cancel_left (String.ofList_injective haddresses)
    obtain ⟨hwords, hquery⟩ := RequestLine.eq_of_text (words_ne_nil op) (words_ne_nil op') hlines
    have hline : op.endpoint.line = op'.endpoint.line := RequestLine.ext hservice hmethods hwords hquery
    have htarget := RequestLine.operation?_line op
    rw [hline, RequestLine.operation?_line op'] at htarget
    exact (Option.some.inj htarget).symm
  · intro htarget
    have hline : op.target.2.endpoint.line = op'.target.2.endpoint.line := by rw [htarget]
    rw [line_target, line_target] at hline
    exact ⟨congrArg RequestLine.method hline, congrArg (fun l => String.ofList (front ++ l.text)) hline⟩

/-- The name of an event that looks like another part of the query. -/
theorem line_eq_iff_signs :
    let op := Operation.getLatestEventsByTime "p" "join&time=1" 2
    let op' := Operation.getLatestEventsByTime "p" "join" 1
    (∀ service, isPlainBase (onLocalhost.baseUrl service) = true) ∧ op.endpoint.service = op'.endpoint.service ∧
    (∀ id ∈ op.identifiers ++ op'.identifiers, id ≠ "." ∧ id ≠ "..") ∧
    ∃ r r', onLocalhost.request op.endpoint none = .ok r ∧ onLocalhost.request op'.endpoint none = .ok r' ∧
      (r.method = r'.method ∧ r.url.text = r'.url.text ↔ op.target = op'.target) := by
  intro op op'
  have hdots : ∀ id ∈ op.identifiers ++ op'.identifiers, id ≠ "." ∧ id ≠ ".." := by decide
  obtain ⟨r, hr⟩ : ∃ r, onLocalhost.request op.endpoint none = .ok r := exists_eq_ok (by decide +kernel)
  obtain ⟨r', hr'⟩ : ∃ r, onLocalhost.request op'.endpoint none = .ok r := exists_eq_ok (by decide +kernel)
  have hservice : op.endpoint.service = op'.endpoint.service := rfl
  have hline := line_eq_iff isPlainBase_onLocalhost hservice hdots hr hr'
  exact ⟨isPlainBase_onLocalhost, hservice, hdots, r, r', hr, hr', hline⟩

end Client

end HostingClient
