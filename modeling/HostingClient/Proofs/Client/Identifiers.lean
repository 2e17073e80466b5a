import Mathlib.Data.List.Forall2
import HostingClient.Proofs.Client.Run

/-! # Identifiers in paths

The path of a request, behind the path of the service, has the segments of its operation and no others
(`Client.perform_lands`): the fixed ones as they are, and the identifiers that the caller gives at their places, each
as a text that reads back. One or two dots are no identifiers for that, since they are resolved
(`Client.not_lands_parent`). -/

namespace HostingClient

open Codec Text

/-! ### Segments -/

namespace Segment

/-- What a segment stands for. -/
def content : Segment → List Char
  | fixed word => word.toList
  | given id => id.toList

/-- The identifier that a segment holds. -/
def identifier? : Segment → Option String
  | fixed _ => none
  | given id => some id

/-- Whether a text is written for a segment: a fixed segment is its own text, and an identifier reads back. -/
def Names : Segment → List Char → Prop
  | fixed word, text => text = word.toList
  | given id, text => Utf8.decode? (Percent.decode text) = some id.toList

/-- Whether a fixed segment is a word that stands for itself: it needs no escapes and is not made of dots. -/
def isTidy : Segment → Bool
  | fixed word => word.toList.all Percent.isUnreserved && word != "." && word != ".."
  | given _ => true

theorem text_eq {s : Segment} (h : s.isTidy = true) : s.text = Percent.segment s.content := by
  cases s with
  | fixed word =>
    unfold isTidy at h
    simp only [Bool.and_eq_true] at h
    exact (Percent.encode_of_all (List.all_eq_true.mp h.1.1)).symm
  | given id => rfl

/-- Identifiers that are not made of dots are not resolved. -/
theorem isKept_text {s : Segment} (h : s.isTidy = true)
    (hdots : ∀ id, s.identifier? = some id → id ≠ "." ∧ id ≠ "..") : Url.IsKept s.text := by
  have hne : ∀ word : String, word ≠ "." ∧ word ≠ ".." → Url.IsKept (Percent.segment word.toList) := by
    rintro word ⟨hone, htwo⟩
    exact Url.isKept_segment (fun he => hone (String.toList_inj.mp he)) fun he => htwo (String.toList_inj.mp he)
  rw [text_eq h]
  cases s with
  | fixed word =>
    unfold isTidy at h
    simp only [Bool.and_eq_true, bne_iff_ne] at h
    exact hne word ⟨h.1.2, h.2⟩
  | given id => exact hne id (hdots id rfl)

theorem isSlash_of_mem_text {s : Segment} (h : s.isTidy = true) {c : Char} (hc : c ∈ s.text) :
    Url.isSlash .web c = false := by
  rw [text_eq h] at hc
  exact Url.isSlash_of_mem_segment hc

theorem names_text (s : Segment) : s.Names s.text := by
  cases s with
  | fixed word => rfl
  | given id => exact Percent.decode?_segment id.toList

end Segment

/-- The identifiers that an operation puts into its path, in their order. -/
def Operation.identifiers : {α : Type} → Operation α → List String
  | _, .registerUser _ _ _ | _, .validateUser _ _ | _, .verifyUser _ | _, .resendVerificationCode => []
  | _, .createToken _ _ | _, .validateToken _ | _, .refreshToken _ => []
  | _, .getApiKeys | _, .createApiKey _ | _, .getAllSpaces | _, .createBlogArticle _ _ _ _ | _, .getTemplates => []
  | _, .updateUser userId _ _ _ | _, .getBlogArticlesForUser userId => [userId]
  | _, .deleteApiKey keyId => [keyId]
  | _, .getSpace spaceId | _, .getDownloadCountForSpace spaceId | _, .getDownloadCountPerVersion spaceId => [spaceId]
  | _, .getAllIssues spaceId | _, .createIssue spaceId _ => [spaceId]
  | _, .getIssue spaceId issueId | _, .updateIssue spaceId issueId _ | _, .deleteIssue spaceId issueId =>
    [spaceId, issueId]
  | _, .getAllVersions spaceId => [spaceId]
  | _, .getVersion spaceId versionId | _, .getDownloadCountForVersion spaceId versionId => [spaceId, versionId]
  | _, .getLatestVersion spaceId => [spaceId, latestVersion]
  | _, .getAllSecrets spaceId | _, .createSecret spaceId _ _ _ => [spaceId]
  | _, .getSecret spaceId key | _, .getSecretDecrypted spaceId key | _, .updateSecret spaceId key _ _
  | _, .deleteSecret spaceId key => [spaceId, key]
  | _, .getAllMavenRepositories spaceId | _, .getBlogArticlesForSpace spaceId => [spaceId]
  | _, .getMavenRepository spaceId repository | _, .getAllMavenArtifacts spaceId repository => [spaceId, repository]
  | _, .getMavenArtifact spaceId repository coordinate => [spaceId, repository, coordinate]
  | _, .getBlogArticle articleId | _, .getBlogArticleContent articleId | _, .updateBlogArticle articleId _ _ _
  | _, .deleteBlogArticle articleId => [articleId]
  | _, .kvDelete database collection _ | _, .kvDeleteMultiple database collection _
  | _, .kvDeleteAll database collection | _, .kvExists database collection _ | _, .kvGet database collection _
  | _, .kvGetMultiple database collection _ | _, .kvGetAll database collection | _, .kvKeys database collection
  | _, .kvCount database collection | _, .kvSize database collection => [database, collection]
  | _, .getDashboards projectId | _, .createDashboard projectId _ => [projectId]
  | _, .getDashboard projectId dashboardId | _, .updateDashboard projectId dashboardId _
  | _, .deleteDashboard projectId dashboardId => [projectId, dashboardId]
  | _, .getLatestEventsByTime projectId _ _ | _, .getLatestEventsByCount projectId _ _ => [projectId]
  | _, .getLatestLogsByTime projectId _ _ | _, .getLatestLogsByCount projectId _ _ => [projectId]
  | _, .getMetrics projectId => [projectId]
  | _, .createMetric m => [m.projectId]
  | _, .updateMetric m => [m.projectId, m.metricId]
  | _, .deleteMetric projectId metricId | _, .getLatestRecordsByCount projectId metricId _
  | _, .getLatestRecordsPerMinute projectId metricId | _, .getLatestRecordsPerHour projectId metricId
  | _, .getLatestRecordsPerDay projectId metricId | _, .getAggregatedRecords projectId metricId _ =>
    [projectId, metricId]
  | _, .applyTemplate _ templateId => [templateId]

/-- **The path of an operation has its identifiers in order.** -/
theorem Operation.identifiers_eq {α : Type} (op : Operation α) :
    op.endpoint.path.filterMap Segment.identifier? = op.identifiers := by
  cases op <;> rfl

theorem Operation.path_isTidy {α : Type} (op : Operation α) : op.endpoint.path.all Segment.isTidy = true := by
  cases op
  case getAggregatedRecords projectId metricId interval => cases interval <;> rfl
  all_goals rfl

namespace Client

variable {σ α : Type} {c : Client}

/-! ### Where requests go -/

theorem takeUser_path (u : Url) : (takeUser u).2.path = u.path := by
  unfold takeUser
  split
  · rfl
  · split
    · rfl
    · dsimp only
      split <;> rfl

theorem addQuery_path (u : Url) (pairs : List (List Char × List Char)) : (u.addQuery pairs).path = u.path := by
  unfold Url.addQuery
  split
  · rfl
  · split <;> rfl

/-- The path of a request is the one at its address. -/
theorem path_of_request {e : Endpoint α} {token : Option String} {r : Request} (h : c.request e token = .ok r) :
    ∃ u, Url.read (c.place e) = .ok u ∧ r.url.path = u.path := by
  obtain ⟨u, haddress, rfl⟩ := eq_of_request h
  exact ⟨u, read_of_address haddress, (addQuery_path _ _).trans (takeUser_path u)⟩

/-- Whether a text is an address of the web without query and fragment. -/
def isPlainBase (base : String) : Bool :=
  (Url.read (base ++ "/")).toOption.any fun u => isWebScheme u && u.query.isNone && u.fragment.isNone

theorem isPlainBase_iff {base : String} : isPlainBase base = true ↔
    ∃ u, Url.read (base ++ "/") = .ok u ∧ isWebScheme u = true ∧ u.query = none ∧ u.fragment = none := by
  unfold isPlainBase
  cases Url.read (base ++ "/") with
  | error e => exact iff_of_false nofun nofun
  | ok u => simp [Except.toOption, and_assoc]

/-- Whether a request goes to the path of a call: behind the path of the service stand the segments of the call. -/
def Lands (c : Client) (e : Endpoint α) (r : Request) : Prop :=
  ∃ base own, Url.read (c.baseUrl e.service ++ "/") = .ok base ∧ r.url.path.text = base.path.text ++ own ∧
    List.Forall₂ Segment.Names e.path (own.splitOn '/')

theorem path_ne_nil (op : Operation α) : op.endpoint.path ≠ [] := by
  cases op <;> exact nofun

theorem pathText_eq_text (path : List Segment) :
    pathText path = (Url.UrlPath.segments (path.map Segment.text)).text := by
  rw [pathText, Url.UrlPath.text, List.flatMap_map]

theorem isSlash_of_mem_path {op : Operation α} {text : List Char} (h : text ∈ op.endpoint.path.map Segment.text) :
    ∀ d ∈ text, Url.isSlash .web d = false := by
  intro d hd
  obtain ⟨s, hs, rfl⟩ := List.mem_map.mp h
  exact Segment.isSlash_of_mem_text (List.all_eq_true.mp (Operation.path_isTidy op) s hs) hd

/-- No segment of an operation holds a slash, so the slashes between them tell them apart. -/
theorem splitOn_path (op : Operation α) :
    (['/'].intercalate (op.endpoint.path.map Segment.text)).splitOn '/' = op.endpoint.path.map Segment.text := by
  refine List.splitOn_intercalate '/' (fun text htext hmem => ?_) (mt List.map_eq_nil_iff.mp (path_ne_nil op))
  exact absurd (isSlash_of_mem_path htext '/' hmem) (by decide)

/-- The address of an operation is the one of its service with the segments of the operation behind. -/
theorem read_place {op : Operation α} {base : Url} (hread : Url.read (c.baseUrl op.endpoint.service ++ "/") = .ok base)
    (hscheme : isWebScheme base = true) (hquery : base.query = none) (hfragment : base.fragment = none)
    (hdots : ∀ id ∈ op.identifiers, id ≠ "." ∧ id ≠ "..") :
    ∃ path, Url.read (c.place op.endpoint) = .ok { base with path } ∧
      path.text = base.path.text ++ ['/'].intercalate (op.endpoint.path.map Segment.text) := by
  have hne : op.endpoint.path.map Segment.text ≠ [] := mt List.map_eq_nil_iff.mp (path_ne_nil op)
  have hkept : ∀ text ∈ op.endpoint.path.map Segment.text, Url.IsKept text := by
    intro text htext
    obtain ⟨s, hs, rfl⟩ := List.mem_map.mp htext
    refine Segment.isKept_text (List.all_eq_true.mp (Operation.path_isTidy op) s hs) fun id hid => hdots id ?_
    rw [← Operation.identifiers_eq]
    exact List.mem_filterMap.mpr ⟨s, hs, hid⟩
  rw [place, pathText_eq_text]
  exact Url.read_segments (schemeKind_of_isWebScheme hscheme) hread hquery hfragment hne hkept
    fun text htext => isSlash_of_mem_path htext

/-- **Every request goes to the path of its operation.** -/
theorem lands_of_request {op : Operation α} {token : Option String} {r : Request}
    (hbase : isPlainBase (c.baseUrl op.endpoint.service) = true)
    (hdots : ∀ id ∈ op.identifiers, id ≠ "." ∧ id ≠ "..") (h : c.request op.endpoint token = .ok r) :
    c.Lands op.endpoint r := by
  obtain ⟨base, hread, hscheme, hquery, hfragment⟩ := isPlainBase_iff.mp hbase
  obtain ⟨u, hu, hr⟩ := path_of_request h
  obtain ⟨path, hplace, hpath⟩ := read_place hread hscheme hquery hfragment hdots
  rw [hplace] at hu
  cases hu
  refine ⟨base, _, hread, (congrArg Url.UrlPath.text hr).trans hpath, ?_⟩
  rw [splitOn_path, List.forall₂_map_right_iff, List.forall₂_same]
  exact fun s _ => Segment.names_text s

/-- **Identifiers stay at their places.** Every operation that is given no dots for an identifier sends its requests
behind the path of its service to its own segments: as many as it has, each identifier in one of them, from which it
is read back. A question about a token that precedes it goes to its path just so. -/
theorem perform_lands [Storage σ] (hbase : ∀ service, isPlainBase (c.baseUrl service) = true) {op : Operation α}
    (hdots : ∀ id ∈ op.identifiers, id ≠ "." ∧ id ≠ "..") (s : Surroundings σ) :
    op.endpoint.path.filterMap Segment.identifier? = op.identifiers ∧
    s.Extends (c.perform op s).2 fun x => c.Lands op.endpoint x.request ∨
      op.isPrivileged = true ∧ ∃ token, s.session.state.token = some token ∧
        c.Lands (Operation.validateToken token).endpoint x.request := by
  refine ⟨op.identifiers_eq, (perform_extends c op s).1.mono ?_⟩
  rintro x (h | ⟨hop, token, htoken, h⟩)
  · exact .inl (lands_of_request (hbase _) hdots h)
  · exact .inr ⟨hop, token, htoken, lands_of_request (hbase _) (fun _ hid => absurd hid List.not_mem_nil) h⟩

theorem isPlainBase_onLocalhost (service : Service) : isPlainBase (onLocalhost.baseUrl service) = true := by
  cases service <;> decide +kernel

/-- Slashes, percent signs and letters beyond ASCII in identifiers. -/
theorem perform_lands_signs :
    let op := Operation.getSecret "a/b%2F?" "#\\é"
    (∀ service, isPlainBase (onLocalhost.baseUrl service) = true) ∧ (∀ id ∈ op.identifiers, id ≠ "." ∧ id ≠ "..") ∧
    (onLocalhost.request op.endpoint none).toOption.map (·.url.text) =
      some "http://localhost:8080/core/spaces/a%2Fb%252F%3F/secrets/%23%5C%C3%A9" ∧
    admitting.Extends (onLocalhost.perform op admitting).2 fun x => onLocalhost.Lands op.endpoint x.request ∨
      op.isPrivileged = true ∧ ∃ token, admitting.session.state.token = some token ∧
        onLocalhost.Lands (Operation.validateToken token).endpoint x.request := by
  intro op
  have hdots : ∀ id ∈ op.identifiers, id ≠ "." ∧ id ≠ ".." := by decide
  exact ⟨isPlainBase_onLocalhost, hdots, by decide +kernel,
    (perform_lands isPlainBase_onLocalhost hdots admitting).2⟩

/-- Two dots for an identifier take the segment before them away: the request goes to the service itself. -/
theorem not_lands_parent : (∀ service, isPlainBase (onLocalhost.baseUrl service) = true) ∧
    ∃ x ∈ (onLocalhost.perform (.getSpace "..") admitting).2.exchanges,
      ¬ onLocalhost.Lands (Operation.getSpace "..").endpoint x.request := by
  refine ⟨isPlainBase_onLocalhost, ?_⟩
  have hpath : (onLocalhost.request (Operation.getSpace "..").endpoint admitting.session.state.token).toOption.map
      (·.url.path.text) = some "/core/".toList := by decide +kernel
  have hbase : (Url.read (onLocalhost.baseUrl .core ++ "/")).toOption.map (·.path.text) = some "/core/".toList := by
    decide +kernel
  cases hr : onLocalhost.request (Operation.getSpace "..").endpoint admitting.session.state.token with
  | error f =>
    rw [hr] at hpath
    cases hpath
  | ok r =>
    rw [hr] at hpath
    have hsent : ⟨r, (admitting.peer.answer r).1⟩ ∈
        (onLocalhost.perform (.getSpace "..") admitting).2.exchanges := by
      rw [perform_open rfl, (call_sent hr).exchanges]
      exact List.mem_append_right _ List.mem_cons_self
    refine ⟨_, hsent, ?_⟩
    rintro ⟨base, own, hread, htext, hnames⟩
    have hservice : (Operation.getSpace "..").endpoint.service = .core := rfl
    rw [hservice] at hread
    rw [hread] at hbase
    have hpath : r.url.path.text = "/core/".toList := Option.some.inj hpath
    have hbase : base.path.text = "/core/".toList := Option.some.inj hbase
    rw [hpath, hbase, List.self_eq_append_right] at htext
    rw [htext] at hnames
    exact absurd hnames.length_eq (by decide)

end Client

end HostingClient
