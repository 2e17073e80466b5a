import HostingClient.Client.Operation

/-! # The catalogue of endpoints

The endpoint of every operation. -/

namespace HostingClient

namespace Catalogue

open Segment

/-! ### Paths -/

/-- What belongs to a space. -/
def inSpace (spaceId : String) (rest : List Segment) : List Segment := fixed "spaces" :: given spaceId :: rest

def issues (spaceId : String) : List Segment := inSpace spaceId [fixed "issues"]

def issue (spaceId issueId : String) : List Segment := issues spaceId ++ [given issueId]

def versions (spaceId : String) : List Segment := inSpace spaceId [fixed "versions"]

def version (spaceId versionId : String) : List Segment := versions spaceId ++ [given versionId]

def secrets (spaceId : String) : List Segment := inSpace spaceId [fixed "secrets"]

def secret (spaceId key : String) : List Segment := secrets spaceId ++ [given key]

def repositories (spaceId : String) : List Segment := inSpace spaceId [fixed "maven-repositories"]

def artifacts (spaceId repository : String) : List Segment :=
  repositories spaceId ++ [given repository, fixed "artifacts"]

def article (articleId : String) : List Segment := [fixed "blog-articles", given articleId]

/-- What belongs to a project. -/
def inProject (projectId : String) (rest : List Segment) : List Segment := fixed "projects" :: given projectId :: rest

def dashboards (projectId : String) : List Segment := inProject projectId [fixed "dashboards"]

def dashboard (projectId dashboardId : String) : List Segment := dashboards projectId ++ [given dashboardId]

def metrics (projectId : String) : List Segment := inProject projectId [fixed "metrics"]

def metric (projectId metricId : String) : List Segment := metrics projectId ++ [given metricId]

def records (projectId metricId : String) : List Segment := metric projectId metricId ++ [fixed "records"]

/-- The place of a command of the key/value engine. -/
def command (database collection : String) (c : KvCommand) : List Segment :=
  [fixed "databases", given database, fixed "collections", given collection, fixed "kv", fixed (Nat.repr c.id)]

/-! ### Kinds of calls -/

variable {α : Type}

/-- A call to the core service in the name of the user. -/
def core (method : Method) (path : List Segment) (context : String) (content : Content α) : Endpoint α :=
  .make .core method path .session context content

/-- A call to the core service with the key of the settings. -/
def keyed (method : Method) (path : List Segment) (context : String) (content : Content α) : Endpoint α :=
  .make .core method path .apiKey context content

/-- A call to the identity provider. -/
def identity (method : Method) (path : List Segment) (credential : Credential) (context : String)
    (content : Content α) : Endpoint α :=
  .make .identity method path credential context content

/-- A call to analytics in the name of the user. -/
def analytics (method : Method) (path : List Segment) (context : String) (content : Content α) : Endpoint α :=
  .make .analytics method path .session context content

/-- A command to the key/value engine. -/
def kv (database collection : String) (c : KvCommand) (context : String) (content : Content α) : Endpoint α :=
  .make .storage .post (command database collection c) .apiKey context content

/-- A body with one key. -/
def keyBody (key : String) : Json := .object [("key", .text key)]

/-- A body with several keys. -/
def keysBody (keys : List String) : Json := .object [("keys", .array (keys.map Json.text))]

/-- A number in an address. -/
def numberText (n : Nat) : String := String.ofList (Number.digitsOf n)

/-- Gives each element its position as id. -/
def numbered {β : Type} (setId : String → β → β) (items : List β) : List β :=
  items.mapIdx fun i x => setId (numberText i) x

/-- Events of a project. The name is asked for even if it is empty. -/
def events (projectId name window : String) (n : Nat) (context : String) : Endpoint EventQueryResult :=
  let decoder := Decoder.map (fun (r : EventQueryResult) =>
    { r with events := numbered (fun id e => { e with id }) r.events }) EventQueryResult.record.decode
  ((analytics .get (inProject projectId [fixed "events"]) context (.json decoder)).asking
    [("name", name), (window, numberText n)]).expecting 200

/-- Log records of a project. An empty service is left out of the question. -/
def logs (projectId service window : String) (n : Nat) (context : String) : Endpoint LogsQueryResult :=
  let decoder := Decoder.map (fun (r : LogsQueryResult) =>
    { r with records := numbered (fun id e => { e with id }) r.records }) LogsQueryResult.record.decode
  ((analytics .get (inProject projectId [fixed "logs"]) context (.json decoder)).asking
    ((window, numberText n) :: if service.isEmpty then [] else [("service", service)])).expecting 200

/-- Recorded values summed over spans. -/
def aggregated (projectId metricId : String) (interval : RecordInterval) : Endpoint RecordQueryResult :=
  (analytics .get (records projectId metricId ++ [fixed interval.path]) ("fetch latest records " ++ interval.phrase)
    (.json RecordQueryResult.record.decode)).expecting 200

/-- The download counts of a space. -/
def downloads (spaceId context : String) (part : DownloadCount → α) : Endpoint α :=
  core .get (inSpace spaceId [fixed "downloads"]) context (.json (Decoder.map part DownloadCount.record.decode))

/-- A version of a space. -/
def fetchVersion (spaceId versionId : String) : Endpoint SpaceVersion :=
  keyed .get (version spaceId versionId) "fetch version" (.json SpaceVersion.record.decode)

end Catalogue

open Catalogue Segment

/-- The endpoint of an operation. -/
def Operation.endpoint : {α : Type} → Operation α → Endpoint α
  | _, .registerUser name email password =>
    ((identity .post [fixed "users", fixed "register"] .none "register user" .ignored).sending
      (RegisterUserRequest.record.encode ⟨"basic", name, email, password⟩)).expecting 201
  | _, .validateUser email password =>
    ((identity .post [fixed "users", fixed "validate"] .none "validate user" (.json Profile.record.decode)).sending
      (ValidateUserRequest.record.encode ⟨email, password⟩)).expecting 200
  | _, .updateUser userId name email password =>
    (((identity .put [fixed "users", given userId] .session "update user" .ignored).sending
      (UpdateUserRequest.record.encode ⟨name, email, password⟩)).expecting 200).gated
  | _, .verifyUser code =>
    { ((identity .post [fixed "users", fixed "verify", fixed "check"] .session "verify user" .ignored).expecting
        200).gated with
      body := .text code }
  | _, .resendVerificationCode =>
    ((identity .post [fixed "users", fixed "verify", fixed "resend"] .session "resend verification code"
      .ignored).expecting 200).gated
  | _, .createToken email password =>
    ((identity .post [fixed "tokens", fixed "create"] (.basic email password) "create token" .nonBlank).expecting
      201).plain
  | _, .validateToken token =>
    identity .post [fixed "tokens", fixed "validate"] (.bearer token) "validate token" .verdict
  | _, .refreshToken token =>
    (identity .post [fixed "tokens", fixed "refresh"] (.bearer token) "refresh token" .nonBlank).expecting 200
  | _, .getApiKeys =>
    ((identity .get [fixed "api-keys"] .session "get api keys" (.json (.list ApiKey.record.decode))).expecting
      200).gated
  | _, .createApiKey description =>
    (((identity .post [fixed "api-keys"] .session "create api key" .text).sending
      (CreateApiKeyRequest.record.encode ⟨description⟩)).expecting 200).gated
  | _, .deleteApiKey keyId =>
    ((identity .delete [fixed "api-keys", given keyId] .session "delete api key" .ignored).expecting 204).gated
  | _, .getAllSpaces => core .get [fixed "spaces"] "fetch all spaces" (.json (.list Space.record.decode))
  | _, .getSpace spaceId => core .get (inSpace spaceId []) "fetch space" (.json Space.record.decode)
  | _, .getDownloadCountForSpace spaceId => downloads spaceId "fetch download count for space" (·.downloads)
  | _, .getDownloadCountPerVersion spaceId => downloads spaceId "fetch download count per version" (·.versions)
  | _, .getIssue spaceId issueId => core .get (issue spaceId issueId) "fetch issue" (.json Issue.record.decode)
  | _, .getAllIssues spaceId => core .get (issues spaceId) "fetch all issues" (.json (.list Issue.record.decode))
  | _, .createIssue spaceId draft =>
    ((core .post (issues spaceId) "create issue" (.json Issue.record.decode)).sending
      (IssueDraft.record.encode draft)).gated
  | _, .updateIssue spaceId issueId changes =>
    ((core .put (issue spaceId issueId) "update issue" (.json Issue.record.decode)).sending
      (IssueDraft.record.encode changes)).gated
  | _, .deleteIssue spaceId issueId => (core .delete (issue spaceId issueId) "delete issue" .ignored).gated
  | _, .getVersion spaceId versionId => fetchVersion spaceId versionId
  | _, .getLatestVersion spaceId => fetchVersion spaceId latestVersion
  | _, .getAllVersions spaceId =>
    keyed .get (versions spaceId) "fetch all versions" (.json (.list SpaceVersion.record.decode))
  | _, .getDownloadCountForVersion spaceId versionId =>
    keyed .get (version spaceId versionId ++ [fixed "downloads"]) "fetch download count for version"
      (.json (Decoder.map (·.downloads) DownloadCount.record.decode))
  | _, .getSecret spaceId key => keyed .get (secret spaceId key) "fetch secret" (.json SpaceSecret.record.decode)
  | _, .getSecretDecrypted spaceId key =>
    (keyed .get (secret spaceId key ++ [fixed "decrypted"]) "fetch decrypted secret" .text).plain
  | _, .getAllSecrets spaceId => keyed .get (secrets spaceId) "fetch secrets" (.json (.list SpaceSecret.record.decode))
  | _, .createSecret spaceId key value description =>
    (keyed .post (secrets spaceId) "create secret" .ignored).sending
      (CreateSecretRequest.record.encode ⟨key, value, description⟩)
  | _, .updateSecret spaceId key value description =>
    (keyed .put (secret spaceId key) "update secret" .ignored).sending
      (UpdateSecretRequest.record.encode ⟨value, description⟩)
  | _, .deleteSecret spaceId key => keyed .delete (secret spaceId key) "delete secret" .ignored
  | _, .getAllMavenRepositories spaceId =>
    keyed .get (repositories spaceId) "fetch maven repositories" (.json (.list MavenRepository.record.decode))
  | _, .getMavenRepository spaceId repository =>
    keyed .get (repositories spaceId ++ [given repository]) "fetch maven repository"
      (.json MavenRepository.record.decode)
  | _, .getAllMavenArtifacts spaceId repository =>
    keyed .get (artifacts spaceId repository) "fetch maven artifacts" (.listOrEmpty MavenArtifact.record.decode)
  | _, .getMavenArtifact spaceId repository coordinate =>
    keyed .get (artifacts spaceId repository ++ [given coordinate]) "fetch maven artifact"
      (.json MavenArtifact.record.decode)
  | _, .getBlogArticlesForSpace spaceId =>
    core .get (inSpace spaceId [fixed "blog-articles"]) "fetch blog articles" (.listOrEmpty BlogArticle.record.decode)
  | _, .getBlogArticlesForUser userId =>
    core .get [fixed "users", given userId, fixed "blog-articles"] "fetch blog articles"
      (.json (.list BlogArticle.record.decode))
  | _, .getBlogArticle articleId => core .get (article articleId) "fetch blog article" (.json BlogArticle.record.decode)
  | _, .getBlogArticleContent articleId =>
    (core .get (article articleId ++ [fixed "content"]) "fetch blog article content" .text).plain
  | _, .createBlogArticle spaceId title summary content =>
    ((core .post [fixed "blog-articles"] "create blog article" (.json BlogArticle.record.decode)).sending
      (CreateBlogArticleRequest.record.encode ⟨spaceId, title, summary, content⟩)).gated
  | _, .updateBlogArticle articleId title summary content =>
    ((core .put (article articleId) "update blog article" (.json BlogArticle.record.decode)).sending
      (UpdateBlogArticleRequest.record.encode ⟨title, summary, content⟩)).gated
  | _, .deleteBlogArticle articleId => (core .delete (article articleId) "delete blog article" .ignored).gated
  | _, .kvDelete database collection key =>
    (kv database collection .delete "delete key" .ignored).sending (keyBody key)
  | _, .kvDeleteMultiple database collection keys =>
    (kv database collection .deleteMultiple "delete multiple keys" .ignored).sending (keysBody keys)
  | _, .kvDeleteAll database collection => kv database collection .deleteAll "delete all keys" .ignored
  | _, .kvExists database collection key =>
    (kv database collection .contains "check if key exists"
      (.json (Decoder.map (·.present) ExistsAnswer.record.decode))).sending (keyBody key)
  | _, .kvGet database collection key =>
    (kv database collection .get "get key" (.json (Decoder.map (·.value) ValueAnswer.record.decode))).sending
      (keyBody key)
  | _, .kvGetMultiple database collection keys =>
    (kv database collection .getMultiple "get multiple keys"
      (.json (Decoder.map (·.values) ValuesAnswer.record.decode))).sending (keysBody keys)
  | _, .kvGetAll database collection =>
    kv database collection .getAll "get all keys" (.json (Decoder.map (·.values) ValuesAnswer.record.decode))
  | _, .kvKeys database collection =>
    kv database collection .keys "fetch kv keys" (.json (Decoder.map (·.keys) KeysAnswer.record.decode))
  | _, .kvCount database collection =>
    kv database collection .count "fetch kv count" (.json (Decoder.map (·.count) CountAnswer.record.decode))
  | _, .kvSize database collection =>
    kv database collection .size "fetch kv size" (.json (Decoder.map (·.size) SizeAnswer.record.decode))
  | _, .getDashboards projectId =>
    analytics .get (dashboards projectId) "fetch dashboards" (.json (.list Dashboard.record.decode))
  | _, .getDashboard projectId dashboardId =>
    analytics .get (dashboard projectId dashboardId) "fetch dashboard" (.json Dashboard.record.decode)
  | _, .createDashboard projectId request =>
    ((analytics .post (dashboards projectId) "create dashboard" .ignored).sending
      (DashboardRequest.record.encode request)).gated
  | _, .updateDashboard projectId dashboardId request =>
    ((analytics .put (dashboard projectId dashboardId) "update dashboard" .ignored).sending
      (DashboardRequest.record.encode request)).gated
  | _, .deleteDashboard projectId dashboardId =>
    (analytics .delete (dashboard projectId dashboardId) "delete dashboard" .ignored).gated
  | _, .getLatestEventsByTime projectId name hours =>
    events projectId name "time" hours "fetch latest events by time"
  | _, .getLatestEventsByCount projectId name count =>
    events projectId name "amount" count "fetch latest events by count"
  | _, .getLatestLogsByTime projectId service hours =>
    logs projectId service "time" hours "fetch latest logs by time"
  | _, .getLatestLogsByCount projectId service count =>
    logs projectId service "amount" count "fetch latest logs by count"
  | _, .getMetrics projectId => analytics .get (metrics projectId) "fetch metrics" (.json (.list Metric.record.decode))
  | _, .createMetric m =>
    (((analytics .post (metrics m.projectId) "create metric" .ignored).sending (Metric.record.encode m)).expecting
      201).gated
  | _, .updateMetric m =>
    ((analytics .put (metric m.projectId m.metricId) "update metric" .ignored).sending (Metric.record.encode m)).gated
  | _, .deleteMetric projectId metricId =>
    (analytics .delete (metric projectId metricId) "delete metric" .ignored).gated
  | _, .getLatestRecordsByCount projectId metricId count =>
    ((analytics .get (records projectId metricId) "fetch latest records by count"
      (.json RecordQueryResult.record.decode)).asking [("amount", numberText count)]).expecting 200
  | _, .getLatestRecordsPerMinute projectId metricId => aggregated projectId metricId .minute
  | _, .getLatestRecordsPerHour projectId metricId => aggregated projectId metricId .hour
  | _, .getLatestRecordsPerDay projectId metricId => aggregated projectId metricId .day
  | _, .getAggregatedRecords projectId metricId interval => aggregated projectId metricId interval
  | _, .getTemplates =>
    .make .analytics .get [fixed "templates"] .none "fetch templates" (.json (.list Template.record.decode))
  | _, .applyTemplate projectId templateId =>
    ((analytics .post [fixed "templates", given templateId, fixed "apply"] "apply template" .ignored).sending
      (.object [("project_id", .text projectId)])).gated

end HostingClient
