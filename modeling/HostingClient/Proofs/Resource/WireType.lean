import HostingClient.Proofs.Json.Rearranged
import HostingClient.Proofs.Resource.Kept

/-! # Types that go over the wire

The types that are read and written as data, without those that hold measured numbers. A value of such a type that was
decoded from some text survives being written and decoded again (`WireType.run_encode`), in whatever order the members
of its dictionaries are written (`WireType.run_of_rearranges`), as long as the numbers in its free-form values are
integers that fit a word. -/

namespace HostingClient

open HostingClient.Json Codec

/-- A type of values that are both read and written. -/
inductive WireType : Type → Type where
  | profile : WireType Profile
  | sessionState : WireType SessionState
  | notification : WireType Notification
  | failure : WireType Failure
  | settings : WireType Settings
  -- accounts
  | registerUserRequest : WireType RegisterUserRequest
  | validateUserRequest : WireType ValidateUserRequest
  | updateUserRequest : WireType UpdateUserRequest
  | apiKey : WireType ApiKey
  | createApiKeyRequest : WireType CreateApiKeyRequest
  -- spaces
  | featureSettings : WireType FeatureSettings
  | analyticsSettings : WireType AnalyticsSettings
  | spaceLink : WireType SpaceLink
  | spaceMember : WireType SpaceMember
  | space : WireType Space
  | downloadCount : WireType DownloadCount
  -- issues
  | issueType : WireType IssueType
  | issueStatus : WireType IssueStatus
  | issuePriority : WireType IssuePriority
  | externalSource : WireType ExternalSource
  | issue : WireType Issue
  | issueDraft : WireType IssueDraft
  | issueComment : WireType IssueComment
  -- versions and packages
  | spaceVersionFile : WireType SpaceVersionFile
  | spaceVersion : WireType SpaceVersion
  | mavenMirror : WireType MavenMirror
  | mavenRepository : WireType MavenRepository
  | mavenArtifactFile : WireType MavenArtifactFile
  | mavenArtifactVersion : WireType MavenArtifactVersion
  | mavenArtifact : WireType MavenArtifact
  -- articles
  | blogArticle : WireType BlogArticle
  | createBlogArticleRequest : WireType CreateBlogArticleRequest
  | updateBlogArticleRequest : WireType UpdateBlogArticleRequest
  -- secrets
  | spaceSecret : WireType SpaceSecret
  | createSecretRequest : WireType CreateSecretRequest
  | updateSecretRequest : WireType UpdateSecretRequest
  -- databases
  | spaceDatabase : WireType SpaceDatabase
  | spaceDatabaseCollection : WireType SpaceDatabaseCollection
  | kvValue : WireType KvValue
  -- analytics
  | chart : WireType Chart
  | dashboard : WireType Dashboard
  | dashboardRequest : WireType DashboardRequest
  | event : WireType Event
  | logRecord : WireType LogRecord
  | metric : WireType Metric
  | templateMetric : WireType TemplateMetric
  | templateDashboard : WireType TemplateDashboard
  | template : WireType Template

/-- How values of a type are read and written. -/
def WireType.codec : {α : Type} → WireType α → Codec α
  | _, profile => Profile.record.codec
  | _, sessionState => SessionState.record.codec
  | _, notification => Notification.record.codec
  | _, failure => Failure.codec
  | _, settings => Settings.record.codec
  | _, registerUserRequest => RegisterUserRequest.record.codec
  | _, validateUserRequest => ValidateUserRequest.record.codec
  | _, updateUserRequest => UpdateUserRequest.record.codec
  | _, apiKey => ApiKey.record.codec
  | _, createApiKeyRequest => CreateApiKeyRequest.record.codec
  | _, featureSettings => FeatureSettings.record.codec
  | _, analyticsSettings => AnalyticsSettings.record.codec
  | _, spaceLink => SpaceLink.record.codec
  | _, spaceMember => SpaceMember.record.codec
  | _, space => Space.record.codec
  | _, downloadCount => DownloadCount.record.codec
  | _, issueType => IssueType.codec
  | _, issueStatus => IssueStatus.codec
  | _, issuePriority => IssuePriority.codec
  | _, externalSource => ExternalSource.codec
  | _, issue => Issue.record.codec
  | _, issueDraft => IssueDraft.record.codec
  | _, issueComment => IssueComment.record.codec
  | _, spaceVersionFile => SpaceVersionFile.record.codec
  | _, spaceVersion => SpaceVersion.record.codec
  | _, mavenMirror => MavenMirror.record.codec
  | _, mavenRepository => MavenRepository.record.codec
  | _, mavenArtifactFile => MavenArtifactFile.record.codec
  | _, mavenArtifactVersion => MavenArtifactVersion.record.codec
  | _, mavenArtifact => MavenArtifact.record.codec
  | _, blogArticle => BlogArticle.record.codec
  | _, createBlogArticleRequest => CreateBlogArticleRequest.record.codec
  | _, updateBlogArticleRequest => UpdateBlogArticleRequest.record.codec
  | _, spaceSecret => SpaceSecret.record.codec
  | _, createSecretRequest => CreateSecretRequest.record.codec
  | _, updateSecretRequest => UpdateSecretRequest.record.codec
  | _, spaceDatabase => SpaceDatabase.record.codec
  | _, spaceDatabaseCollection => SpaceDatabaseCollection.record.codec
  | _, kvValue => KvValue.record.codec
  | _, chart => Chart.record.codec
  | _, dashboard => Dashboard.record.codec
  | _, dashboardRequest => DashboardRequest.record.codec
  | _, event => Event.record.codec
  | _, logRecord => LogRecord.record.codec
  | _, metric => Metric.record.codec
  | _, templateMetric => TemplateMetric.record.codec
  | _, templateDashboard => TemplateDashboard.record.codec
  | _, template => Template.record.codec

/-! ### Free-form values -/

/-- The options of some charts. -/
def chartValues (charts : List Chart) : List Json := charts.flatMap fun c => c.options.values

/-- The free-form values in a value. -/
def WireType.freeForm : {α : Type} → WireType α → α → List Json
  | _, issue, x => x.extraFields.values
  | _, issueDraft, x => x.extraFields.toList.flatMap Dict.values
  | _, kvValue, x => [x.value]
  | _, chart, x => x.options.values
  | _, dashboard, x => chartValues x.charts
  | _, dashboardRequest, x => chartValues x.charts
  | _, templateDashboard, x => chartValues x.charts
  | _, template, x => x.dashboards.flatMap fun d => chartValues d.charts
  | _, _, _ => []

theorem mem_chartValues {charts : List Chart} {c : Chart} (hc : c ∈ charts) {j : Json} (hj : j ∈ c.options.values) :
    j ∈ chartValues charts :=
  List.mem_flatMap.mpr ⟨c, hc, hj⟩

/-! ### Round trip -/

/-- A value is kept, as long as the numbers in its free-form values are integers that fit a word. -/
theorem WireType.keeps {α : Type} (t : WireType α) {v : α} (h : ∀ j ∈ t.freeForm v, Whole j) :
    t.codec.Keeps 127 v := by
  cases t
  case failure => exact Failure.keeps
  case issue => exact Issue.keeps h
  case issueDraft =>
    refine IssueDraft.keeps fun d hd j hj => h j ?_
    exact List.mem_flatMap.mpr ⟨d, Option.mem_toList.mpr hd, hj⟩
  case kvValue => exact KvValue.keeps (h _ List.mem_cons_self)
  case chart => exact Chart.keeps h
  case dashboard => exact Dashboard.keeps fun c hc j hj => h j (mem_chartValues hc hj)
  case dashboardRequest => exact DashboardRequest.keeps fun c hc j hj => h j (mem_chartValues hc hj)
  case templateDashboard => exact TemplateDashboard.keeps fun c hc j hj => h j (mem_chartValues hc hj)
  case template =>
    refine Template.keeps fun d hd c hc j hj => h j ?_
    exact List.mem_flatMap.mpr ⟨d, hd, mem_chartValues hc hj⟩
  -- the others hold nothing free
  all_goals simp [WireType.codec]

/-- **Decoding undoes encoding**: a value that some text was decoded to, with only integers that fit a word in its
free-form values, is written as a text that is decoded to it again, whichever way it is laid out. -/
theorem WireType.run_encode {α : Type} (t : WireType α) {text : String} {v : α} (hv : t.codec.decode.run text = .ok v)
    (hfree : ∀ j ∈ t.freeForm v, Whole j) :
    t.codec.decode.run (t.codec.encode v).compact = .ok v ∧ t.codec.decode.run (t.codec.encode v).indented = .ok v := by
  have hrestores := (t.keeps hfree).restores_of_run hv
  exact ⟨hrestores.run_compact, hrestores.run_indented⟩

/-- **The order of writing does not count.** The value is decoded as well from every text that has the members of its
dictionaries in another order, and from whatever else a codec takes for the same. -/
theorem WireType.run_of_rearranges {α : Type} (t : WireType α) {text text' : String} {v : α}
    (hv : t.codec.decode.run text = .ok v) (hfree : ∀ j ∈ t.freeForm v, Whole j) {tree : Tree}
    (htext : SpellsDocument tree (symbolsOf text'.toList))
    (h : Rearranges t.codec (outline (t.codec.encode v)) tree.outline) : t.codec.decode.run text' = .ok v := by
  have hrestores := (t.keeps hfree).restores_of_run hv
  rw [Decoder.run_spelled _ htext]
  exact h.decode (hrestores.decode .ofText (Nat.le_refl 127))

/-- What a server may write of an issue: out of order, with a member of its own, made during a leap second. -/
def sentIssue : Json := .object
  [("extra_fields", .object [("votes", .array [.number (.int 7), .object [("down", .number (.int (-3)))]])]),
    ("id", .text "i1"), ("space", .text "s1"), ("title", .text "It \"fails\""), ("type", .text "bug"), ("stars", .null),
    ("status", .text "done"), ("priority", .text "low"), ("reporter", .text "r"),
    ("created_at", .text "2016-12-31T23:59:60.5Z"), ("updated_at", .text "2017-01-01T00:00:00Z")]

/-- The issue that is read from it. -/
def readIssue : Issue :=
  { id := "i1", space := "s1", title := "It \"fails\"", description := "", kind := .bug, status := .done,
    priority := .low, assignee := none, reporter := "r", createdAt := ⟨1483228799, 1500000000⟩,
    updatedAt := ⟨1483228800, 0⟩, externalSource := none, fixVersion := none, affectedVersions := [],
    resolvedAt := none, parentIssue := none,
    extraFields := Dict.ofList [("votes", .array [.number (.int 7), .object [("down", .number (.int (-3)))]])] }

theorem WireType.run_encode_issue :
    (issue.codec.decode.run sentIssue.compact = .ok readIssue ∧ ∀ j ∈ issue.freeForm readIssue, Whole j) ∧
      issue.codec.decode.run (issue.codec.encode readIssue).compact = .ok readIssue ∧
      issue.codec.decode.run (issue.codec.encode readIssue).indented = .ok readIssue := by
  have hvotes : Whole (.array [.number (.int 7), .object [("down", .number (.int (-3)))]]) :=
    ⟨⟨by decide, by decide⟩, ⟨⟨by decide, by decide⟩, trivial⟩, trivial⟩
  have hsent : Whole sentIssue := ⟨⟨hvotes, trivial⟩, by simp [WholeMembers, Whole]⟩
  have hread : issue.codec.decode.run sentIssue.compact = .ok readIssue := by
    rw [Decoder.run_compact _ hsent]
    rfl
  have hfree : ∀ j ∈ issue.freeForm readIssue, Whole j := by
    intro j hj
    obtain rfl : j = _ := List.mem_singleton.mp hj
    exact hvotes
  exact ⟨⟨hread, hfree⟩, issue.run_encode hread hfree⟩

end HostingClient
