import HostingClient.Notification
import HostingClient.Proofs.Json.Kept
import HostingClient.Resource.Account
import HostingClient.Resource.Analytics
import HostingClient.Resource.Blog
import HostingClient.Resource.Database
import HostingClient.Resource.Issue
import HostingClient.Resource.Maven
import HostingClient.Resource.Secret
import HostingClient.Resource.Space
import HostingClient.Resource.Version
import HostingClient.Session.Basic
import HostingClient.Settings.Basic

/-! # Resources keep what is decoded

What is known of the fields is tagged for `simp`, so that one look at the fields of a resource shows that it is kept.
A resource with free-form values is kept if the numbers in them are integers that fit a word. -/

namespace HostingClient

open HostingClient.Json Codec

/-- The values of a dictionary. -/
def Dict.values {α : Type} (d : Dict α) : List α := d.entries.map (·.2)

/-! ### Fields -/

attribute [simp] keeps_text keeps_flag keeps_natural keeps_timestamp keeps_list keeps_dict Codec.Keeps.required
  Codec.Keeps.optional Codec.Keeps.open?

section
variable {α : Type} {n : Nat} {name : String} {c : Codec α}

@[simp]
theorem text_defaulted {value s : String} : (Field.defaulted name Codec.text value).Keeps n s :=
  keeps_text.defaulted ((restores_text value).mono (Nat.zero_le n))

@[simp]
theorem flag_defaulted {value b : Bool} : (Field.defaulted name Codec.flag value).Keeps n b :=
  keeps_flag.defaulted ((restores_flag value).mono (Nat.zero_le n))

@[simp]
theorem zero_defaulted {m : Nat} : (Field.defaulted name Codec.natural 0).Keeps n m :=
  keeps_natural.defaulted ((restores_natural (Nat.zero_le _)).mono (Nat.zero_le n))

@[simp]
theorem nil_defaulted {as : List α} (h : ∀ a ∈ as, c.Keeps n a) : (Field.defaulted name c.list []).Keeps (n + 1) as :=
  (keeps_list h).defaulted restores_nil

@[simp]
theorem empty_defaulted {d : Dict α} (h : ∀ e ∈ d.entries, c.Keeps n e.2) :
    (Field.defaulted name c.dict .empty).Keeps (n + 1) d :=
  (keeps_dict h).defaulted restores_empty

theorem keeps_anyEntries {d : Dict Json} (h : ∀ j ∈ d.values, Whole j) : ∀ e ∈ d.entries, Codec.any.Keeps n e.2 := by
  intro e he
  have hvalue : e.2 ∈ d.values := List.mem_map_of_mem he
  exact keeps_any (h e.2 hvalue)

/-- An option that is null, missing or not written when it is unset. -/
@[simp]
theorem Codec.Keeps.openUnset {x : Option α} (h : c.option.Keeps n x) : (Field.open? name c).hideUnset.Keeps n x :=
  h.open?.hideUnset (fun _ => rfl) rfl

/-- An option that is null or missing when it is unset, and not written then. -/
@[simp]
theorem Codec.Keeps.optionalUnset {x : Option α} (h : c.option.Keeps n x) :
    (Field.optional name c).hideUnset.Keeps n x :=
  h.optional.hideUnset (fun _ => rfl) rfl

@[simp]
theorem keeps_textOption {x : Option String} : Codec.text.option.Keeps n x :=
  keeps_option (fun _ => nofun) fun _ _ => keeps_text

@[simp]
theorem keeps_flagOption {x : Option Bool} : Codec.flag.option.Keeps n x :=
  keeps_option (fun _ => nofun) fun _ _ => keeps_flag

@[simp]
theorem keeps_naturalOption {x : Option Nat} : Codec.natural.option.Keeps n x :=
  keeps_option (fun _ => nofun) fun _ _ => keeps_natural

@[simp]
theorem keeps_timestampOption {x : Option Time.Instant} : Codec.timestamp.option.Keeps n x :=
  keeps_option (fun _ => nofun) fun _ _ => keeps_timestamp

theorem keeps_variantOption [DecidableEq α] {names : List (String × α)}
    (hnames : ∀ e ∈ names, names.lookup e.1 = some e.2) {x : Option α} : (Codec.variant names).option.Keeps n x :=
  keeps_option (fun _ => nofun) fun _ _ => keeps_variant hnames

@[simp]
theorem keeps_listOption {x : Option (List α)} (h : ∀ as, x = some as → ∀ a ∈ as, c.Keeps n a) :
    c.list.option.Keeps (n + 1) x :=
  keeps_option (fun _ => nofun) fun as hx => keeps_list (h as hx)

@[simp]
theorem keeps_dictOption {x : Option (Dict α)} (h : ∀ d, x = some d → ∀ e ∈ d.entries, c.Keeps n e.2) :
    c.dict.option.Keeps (n + 1) x := by
  have hne : ∀ d, c.dict.encode d ≠ .null := by
    intro d
    show Json.object _ ≠ .null
    nofun
  exact keeps_option hne fun d hx => keeps_dict (h d hx)

@[simp]
theorem keeps_recordOption {r : Record α} {x : Option α} (h : ∀ a, x = some a → r.codec.Keeps n a) :
    r.codec.option.Keeps n x := by
  have hne : ∀ a, r.codec.encode a ≠ .null := by
    intro a
    show Json.object _ ≠ .null
    nofun
  exact keeps_option hne h

end

section
variable {n : Nat}

/-! ### Session, settings and reports -/

@[simp]
theorem Profile.keeps {u : Profile} : Profile.record.codec.Keeps (n + 2) u := by
  apply Profile.record.keeps (fun _ => rfl) (by decide)
  simp [Profile.record, Fields.Keeps]

@[simp]
theorem SessionState.keeps {s : SessionState} : SessionState.record.codec.Keeps (n + 3) s := by
  apply SessionState.record.keeps (fun _ => rfl) (by decide)
  simp [SessionState.record, Fields.Keeps]

@[simp]
theorem Notification.keeps {m : Notification} : Notification.record.codec.Keeps (n + 1) m := by
  apply Notification.record.keeps (fun _ => rfl) (by decide)
  simp [Notification.record, Fields.Keeps]

@[simp]
theorem Settings.keeps {s : Settings} : Settings.record.codec.Keeps (n + 1) s := by
  apply Settings.record.keeps (fun _ => rfl) (by decide)
  simp [Settings.record, Fields.Keeps]

/-- What is under the name of its kind is a failure. -/
theorem Failure.restores_record (f : Failure) : (Failure.record f.kind).codec.Restores (n + 1) f :=
  (Failure.record f.kind).restores rfl (List.pairwise_singleton _ _)
    ⟨(restores_text f.message).mono (Nat.zero_le n), trivial⟩

theorem Failure.restores (f : Failure) : Failure.codec.Restores (n + 2) f := by
  have hrecord := f.restores_record (n := n)
  refine ⟨⟨hrecord.whole, trivial⟩, fun p hp => ?_⟩
  obtain ⟨q, hq, hle⟩ := enter_of_lt hp
  have hpick : Decoder.pick Failure.kinds f.kind.name = .ok f.kind := by cases f.kind <;> rfl
  have hmessage : (Failure.record f.kind).decode q (outline ((Failure.record f.kind).encode f)) = .ok f :=
    hrecord.decode q hle
  have houtline : outline (Failure.codec.encode f) =
      .object [(.text f.kind.name, outline ((Failure.record f.kind).encode f))] none := rfl
  rw [houtline]
  simp only [Failure.codec, Decoder.tagged, hq, Key.read, DecodeFault.lift, bind, Except.bind, hpick, hmessage, finish]

theorem Failure.keeps {f : Failure} : Failure.codec.Keeps (n + 2) f :=
  fun _ _ hp _ _ => f.restores.mono hp

/-! ### Accounts -/

@[simp]
theorem RegisterUserRequest.keeps {x : RegisterUserRequest} : RegisterUserRequest.record.codec.Keeps (n + 1) x := by
  apply RegisterUserRequest.record.keeps (fun _ => rfl) (by decide)
  simp [RegisterUserRequest.record, Fields.Keeps]

@[simp]
theorem ValidateUserRequest.keeps {x : ValidateUserRequest} : ValidateUserRequest.record.codec.Keeps (n + 1) x := by
  apply ValidateUserRequest.record.keeps (fun _ => rfl) (by decide)
  simp [ValidateUserRequest.record, Fields.Keeps]

@[simp]
theorem UpdateUserRequest.keeps {x : UpdateUserRequest} : UpdateUserRequest.record.codec.Keeps (n + 1) x := by
  apply UpdateUserRequest.record.keeps (fun _ => rfl) (by decide)
  simp [UpdateUserRequest.record, Fields.Keeps]

@[simp]
theorem ApiKey.keeps {x : ApiKey} : ApiKey.record.codec.Keeps (n + 1) x := by
  apply ApiKey.record.keeps (fun _ => rfl) (by decide)
  simp [ApiKey.record, Fields.Keeps]

@[simp]
theorem CreateApiKeyRequest.keeps {x : CreateApiKeyRequest} : CreateApiKeyRequest.record.codec.Keeps (n + 1) x := by
  apply CreateApiKeyRequest.record.keeps (fun _ => rfl) (by decide)
  simp [CreateApiKeyRequest.record, Fields.Keeps]

/-! ### Spaces, versions and packages -/

@[simp]
theorem FeatureSettings.keeps {x : FeatureSettings} : FeatureSettings.record.codec.Keeps (n + 1) x := by
  apply FeatureSettings.record.keeps (fun _ => rfl) (by decide)
  simp [FeatureSettings.record, Fields.Keeps]

@[simp]
theorem FeatureSettings.defaulted {name : String} {b : Bool} {x : FeatureSettings} :
    (Field.defaulted name FeatureSettings.record.codec ⟨b⟩).Keeps (n + 1) x :=
  FeatureSettings.keeps.defaulted
    (FeatureSettings.record.restores rfl (by decide) ⟨(restores_flag b).mono (Nat.zero_le n), trivial⟩)

@[simp]
theorem AnalyticsSettings.keeps {x : AnalyticsSettings} : AnalyticsSettings.record.codec.Keeps (n + 1) x := by
  apply AnalyticsSettings.record.keeps (fun _ => rfl) (by decide)
  simp [AnalyticsSettings.record, Fields.Keeps]

@[simp]
theorem AnalyticsSettings.defaulted {name : String} {b b' : Bool} {x : AnalyticsSettings} :
    (Field.defaulted name AnalyticsSettings.record.codec ⟨b, b'⟩).Keeps (n + 1) x :=
  AnalyticsSettings.keeps.defaulted
    (AnalyticsSettings.record.restores rfl (by decide)
      ⟨(restores_flag b).mono (Nat.zero_le n), (restores_flag b').mono (Nat.zero_le n), trivial⟩)

@[simp]
theorem SpaceLink.keeps {x : SpaceLink} : SpaceLink.record.codec.Keeps (n + 1) x := by
  apply SpaceLink.record.keeps (fun _ => rfl) (by decide)
  simp [SpaceLink.record, Fields.Keeps]

@[simp]
theorem SpaceMember.keeps {x : SpaceMember} : SpaceMember.record.codec.Keeps (n + 1) x := by
  apply SpaceMember.record.keeps (fun _ => rfl) (by decide)
  simp [SpaceMember.record, Fields.Keeps]

@[simp]
theorem Space.keeps {x : Space} : Space.record.codec.Keeps (n + 3) x := by
  apply Space.record.keeps (fun _ => rfl) (by decide)
  simp [Space.record, Fields.Keeps]

@[simp]
theorem DownloadCount.keeps {x : DownloadCount} : DownloadCount.record.codec.Keeps (n + 2) x := by
  apply DownloadCount.record.keeps (fun _ => rfl) (by decide)
  simp [DownloadCount.record, Fields.Keeps]

@[simp]
theorem SpaceVersionFile.keeps {x : SpaceVersionFile} : SpaceVersionFile.record.codec.Keeps (n + 1) x := by
  apply SpaceVersionFile.record.keeps (fun _ => rfl) (by decide)
  simp [SpaceVersionFile.record, Fields.Keeps]

@[simp]
theorem SpaceVersion.keeps {x : SpaceVersion} : SpaceVersion.record.codec.Keeps (n + 3) x := by
  apply SpaceVersion.record.keeps (fun _ => rfl) (by decide)
  simp [SpaceVersion.record, Fields.Keeps]

@[simp]
theorem MavenMirror.keeps {x : MavenMirror} : MavenMirror.record.codec.Keeps (n + 1) x := by
  apply MavenMirror.record.keeps (fun _ => rfl) (by decide)
  simp [MavenMirror.record, Fields.Keeps]

@[simp]
theorem MavenRepository.keeps {x : MavenRepository} : MavenRepository.record.codec.Keeps (n + 2) x := by
  apply MavenRepository.record.keeps (fun _ => rfl) (by decide)
  simp [MavenRepository.record, Fields.Keeps]

@[simp]
theorem MavenArtifactFile.keeps {x : MavenArtifactFile} : MavenArtifactFile.record.codec.Keeps (n + 1) x := by
  apply MavenArtifactFile.record.keeps (fun _ => rfl) (by decide)
  simp [MavenArtifactFile.record, Fields.Keeps]

@[simp]
theorem MavenArtifactVersion.keeps {x : MavenArtifactVersion} : MavenArtifactVersion.record.codec.Keeps (n + 3) x := by
  apply MavenArtifactVersion.record.keeps (fun _ => rfl) (by decide)
  simp [MavenArtifactVersion.record, Fields.Keeps]

@[simp]
theorem MavenArtifact.keeps {x : MavenArtifact} : MavenArtifact.record.codec.Keeps (n + 5) x := by
  apply MavenArtifact.record.keeps (fun _ => rfl) (by decide)
  simp [MavenArtifact.record, Fields.Keeps]

/-! ### Issues -/

@[simp]
theorem IssueType.keeps {x : IssueType} : IssueType.codec.Keeps n x := keeps_variant (by decide)

@[simp]
theorem IssueType.keeps_option {x : Option IssueType} : IssueType.codec.option.Keeps n x :=
  keeps_variantOption (by decide)

@[simp]
theorem IssueStatus.keeps {x : IssueStatus} : IssueStatus.codec.Keeps n x := keeps_variant (by decide)

@[simp]
theorem IssueStatus.keeps_option {x : Option IssueStatus} : IssueStatus.codec.option.Keeps n x :=
  keeps_variantOption (by decide)

@[simp]
theorem IssuePriority.keeps {x : IssuePriority} : IssuePriority.codec.Keeps n x := keeps_variant (by decide)

@[simp]
theorem IssuePriority.keeps_option {x : Option IssuePriority} : IssuePriority.codec.option.Keeps n x :=
  keeps_variantOption (by decide)

@[simp]
theorem ExternalSource.keeps {x : ExternalSource} : ExternalSource.codec.Keeps n x := keeps_variant (by decide)

@[simp]
theorem ExternalSource.keeps_option {x : Option ExternalSource} : ExternalSource.codec.option.Keeps n x :=
  keeps_variantOption (by decide)

@[simp]
theorem Issue.keeps {x : Issue} (h : ∀ j ∈ x.extraFields.values, Whole j) : Issue.record.codec.Keeps (n + 2) x := by
  apply Issue.record.keeps (fun _ => rfl) (by decide)
  have hentries := keeps_anyEntries (n := n) h
  simp [Issue.record, Fields.Keeps, empty_defaulted hentries]

@[simp]
theorem IssueDraft.keeps {x : IssueDraft} (h : ∀ d, x.extraFields = some d → ∀ j ∈ d.values, Whole j) :
    IssueDraft.record.codec.Keeps (n + 2) x := by
  apply IssueDraft.record.keeps (fun _ => rfl) (by decide)
  have hentries := fun d hd => keeps_anyEntries (n := n) (h d hd)
  simp [IssueDraft.record, Fields.Keeps, keeps_dictOption hentries]

@[simp]
theorem IssueComment.keeps {x : IssueComment} : IssueComment.record.codec.Keeps (n + 1) x := by
  apply IssueComment.record.keeps (fun _ => rfl) (by decide)
  simp [IssueComment.record, Fields.Keeps]

/-! ### Articles, secrets and databases -/

@[simp]
theorem BlogArticle.keeps {x : BlogArticle} : BlogArticle.record.codec.Keeps (n + 1) x := by
  apply BlogArticle.record.keeps (fun _ => rfl) (by decide)
  simp [BlogArticle.record, Fields.Keeps]

@[simp]
theorem CreateBlogArticleRequest.keeps {x : CreateBlogArticleRequest} :
    CreateBlogArticleRequest.record.codec.Keeps (n + 1) x := by
  apply CreateBlogArticleRequest.record.keeps (fun _ => rfl) (by decide)
  simp [CreateBlogArticleRequest.record, Fields.Keeps]

@[simp]
theorem UpdateBlogArticleRequest.keeps {x : UpdateBlogArticleRequest} :
    UpdateBlogArticleRequest.record.codec.Keeps (n + 1) x := by
  apply UpdateBlogArticleRequest.record.keeps (fun _ => rfl) (by decide)
  simp [UpdateBlogArticleRequest.record, Fields.Keeps]

@[simp]
theorem SpaceSecret.keeps {x : SpaceSecret} : SpaceSecret.record.codec.Keeps (n + 1) x := by
  apply SpaceSecret.record.keeps (fun _ => rfl) (by decide)
  simp [SpaceSecret.record, Fields.Keeps]

@[simp]
theorem CreateSecretRequest.keeps {x : CreateSecretRequest} : CreateSecretRequest.record.codec.Keeps (n + 1) x := by
  apply CreateSecretRequest.record.keeps (fun _ => rfl) (by decide)
  simp [CreateSecretRequest.record, Fields.Keeps]

@[simp]
theorem UpdateSecretRequest.keeps {x : UpdateSecretRequest} : UpdateSecretRequest.record.codec.Keeps (n + 1) x := by
  apply UpdateSecretRequest.record.keeps (fun _ => rfl) (by decide)
  simp [UpdateSecretRequest.record, Fields.Keeps]

@[simp]
theorem SpaceDatabase.keeps {x : SpaceDatabase} : SpaceDatabase.record.codec.Keeps (n + 1) x := by
  apply SpaceDatabase.record.keeps (fun _ => rfl) (by decide)
  simp [SpaceDatabase.record, Fields.Keeps]

@[simp]
theorem SpaceDatabaseCollection.keeps {x : SpaceDatabaseCollection} :
    SpaceDatabaseCollection.record.codec.Keeps (n + 1) x := by
  apply SpaceDatabaseCollection.record.keeps (fun _ => rfl) (by decide)
  simp [SpaceDatabaseCollection.record, Fields.Keeps]

@[simp]
theorem KvValue.keeps {x : KvValue} (h : Whole x.value) : KvValue.record.codec.Keeps (n + 1) x := by
  apply KvValue.record.keeps (fun _ => rfl) (by decide)
  simp [KvValue.record, Fields.Keeps, keeps_any h]

/-! ### Analytics -/

@[simp]
theorem Chart.keeps {x : Chart} (h : ∀ j ∈ x.options.values, Whole j) : Chart.record.codec.Keeps (n + 2) x := by
  apply Chart.record.keeps (fun _ => rfl) (by decide)
  have hentries := keeps_anyEntries (n := n) h
  simp [Chart.record, Fields.Keeps, empty_defaulted hentries]

@[simp]
theorem Dashboard.keeps {x : Dashboard} (h : ∀ c ∈ x.charts, ∀ j ∈ c.options.values, Whole j) :
    Dashboard.record.codec.Keeps (n + 4) x := by
  apply Dashboard.record.keeps (fun _ => rfl) (by decide)
  have hcharts := fun c hc => Chart.keeps (n := n) (h c hc)
  simp [Dashboard.record, Fields.Keeps, nil_defaulted hcharts]

@[simp]
theorem DashboardRequest.keeps {x : DashboardRequest} (h : ∀ c ∈ x.charts, ∀ j ∈ c.options.values, Whole j) :
    DashboardRequest.record.codec.Keeps (n + 4) x := by
  apply DashboardRequest.record.keeps (fun _ => rfl) (by decide)
  have hcharts := fun c hc => Chart.keeps (n := n) (h c hc)
  simp [DashboardRequest.record, Fields.Keeps, keeps_list hcharts]

@[simp]
theorem Event.keeps {x : Event} : Event.record.codec.Keeps (n + 2) x := by
  apply Event.record.keeps (fun _ => rfl) (by decide)
  simp [Event.record, Fields.Keeps]

@[simp]
theorem LogRecord.keeps {x : LogRecord} : LogRecord.record.codec.Keeps (n + 2) x := by
  apply LogRecord.record.keeps (fun _ => rfl) (by decide)
  simp [LogRecord.record, Fields.Keeps]

@[simp]
theorem Metric.keeps {x : Metric} : Metric.record.codec.Keeps (n + 1) x := by
  apply Metric.record.keeps (fun _ => rfl) (by decide)
  simp [Metric.record, Fields.Keeps]

@[simp]
theorem TemplateMetric.keeps {x : TemplateMetric} : TemplateMetric.record.codec.Keeps (n + 1) x := by
  apply TemplateMetric.record.keeps (fun _ => rfl) (by decide)
  simp [TemplateMetric.record, Fields.Keeps]

@[simp]
theorem TemplateDashboard.keeps {x : TemplateDashboard} (h : ∀ c ∈ x.charts, ∀ j ∈ c.options.values, Whole j) :
    TemplateDashboard.record.codec.Keeps (n + 4) x := by
  apply TemplateDashboard.record.keeps (fun _ => rfl) (by decide)
  have hcharts := fun c hc => Chart.keeps (n := n) (h c hc)
  simp [TemplateDashboard.record, Fields.Keeps, nil_defaulted hcharts]

@[simp]
theorem Template.keeps {x : Template} (h : ∀ d ∈ x.dashboards, ∀ c ∈ d.charts, ∀ j ∈ c.options.values, Whole j) :
    Template.record.codec.Keeps (n + 6) x := by
  apply Template.record.keeps (fun _ => rfl) (by decide)
  have hdashboards := fun d hd => TemplateDashboard.keeps (n := n) (h d hd)
  simp [Template.record, Fields.Keeps, nil_defaulted hdashboards]

end

end HostingClient
