import HostingClient.Time.Timestamp

/-! # Spaces

A space is a project on the platform, with its members, links and settings. -/

namespace HostingClient

/-- Whether a feature of a space is on. -/
structure FeatureSettings where
  enabled : Bool
deriving DecidableEq, Repr, Inhabited

/-- The fields of the settings of a feature. -/
def FeatureSettings.record : Record FeatureSettings where
  fields :=
    .cons (.required "enabled" .flag) .nil
  build v := ⟨v.1⟩
  parts x := (x.enabled, ())

/-- The settings of analytics. -/
structure AnalyticsSettings where
  enabled : Bool
  requireWriteKey : Bool
deriving DecidableEq, Repr, Inhabited

/-- The fields of the settings of analytics. -/
def AnalyticsSettings.record : Record AnalyticsSettings where
  fields :=
    .cons (.required "enabled" .flag) <| .cons (.defaulted "require_write_key" .flag false) .nil
  build := fun (enabled, requireWriteKey, ()) => { enabled, requireWriteKey }
  parts x := (x.enabled, x.requireWriteKey, ())

/-- A link of a space. -/
structure SpaceLink where
  name : String
  url : String
deriving DecidableEq, Repr, Inhabited

/-- The fields of a link. -/
def SpaceLink.record : Record SpaceLink where
  fields :=
    .cons (.required "name" .text) <| .cons (.required "url" .text) .nil
  build := fun (name, url, ()) => { name, url }
  parts x := (x.name, x.url, ())

/-- A member of a space. -/
structure SpaceMember where
  userId : String
  role : String
deriving DecidableEq, Repr, Inhabited

/-- The fields of a member. -/
def SpaceMember.record : Record SpaceMember where
  fields :=
    .cons (.required "user_id" .text) <| .cons (.required "role" .text) .nil
  build := fun (userId, role, ()) => { userId, role }
  parts x := (x.userId, x.role, ())

/-- A space. -/
structure Space where
  id : String
  slug : String
  title : String
  summary : String
  description : String
  categories : List String
  links : List SpaceLink
  iconUrl : String
  status : String
  createdAt : Time.Instant
  creator : String
  members : List SpaceMember
  issueSettings : FeatureSettings
  releaseSettings : FeatureSettings
  mavenRepositorySettings : FeatureSettings
  storageSettings : FeatureSettings
  analyticsSettings : AnalyticsSettings
  secretsSettings : FeatureSettings
deriving DecidableEq, Repr, Inhabited

/-- The fields of a space. -/
def Space.record : Record Space where
  fields :=
    .cons (.required "id" .text) <| .cons (.required "slug" .text) <| .cons (.required "title" .text) <|
    .cons (.defaulted "summary" .text "") <| .cons (.defaulted "description" .text "") <|
    .cons (.defaulted "categories" (.list .text) []) <|
    .cons (.defaulted "links" (.list SpaceLink.record.codec) []) <| .cons (.defaulted "icon_url" .text "") <|
    .cons (.required "status" .text) <| .cons (.required "created_at" .timestamp) <|
    .cons (.required "creator" .text) <| .cons (.defaulted "members" (.list SpaceMember.record.codec) []) <|
    .cons (.defaulted "issue_settings" FeatureSettings.record.codec ⟨false⟩) <|
    .cons (.defaulted "release_settings" FeatureSettings.record.codec ⟨false⟩) <|
    .cons (.defaulted "maven_repository_settings" FeatureSettings.record.codec ⟨false⟩) <|
    .cons (.defaulted "storage_settings" FeatureSettings.record.codec ⟨false⟩) <|
    .cons (.defaulted "analytics_settings" AnalyticsSettings.record.codec ⟨false, false⟩) <|
    .cons (.defaulted "secrets_settings" FeatureSettings.record.codec ⟨false⟩) .nil
  build := fun (id, slug, title, summary, description, categories, links, iconUrl, status, createdAt, creator,
        members, issueSettings, releaseSettings, mavenRepositorySettings, storageSettings, analyticsSettings,
        secretsSettings, ()) =>
    { id, slug, title, summary, description, categories, links, iconUrl, status, createdAt, creator, members,
      issueSettings, releaseSettings, mavenRepositorySettings, storageSettings, analyticsSettings,
      secretsSettings }
  parts x := (x.id, x.slug, x.title, x.summary, x.description, x.categories, x.links, x.iconUrl, x.status,
      x.createdAt, x.creator, x.members, x.issueSettings, x.releaseSettings, x.mavenRepositorySettings,
      x.storageSettings, x.analyticsSettings, x.secretsSettings, ())

/-- How often the versions of a space were downloaded. -/
structure DownloadCount where
  downloads : Nat
  /-- The count of each version, by its id. -/
  versions : Dict Nat
deriving DecidableEq, Repr, Inhabited

/-- The fields of the download counts. -/
def DownloadCount.record : Record DownloadCount where
  fields :=
    .cons (.defaulted "downloads" .natural 0) <| .cons (.defaulted "versions" (.dict .natural) .empty) .nil
  build := fun (downloads, versions, ()) => { downloads, versions }
  parts x := (x.downloads, x.versions, ())

end HostingClient
