import HostingClient.Time.Timestamp

/-! # Versions

The releases of a space. -/

namespace HostingClient

/-- The id that stands for the newest version. -/
def latestVersion : String := "latest"

/-- A file of a version. -/
structure SpaceVersionFile where
  name : String
  url : String
  size : Nat
deriving DecidableEq, Repr, Inhabited

/-- The fields of a file of a version. -/
def SpaceVersionFile.record : Record SpaceVersionFile where
  fields :=
    .cons (.required "name" .text) <| .cons (.required "url" .text) <| .cons (.required "size" .natural) .nil
  build := fun (name, url, size, ()) => { name, url, size }
  parts x := (x.name, x.url, x.size, ())

/-- A version of a space. -/
structure SpaceVersion where
  spaceId : String
  id : String
  name : String
  platform : String
  channel : String
  publishedAt : Time.Instant
  changelog : String
  supportedPlatformVersions : List String
  files : List SpaceVersionFile
deriving DecidableEq, Repr, Inhabited

/-- The fields of a version of a space. -/
def SpaceVersion.record : Record SpaceVersion where
  fields :=
    .cons (.required "space_id" .text) <| .cons (.required "id" .text) <| .cons (.required "name" .text) <|
    .cons (.required "platform" .text) <| .cons (.required "channel" .text) <|
    .cons (.required "published_at" .timestamp) <| .cons (.defaulted "changelog" .text "") <|
    .cons (.defaulted "supported_platform_versions" (.list .text) []) <|
    .cons (.defaulted "files" (.list SpaceVersionFile.record.codec) []) .nil
  build := fun (spaceId, id, name, platform, channel, publishedAt, changelog, supportedPlatformVersions, files,
        ()) =>
    { spaceId, id, name, platform, channel, publishedAt, changelog, supportedPlatformVersions, files }
  parts x := (x.spaceId, x.id, x.name, x.platform, x.channel, x.publishedAt, x.changelog,
      x.supportedPlatformVersions, x.files, ())

end HostingClient
