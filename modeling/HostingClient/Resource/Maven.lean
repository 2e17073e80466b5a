import HostingClient.Time.Timestamp

/-! # Maven repositories

The repositories that a space hosts and the artifacts in them. -/

namespace HostingClient

/-- The repository of another space that a repository mirrors. -/
structure MavenMirror where
  spaceId : String
  repository : String
deriving DecidableEq, Repr, Inhabited

/-- The fields of a mirror. -/
def MavenMirror.record : Record MavenMirror where
  fields :=
    .cons (.required "space_id" .text) <| .cons (.required "repository" .text) .nil
  build := fun (spaceId, repository, ()) => { spaceId, repository }
  parts x := (x.spaceId, x.repository, ())

/-- A repository. -/
structure MavenRepository where
  spaceId : String
  name : String
  isPublic : Bool
  createdAt : Time.Instant
  internalMirror : Option MavenMirror
deriving DecidableEq, Repr, Inhabited

/-- The fields of a repository. -/
def MavenRepository.record : Record MavenRepository where
  fields :=
    .cons (.required "space_id" .text) <| .cons (.required "name" .text) <| .cons (.required "public" .flag) <|
    .cons (.required "created_at" .timestamp) <| .cons (.open? "internal_mirror" MavenMirror.record.codec) .nil
  build := fun (spaceId, name, isPublic, createdAt, internalMirror, ()) =>
    { spaceId, name, isPublic, createdAt, internalMirror }
  parts x := (x.spaceId, x.name, x.isPublic, x.createdAt, x.internalMirror, ())

/-- A file of an artifact. -/
structure MavenArtifactFile where
  name : String
  size : Nat
  url : String
deriving DecidableEq, Repr, Inhabited

/-- The fields of a file. -/
def MavenArtifactFile.record : Record MavenArtifactFile where
  fields :=
    .cons (.required "name" .text) <| .cons (.required "size" .natural) <| .cons (.required "url" .text) .nil
  build := fun (name, size, url, ()) => { name, size, url }
  parts x := (x.name, x.size, x.url, ())

/-- A version of an artifact. -/
structure MavenArtifactVersion where
  version : String
  publishedAt : Time.Instant
  files : List MavenArtifactFile
deriving DecidableEq, Repr, Inhabited

/-- The fields of a version. -/
def MavenArtifactVersion.record : Record MavenArtifactVersion where
  fields :=
    .cons (.required "version" .text) <| .cons (.required "published_at" .timestamp) <|
    .cons (.defaulted "files" (.list MavenArtifactFile.record.codec) []) .nil
  build := fun (version, publishedAt, files, ()) => { version, publishedAt, files }
  parts x := (x.version, x.publishedAt, x.files, ())

/-- An artifact. -/
structure MavenArtifact where
  spaceId : String
  repository : String
  group : String
  id : String
  versions : List MavenArtifactVersion
deriving DecidableEq, Repr, Inhabited

/-- The fields of an artifact. -/
def MavenArtifact.record : Record MavenArtifact where
  fields :=
    .cons (.required "space_id" .text) <| .cons (.required "repository" .text) <|
    .cons (.required "group" .text) <| .cons (.required "id" .text) <|
    .cons (.defaulted "versions" (.list MavenArtifactVersion.record.codec) []) .nil
  build := fun (spaceId, repository, group, id, versions, ()) => { spaceId, repository, group, id, versions }
  parts x := (x.spaceId, x.repository, x.group, x.id, x.versions, ())

/-- What an artifact is asked for by. -/
def MavenArtifact.coordinate (a : MavenArtifact) : String := a.group ++ ":" ++ a.id

end HostingClient
