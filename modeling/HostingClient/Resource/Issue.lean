import HostingClient.Time.Timestamp

/-! # Issues

The issues of a space, drafts of them, and comments. -/

namespace HostingClient

/-- The type of an issue. -/
inductive IssueType where
  | epic
  | bug
  | task
  | story
  | idea
deriving DecidableEq, Repr, Inhabited

/-- The names of issue types. -/
def IssueType.names : List (String × IssueType) :=
  [("epic", .epic), ("bug", .bug), ("task", .task), ("story", .story), ("idea", .idea)]

/-- Issue types in data. -/
def IssueType.codec : Codec IssueType := .variant IssueType.names

/-- How far an issue has come. -/
inductive IssueStatus where
  | backlog
  | planned
  | inProgress
  | done
  | closed
deriving DecidableEq, Repr, Inhabited

/-- The names of issue states. -/
def IssueStatus.names : List (String × IssueStatus) :=
  [("backlog", .backlog), ("planned", .planned), ("in_progress", .inProgress), ("done", .done), ("closed", .closed)]

/-- Issue states in data. -/
def IssueStatus.codec : Codec IssueStatus := .variant IssueStatus.names

/-- How much an issue matters. -/
inductive IssuePriority where
  | low
  | medium
  | high
  | critical
deriving DecidableEq, Repr, Inhabited

/-- The names of priorities. -/
def IssuePriority.names : List (String × IssuePriority) :=
  [("low", .low), ("medium", .medium), ("high", .high), ("critical", .critical)]

/-- Priorities in data. -/
def IssuePriority.codec : Codec IssuePriority := .variant IssuePriority.names

/-- The place of a priority in the order of priorities. -/
def IssuePriority.rank : IssuePriority → Nat
  | low => 0
  | medium => 1
  | high => 2
  | critical => 3

instance : Ord IssuePriority := ⟨fun a b => compare a.rank b.rank⟩

/-- Where an imported issue comes from. -/
inductive ExternalSource where
  | github
  | discordForumPost
  | discordTicketBot
deriving DecidableEq, Repr, Inhabited

/-- The names of external sources. -/
def ExternalSource.names : List (String × ExternalSource) :=
  [("github", .github), ("discord_forum_post", .discordForumPost), ("discord_ticket_bot", .discordTicketBot)]

/-- External sources in data. -/
def ExternalSource.codec : Codec ExternalSource := .variant ExternalSource.names

/-- An issue. -/
structure Issue where
  id : String
  space : String
  title : String
  description : String
  kind : IssueType
  status : IssueStatus
  priority : IssuePriority
  assignee : Option String
  reporter : String
  createdAt : Time.Instant
  updatedAt : Time.Instant
  externalSource : Option ExternalSource
  fixVersion : Option String
  affectedVersions : List String
  resolvedAt : Option Time.Instant
  parentIssue : Option String
  extraFields : Dict Json
deriving Repr, Inhabited

/-- The fields of an issue. -/
def Issue.record : Record Issue where
  fields :=
    .cons (.required "id" .text) <| .cons (.required "space" .text) <| .cons (.required "title" .text) <|
    .cons (.defaulted "description" .text "") <| .cons (.required "type" IssueType.codec) <|
    .cons (.required "status" IssueStatus.codec) <| .cons (.required "priority" IssuePriority.codec) <|
    .cons (Field.open? "assignee" .text).hideUnset <| .cons (.required "reporter" .text) <|
    .cons (.required "created_at" .timestamp) <| .cons (.required "updated_at" .timestamp) <|
    .cons (.open? "external_source" ExternalSource.codec) <|
    .cons (Field.open? "fix_version" .text).hideUnset <|
    .cons (.defaulted "affected_versions" (.list .text) []) <|
    .cons (Field.open? "resolved_at" .timestamp).hideUnset <|
    .cons (Field.open? "parent_issue" .text).hideUnset <| .cons (.defaulted "extra_fields" (.dict .any) .empty)
    .nil
  build := fun (id, space, title, description, kind, status, priority, assignee, reporter, createdAt, updatedAt,
        externalSource, fixVersion, affectedVersions, resolvedAt, parentIssue, extraFields, ()) =>
    { id, space, title, description, kind, status, priority, assignee, reporter, createdAt, updatedAt,
      externalSource, fixVersion, affectedVersions, resolvedAt, parentIssue, extraFields }
  parts x := (x.id, x.space, x.title, x.description, x.kind, x.status, x.priority, x.assignee, x.reporter,
      x.createdAt, x.updatedAt, x.externalSource, x.fixVersion, x.affectedVersions, x.resolvedAt, x.parentIssue,
      x.extraFields, ())

/-- The fields to set when an issue is made or changed. Unset ones are not sent. -/
structure IssueDraft where
  title : Option String
  description : Option String
  kind : Option IssueType
  status : Option IssueStatus
  priority : Option IssuePriority
  assignee : Option String
  fixVersion : Option String
  affectedVersions : Option (List String)
  parentIssue : Option String
  extraFields : Option (Dict Json)
deriving Repr, Inhabited

/-- The fields of a draft. -/
def IssueDraft.record : Record IssueDraft where
  fields :=
    .cons (Field.optional "title" .text).hideUnset <| .cons (Field.optional "description" .text).hideUnset <|
    .cons (Field.optional "type" IssueType.codec).hideUnset <|
    .cons (Field.optional "status" IssueStatus.codec).hideUnset <|
    .cons (Field.optional "priority" IssuePriority.codec).hideUnset <|
    .cons (Field.optional "assignee" .text).hideUnset <|
    .cons (Field.optional "fix_version" .text).hideUnset <|
    .cons (Field.optional "affected_versions" (.list .text)).hideUnset <|
    .cons (Field.optional "parent_issue" .text).hideUnset <|
    .cons (Field.optional "extra_fields" (.dict .any)).hideUnset .nil
  build := fun (title, description, kind, status, priority, assignee, fixVersion, affectedVersions, parentIssue,
        extraFields, ()) =>
    { title, description, kind, status, priority, assignee, fixVersion, affectedVersions, parentIssue,
      extraFields }
  parts x := (x.title, x.description, x.kind, x.status, x.priority, x.assignee, x.fixVersion,
      x.affectedVersions, x.parentIssue, x.extraFields, ())

/-- A comment on an issue. -/
structure IssueComment where
  id : String
  issue : String
  author : String
  content : String
  createdAt : Time.Instant
  updatedAt : Time.Instant
deriving DecidableEq, Repr, Inhabited

/-- The fields of a comment. -/
def IssueComment.record : Record IssueComment where
  fields :=
    .cons (.required "id" .text) <| .cons (.required "issue" .text) <| .cons (.required "author" .text) <|
    .cons (.required "content" .text) <| .cons (.required "created_at" .timestamp) <|
    .cons (.required "updated_at" .timestamp) .nil
  build := fun (id, issue, author, content, createdAt, updatedAt, ()) =>
    { id, issue, author, content, createdAt, updatedAt }
  parts x := (x.id, x.issue, x.author, x.content, x.createdAt, x.updatedAt, ())

end HostingClient
