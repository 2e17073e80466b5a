import HostingClient.Time.Timestamp

/-! # Blog articles

Articles belong to a space or, if the space is empty, to their author. The text of an article is fetched apart. -/

namespace HostingClient

/-- An article without its text. -/
structure BlogArticle where
  id : String
  spaceId : String
  author : String
  title : String
  summary : String
  publishedAt : Time.Instant
deriving DecidableEq, Repr, Inhabited

/-- The fields of an article. -/
def BlogArticle.record : Record BlogArticle where
  fields :=
    .cons (.required "id" .text) <| .cons (.defaulted "space_id" .text "") <|
    .cons (.required "author" .text) <| .cons (.required "title" .text) <|
    .cons (.defaulted "summary" .text "") <| .cons (.required "published_at" .timestamp) .nil
  build := fun (id, spaceId, author, title, summary, publishedAt, ()) =>
    { id, spaceId, author, title, summary, publishedAt }
  parts x := (x.id, x.spaceId, x.author, x.title, x.summary, x.publishedAt, ())

/-- Whether an article belongs to its author. -/
def BlogArticle.isUserOwned (a : BlogArticle) : Bool := a.spaceId.isEmpty

/-- An article to be published. -/
structure CreateBlogArticleRequest where
  spaceId : String
  title : String
  summary : String
  content : String
deriving DecidableEq, Repr, Inhabited

/-- The fields of an article to be published. -/
def CreateBlogArticleRequest.record : Record CreateBlogArticleRequest where
  fields :=
    .cons (.required "space_id" .text) <| .cons (.required "title" .text) <|
    .cons (.required "summary" .text) <| .cons (.required "content" .text) .nil
  build := fun (spaceId, title, summary, content, ()) => { spaceId, title, summary, content }
  parts x := (x.spaceId, x.title, x.summary, x.content, ())

/-- The new form of an article. -/
structure UpdateBlogArticleRequest where
  title : String
  summary : String
  content : String
deriving DecidableEq, Repr, Inhabited

/-- The fields of the new form of an article. -/
def UpdateBlogArticleRequest.record : Record UpdateBlogArticleRequest where
  fields :=
    .cons (.required "title" .text) <| .cons (.required "summary" .text) <| .cons (.required "content" .text)
    .nil
  build := fun (title, summary, content, ()) => { title, summary, content }
  parts x := (x.title, x.summary, x.content, ())

end HostingClient
