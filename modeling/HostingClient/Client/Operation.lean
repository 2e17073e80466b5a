import HostingClient.Client.Endpoint
import HostingClient.Resource.Account
import HostingClient.Resource.Analytics
import HostingClient.Resource.Blog
import HostingClient.Resource.Issue
import HostingClient.Resource.Maven
import HostingClient.Resource.Secret
import HostingClient.Resource.Space
import HostingClient.Resource.Version

/-! # Operations

The calls that the client offers, with what they need and the type of what they give. -/

namespace HostingClient

/-- A call and the type of its result. -/
inductive Operation : Type → Type where
  -- accounts
  | registerUser (name email password : String) : Operation Unit
  | validateUser (email password : String) : Operation Profile
  | updateUser (userId name email password : String) : Operation Unit
  | verifyUser (code : String) : Operation Unit
  | resendVerificationCode : Operation Unit
  -- tokens
  | createToken (email password : String) : Operation String
  | validateToken (token : String) : Operation Bool
  | refreshToken (token : String) : Operation String
  -- keys
  | getApiKeys : Operation (List ApiKey)
  | createApiKey (description : String) : Operation String
  | deleteApiKey (keyId : String) : Operation Unit
  -- spaces
  | getAllSpaces : Operation (List Space)
  | getSpace (spaceId : String) : Operation Space
  | getDownloadCountForSpace (spaceId : String) : Operation Nat
  | getDownloadCountPerVersion (spaceId : String) : Operation (Dict Nat)
  -- issues
  | getIssue (spaceId issueId : String) : Operation Issue
  | getAllIssues (spaceId : String) : Operation (List Issue)
  | createIssue (spaceId : String) (issue : IssueDraft) : Operation Issue
  | updateIssue (spaceId issueId : String) (changes : IssueDraft) : Operation Issue
  | deleteIssue (spaceId issueId : String) : Operation Unit
  -- versions
  | getVersion (spaceId versionId : String) : Operation SpaceVersion
  | getLatestVersion (spaceId : String) : Operation SpaceVersion
  | getAllVersions (spaceId : String) : Operation (List SpaceVersion)
  | getDownloadCountForVersion (spaceId versionId : String) : Operation Nat
  -- secrets
  | getSecret (spaceId key : String) : Operation SpaceSecret
  | getSecretDecrypted (spaceId key : String) : Operation String
  | getAllSecrets (spaceId : String) : Operation (List SpaceSecret)
  | createSecret (spaceId key value description : String) : Operation Unit
  | updateSecret (spaceId key value description : String) : Operation Unit
  | deleteSecret (spaceId key : String) : Operation Unit
  -- packages
  | getAllMavenRepositories (spaceId : String) : Operation (List MavenRepository)
  | getMavenRepository (spaceId repository : String) : Operation MavenRepository
  | getAllMavenArtifacts (spaceId repository : String) : Operation (List MavenArtifact)
  | getMavenArtifact (spaceId repository coordinate : String) : Operation MavenArtifact
  -- articles
  | getBlogArticlesForSpace (spaceId : String) : Operation (List BlogArticle)
  | getBlogArticlesForUser (userId : String) : Operation (List BlogArticle)
  | getBlogArticle (articleId : String) : Operation BlogArticle
  | getBlogArticleContent (articleId : String) : Operation String
  | createBlogArticle (spaceId title summary content : String) : Operation BlogArticle
  | updateBlogArticle (articleId title summary content : String) : Operation BlogArticle
  | deleteBlogArticle (articleId : String) : Operation Unit
  -- keys and values
  | kvDelete (database collection key : String) : Operation Unit
  | kvDeleteMultiple (database collection : String) (keys : List String) : Operation Unit
  | kvDeleteAll (database collection : String) : Operation Unit
  | kvExists (database collection key : String) : Operation Bool
  | kvGet (database collection key : String) : Operation Json
  | kvGetMultiple (database collection : String) (keys : List String) : Operation (Dict Json)
  | kvGetAll (database collection : String) : Operation (Dict Json)
  | kvKeys (database collection : String) : Operation (List String)
  | kvCount (database collection : String) : Operation Nat
  | kvSize (database collection : String) : Operation Nat
  -- dashboards
  | getDashboards (projectId : String) : Operation (List Dashboard)
  | getDashboard (projectId dashboardId : String) : Operation Dashboard
  | createDashboard (projectId : String) (dashboard : DashboardRequest) : Operation Unit
  | updateDashboard (projectId dashboardId : String) (dashboard : DashboardRequest) : Operation Unit
  | deleteDashboard (projectId dashboardId : String) : Operation Unit
  -- events and logs
  | getLatestEventsByTime (projectId name : String) (hours : Nat) : Operation EventQueryResult
  | getLatestEventsByCount (projectId name : String) (count : Nat) : Operation EventQueryResult
  | getLatestLogsByTime (projectId service : String) (hours : Nat) : Operation LogsQueryResult
  | getLatestLogsByCount (projectId service : String) (count : Nat) : Operation LogsQueryResult
  -- metrics
  | getMetrics (projectId : String) : Operation (List Metric)
  | createMetric (metric : Metric) : Operation Unit
  | updateMetric (metric : Metric) : Operation Unit
  | deleteMetric (projectId metricId : String) : Operation Unit
  | getLatestRecordsByCount (projectId metricId : String) (count : Nat) : Operation RecordQueryResult
  | getLatestRecordsPerMinute (projectId metricId : String) : Operation RecordQueryResult
  | getLatestRecordsPerHour (projectId metricId : String) : Operation RecordQueryResult
  | getLatestRecordsPerDay (projectId metricId : String) : Operation RecordQueryResult
  | getAggregatedRecords (projectId metricId : String) (interval : RecordInterval) : Operation RecordQueryResult
  -- templates
  | getTemplates : Operation (List Template)
  | applyTemplate (projectId templateId : String) : Operation Unit

end HostingClient
