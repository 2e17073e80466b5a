import HostingClient.Time.Timestamp

/-! # Analytics

Dashboards, events, log records, metrics, and templates of them. Events and log records have no id of their own:
each gets its position in the answer. -/

namespace HostingClient

/-- A chart of a dashboard. -/
structure Chart where
  kind : String
  name : String
  options : Dict Json
deriving Repr, Inhabited

/-- The fields of a chart. -/
def Chart.record : Record Chart where
  fields :=
    .cons (.required "type" .text) <| .cons (.required "name" .text) <|
    .cons (.defaulted "options" (.dict .any) .empty) .nil
  build := fun (kind, name, options, ()) => { kind, name, options }
  parts x := (x.kind, x.name, x.options, ())

/-- A dashboard. -/
structure Dashboard where
  dashboardId : String
  projectId : String
  name : String
  summary : String
  createdAt : Time.Instant
  isPublic : Bool
  charts : List Chart
deriving Repr, Inhabited

/-- The fields of a dashboard. -/
def Dashboard.record : Record Dashboard where
  fields :=
    .cons (.required "dashboard_id" .text) <| .cons (.required "project_id" .text) <|
    .cons (.required "name" .text) <| .cons (.defaulted "summary" .text "") <|
    .cons (.required "created_at" .timestamp) <| .cons (.defaulted "public" .flag false) <|
    .cons (.defaulted "charts" (.list Chart.record.codec) []) .nil
  build := fun (dashboardId, projectId, name, summary, createdAt, isPublic, charts, ()) =>
    { dashboardId, projectId, name, summary, createdAt, isPublic, charts }
  parts x := (x.dashboardId, x.projectId, x.name, x.summary, x.createdAt, x.isPublic, x.charts, ())

/-- A dashboard to be made or changed. -/
structure DashboardRequest where
  name : String
  summary : String
  isPublic : Bool
  charts : List Chart
deriving Repr, Inhabited

/-- The fields of a dashboard to be made. -/
def DashboardRequest.record : Record DashboardRequest where
  fields :=
    .cons (.required "name" .text) <| .cons (.required "summary" .text) <| .cons (.required "public" .flag) <|
    .cons (.required "charts" (.list Chart.record.codec)) .nil
  build := fun (name, summary, isPublic, charts, ()) => { name, summary, isPublic, charts }
  parts x := (x.name, x.summary, x.isPublic, x.charts, ())

/-- An event. -/
structure Event where
  id : String
  name : String
  timestamp : Time.Instant
  properties : Dict String
deriving DecidableEq, Repr, Inhabited

/-- The fields of an event. -/
def Event.record : Record Event where
  fields :=
    .cons (.defaulted "id" .text "") <| .cons (.required "name" .text) <|
    .cons (.required "timestamp" .timestamp) <| .cons (.defaulted "properties" (.dict .text) .empty) .nil
  build := fun (id, name, timestamp, properties, ()) => { id, name, timestamp, properties }
  parts x := (x.id, x.name, x.timestamp, x.properties, ())

/-- The answer to a question about events. -/
structure EventQueryResult where
  /-- How long the query took. -/
  time : Number.Binary64
  count : Nat
  events : List Event
deriving DecidableEq, Repr, Inhabited

/-- The fields of that answer. -/
def EventQueryResult.record : Record EventQueryResult where
  fields :=
    .cons (.defaulted "time" .real (.zero false)) <| .cons (.defaulted "count" .natural 0) <|
    .cons (.defaulted "events" (.list Event.record.codec) []) .nil
  build := fun (time, count, events, ()) => { time, count, events }
  parts x := (x.time, x.count, x.events, ())

/-- A log record. -/
structure LogRecord where
  id : String
  projectId : Option String
  service : String
  timestamp : Time.Instant
  level : String
  message : String
  properties : Dict String
deriving DecidableEq, Repr, Inhabited

/-- The fields of a log record. -/
def LogRecord.record : Record LogRecord where
  fields :=
    .cons (.defaulted "id" .text "") <| .cons (Field.open? "project_id" .text).hideUnset <|
    .cons (.required "service" .text) <| .cons (.required "timestamp" .timestamp) <|
    .cons (.required "level" .text) <| .cons (.required "message" .text) <|
    .cons (.defaulted "properties" (.dict .text) .empty) .nil
  build := fun (id, projectId, service, timestamp, level, message, properties, ()) =>
    { id, projectId, service, timestamp, level, message, properties }
  parts x := (x.id, x.projectId, x.service, x.timestamp, x.level, x.message, x.properties, ())

/-- The answer to a question about log records. -/
structure LogsQueryResult where
  /-- How long the query took. -/
  time : Number.Binary64
  rowsCount : Nat
  records : List LogRecord
deriving DecidableEq, Repr, Inhabited

/-- The fields of that answer. -/
def LogsQueryResult.record : Record LogsQueryResult where
  fields :=
    .cons (.defaulted "time" .real (.zero false)) <| .cons (.defaulted "rows_count" .natural 0) <|
    .cons (.defaulted "records" (.list LogRecord.record.codec) []) .nil
  build := fun (time, rowsCount, records, ()) => { time, rowsCount, records }
  parts x := (x.time, x.rowsCount, x.records, ())

/-- A metric. -/
structure Metric where
  projectId : String
  metricId : String
  name : String
  multiSender : Bool
  aggregationInterval : Option Nat
  applyExtraAggregation : Option Bool
  pullMetric : Option Bool
  pullInterval : Option Nat
  pullUrl : Option String
deriving DecidableEq, Repr, Inhabited

/-- The fields of a metric. -/
def Metric.record : Record Metric where
  fields :=
    .cons (.required "project_id" .text) <| .cons (.defaulted "metric_id" .text "") <|
    .cons (.required "name" .text) <| .cons (.defaulted "multi_sender" .flag false) <|
    .cons (Field.open? "aggregation_interval" .natural).hideUnset <|
    .cons (Field.open? "apply_extra_aggregation" .flag).hideUnset <|
    .cons (Field.open? "pull_metric" .flag).hideUnset <|
    .cons (Field.open? "pull_interval" .natural).hideUnset <| .cons (Field.open? "pull_url" .text).hideUnset
    .nil
  build := fun (projectId, metricId, name, multiSender, aggregationInterval, applyExtraAggregation, pullMetric,
        pullInterval, pullUrl, ()) =>
    { projectId, metricId, name, multiSender, aggregationInterval, applyExtraAggregation, pullMetric,
      pullInterval, pullUrl }
  parts x := (x.projectId, x.metricId, x.name, x.multiSender, x.aggregationInterval, x.applyExtraAggregation,
      x.pullMetric, x.pullInterval, x.pullUrl, ())

/-- A recorded value of a metric. -/
structure MetricRecord where
  projectId : String
  metricId : String
  label : String
  timestamp : Time.Instant
  value : Number.Binary64
deriving DecidableEq, Repr, Inhabited

/-- The fields of a recorded value. -/
def MetricRecord.record : Record MetricRecord where
  fields :=
    .cons (.required "project_id" .text) <| .cons (.required "metric_id" .text) <|
    .cons (.defaulted "label" .text "") <| .cons (.required "timestamp" .timestamp) <|
    .cons (.required "value" .real) .nil
  build := fun (projectId, metricId, label, timestamp, value, ()) =>
    { projectId, metricId, label, timestamp, value }
  parts x := (x.projectId, x.metricId, x.label, x.timestamp, x.value, ())

/-- The answer to a question about recorded values. -/
structure RecordQueryResult where
  /-- How long the query took. -/
  time : Number.Binary64
  rowsCount : Nat
  records : List MetricRecord
deriving DecidableEq, Repr, Inhabited

/-- The fields of that answer. -/
def RecordQueryResult.record : Record RecordQueryResult where
  fields :=
    .cons (.defaulted "time" .real (.zero false)) <| .cons (.defaulted "rows_count" .natural 0) <|
    .cons (.defaulted "records" (.list MetricRecord.record.codec) []) .nil
  build := fun (time, rowsCount, records, ()) => { time, rowsCount, records }
  parts x := (x.time, x.rowsCount, x.records, ())

/-- The span over which recorded values are summed. -/
inductive RecordInterval where
  | minute
  | hour
  | day
deriving DecidableEq, Repr, Inhabited

/-- A span in an address. -/
def RecordInterval.path : RecordInterval → String
  | minute => "per-minute"
  | hour => "per-hour"
  | day => "per-day"

/-- A span in a sentence. -/
def RecordInterval.phrase : RecordInterval → String
  | minute => "per minute"
  | hour => "per hour"
  | day => "per day"

/-- A metric of a template. -/
structure TemplateMetric where
  name : String
  multiSender : Bool
  aggregationInterval : Option Nat
  applyExtraAggregation : Option Bool
  pullMetric : Option Bool
  pullInterval : Option Nat
  pullUrl : Option String
deriving DecidableEq, Repr, Inhabited

/-- The fields of a metric of a template. -/
def TemplateMetric.record : Record TemplateMetric where
  fields :=
    .cons (.required "name" .text) <| .cons (.defaulted "multi_sender" .flag false) <|
    .cons (Field.open? "aggregation_interval" .natural).hideUnset <|
    .cons (Field.open? "apply_extra_aggregation" .flag).hideUnset <|
    .cons (Field.open? "pull_metric" .flag).hideUnset <|
    .cons (Field.open? "pull_interval" .natural).hideUnset <| .cons (Field.open? "pull_url" .text).hideUnset
    .nil
  build := fun (name, multiSender, aggregationInterval, applyExtraAggregation, pullMetric, pullInterval,
        pullUrl, ()) =>
    { name, multiSender, aggregationInterval, applyExtraAggregation, pullMetric, pullInterval, pullUrl }
  parts x := (x.name, x.multiSender, x.aggregationInterval, x.applyExtraAggregation, x.pullMetric,
      x.pullInterval, x.pullUrl, ())

/-- A dashboard of a template. -/
structure TemplateDashboard where
  name : String
  summary : String
  isPublic : Bool
  charts : List Chart
deriving Repr, Inhabited

/-- The fields of a dashboard of a template. -/
def TemplateDashboard.record : Record TemplateDashboard where
  fields :=
    .cons (.required "name" .text) <| .cons (.defaulted "summary" .text "") <|
    .cons (.defaulted "public" .flag false) <| .cons (.defaulted "charts" (.list Chart.record.codec) []) .nil
  build := fun (name, summary, isPublic, charts, ()) => { name, summary, isPublic, charts }
  parts x := (x.name, x.summary, x.isPublic, x.charts, ())

/-- Metrics and dashboards that can be applied to a project together. -/
structure Template where
  name : String
  description : String
  metrics : List TemplateMetric
  dashboards : List TemplateDashboard
deriving Repr, Inhabited

/-- The fields of a template. -/
def Template.record : Record Template where
  fields :=
    .cons (.required "name" .text) <| .cons (.defaulted "description" .text "") <|
    .cons (.defaulted "metrics" (.list TemplateMetric.record.codec) []) <|
    .cons (.defaulted "dashboards" (.list TemplateDashboard.record.codec) []) .nil
  build := fun (name, description, metrics, dashboards, ()) => { name, description, metrics, dashboards }
  parts x := (x.name, x.description, x.metrics, x.dashboards, ())

end HostingClient
