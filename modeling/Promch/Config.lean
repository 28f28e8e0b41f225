import Promch.Collector.Metrics

/-!
# Operator configuration

The settings that the modelled handlers read.  The structure carries what the
field validators check.
-/

namespace Promch

/-- A letter or an underscore, then letters, digits and underscores. -/
def isIdentifier (text : String) : Bool :=
  match text.toList with
  | [] => false
  | first :: rest =>
      (first.isAlpha || first = '_') && rest.all fun char => char.isAlphanum || char = '_'

/-- The validated operator settings. -/
structure OperatorConfig where
  expireAfterFailures : Int := 5
  /-- How long an error stays visible after recovery, in seconds. -/
  lastErrorTtlSeconds : Time := 600
  /-- The empty text disables prefixing. -/
  metricPrefix : String := "clickhouse"
  /-- The label that carries the source node on system queries. -/
  nodeLabel : String := "clickhouse_node"
  metricPrefix_valid : metricPrefix = "" ∨ isIdentifier metricPrefix = true := by decide
  nodeLabel_valid : isIdentifier nodeLabel = true ∧ nodeLabel ≠ "query_key" := by decide

/-- The settings of an operator without environment variables. -/
def defaultConfig : OperatorConfig := {}

/-- The prefix with any trailing underscore removed. -/
def OperatorConfig.metricPrefixNormalized (config : OperatorConfig) : String :=
  Collector.rstripUnderscore config.metricPrefix

end Promch
