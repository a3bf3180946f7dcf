import MetricWatch.Text.Percent

/-!
# Routes

The paths of the cluster's interface that the watch uses, relative to the base URL.
-/

namespace MetricWatch.Api

/-- Where metrics are asked for. -/
def metricsPath : String := "/cluster/metrics/multiple"

/-- Where the nodes are listed. -/
def nodesPath : String := "/system/cluster/nodes"

/-- Where the metric names of a node in a namespace are listed, for parts that are encoded. -/
def namesPath (node metricNamespace : String) : String :=
  "/cluster/" ++ node ++ "/metrics/namespace/" ++ metricNamespace

/-- Where the metric names of any node in any namespace are listed. -/
def encodedNamesPath (node metricNamespace : String) : String :=
  namesPath (Text.Percent.encode node) (Text.Percent.encode metricNamespace)

end MetricWatch.Api
