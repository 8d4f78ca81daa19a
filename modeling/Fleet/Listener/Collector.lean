import Fleet.Outside

/-!
# Metric collectors

A metric collector stands in front of a listener and adds measurements to runs and test cases.
What it measures is up to the collector; this module says when it is asked and how its answers are
merged: the metrics sent with a run win over those the collector started the run with, and the
collector has the last word on what is passed on.
-/

namespace Fleet

/-- A collector at work. -/
structure Collector where
  /-- Which collector it is. -/
  id : Nat
  /-- The context it was started with. -/
  context : Option Context := none
  /-- What it measured at the start of the latest run. -/
  runMetrics : Metrics := .empty

namespace Collector

variable {E : Interface}

/-- Take one event: the event to pass on, and the collector after it. -/
def receive (collector : Collector) (event : Event) : Work E (Event × Collector) :=
  match event with
  | .runStarted .. => do
    let runMetrics ← request (.collectorRunStart collector.id collector.context)
    return (event, { collector with runMetrics })
  | .testStarted test => do
    request (.collectorTestStart collector.id test)
    return (event, collector)
  | .testEnded test metrics => do
    let metrics ← request (.collectorTestEnd collector.id test metrics)
    return (.testEnded test metrics, collector)
  | .runEnded elapsedMs metrics => do
    let metrics ← request (.collectorRunEnd collector.id (metrics.union collector.runMetrics))
    return (.runEnded elapsedMs metrics, collector)
  | _ => return (event, collector)

end Collector

end Fleet
