import Fleet.Poller.Execution

/-!
# Reporting what never ran

The last poller out empties the pool. Units that some device turned down come first and are told
that no device holds their tokens; the others are told nothing. A unit that cannot report is
logged. Anything a report throws ends the reporting.
-/

namespace Fleet

namespace Station

variable {E : Interface}

/-- Why a rejected unit did not run. -/
def noTokenReason (tokens : Names) : String :=
  "Test did not run. No token '" ++ tokens.joined ++ "' matching it on any device."

/-- Ask a unit to report that it did not run, or note that it cannot. -/
def reportUnit (conducts : Conducts E) (unit : TestUnit) (message : String) :
    Flow E Station Unit := do
  if unit.capabilities.notExecutedReport then
    modify (updatePoller fun poller => { poller with asked := poller.asked ++ [unit] })
    onNetwork (Poller.play Poller.ownListener ((conducts unit).reportNotExecuted message))
  else
    modify (updatePoller fun poller =>
      { poller with unreportable := poller.unreportable ++ [unit] })
    log .error "not_executed_unreportable"
      ("Could not report not executed tests from " ++ unit.name ++ ".")

/-- Take the rejected units out of the pool one by one and report them. -/
def reportRejected (conducts : Conducts E) (pool : WorkPool) : Flow E Station Unit :=
  match _h : pool.drainRejected with
  | (none, _) => pure ()
  | (some unit, rest) => do
    modify (putPool rest)
    reportUnit conducts unit (noTokenReason unit.tokens)
    reportRejected conducts rest
termination_by pool.rejections.length
decreasing_by exact WorkPool.length_rejections_drainRejected (by assumption)

/-- Take the units left out of the pool one by one and report them without a reason. -/
def reportRemaining (conducts : Conducts E) (pool : WorkPool) : Flow E Station Unit :=
  match _h : pool.drainRemaining with
  | (none, _) => pure ()
  | (some unit, rest) => do
    modify (putPool rest)
    reportUnit conducts unit ""
    reportRemaining conducts rest
termination_by pool.size
decreasing_by exact WorkPool.size_drainRemaining (by assumption)

/-- Report every unit still in the pool. -/
def reportNotExecuted (conducts : Conducts E) : Flow E Station Unit := do
  reportRejected conducts (← get).floor.pool
  reportRemaining conducts (← get).floor.pool

/-- Report every unit still in the pool; what a report throws is logged. -/
def finalReport (conducts : Conducts E) : Flow E Station Unit := do
  match ← Flow.attempt (reportNotExecuted conducts) with
  | .ok () => pure ()
  | .error (.standard what) => log .error "report_not_executed_failed" what
  | .error .other =>
    log .error "report_not_executed_failed"
      "unknown exception while reporting not executed units"

end Station

end Fleet
