import Fleet.Event

/-!
# Open runs

Counts the runs a unit has started but not ended, so that a failing unit cannot leave a run open
downstream. An ended run that was never started is not counted.
-/

namespace Fleet

/-- How many runs are open after one more event. -/
def openRunsAfter (openRuns : Nat) : Event → Nat
  | .runStarted .. => openRuns + 1
  | .runEnded .. => openRuns - 1
  | _ => openRuns

/-- The events that fail and end every open run. -/
def closingEvents (message : String) : Nat → List Event
  | 0 => []
  | openRuns + 1 => .runFailed message :: .runEnded 0 .empty :: closingEvents message openRuns

end Fleet
