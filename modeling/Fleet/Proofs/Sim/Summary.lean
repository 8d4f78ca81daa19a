import Fleet.Proofs.Invocation.OpenRuns
import Fleet.Sim.Summary

/-!
# What events amount to

A summary counts runs that end and those of them that failed. Events amount to some runs if every
summary counts that many, whatever it has counted before, and no run is left open. Metrics and logs
make no difference, so what events amount to is the same in front of a poller's listeners and behind
a buffer.
-/

namespace Fleet

namespace Sim

variable {events passed more cases : List Event} {runs failures : Nat}

namespace Summary

variable {summary : Summary}

/-- The counts after several events. -/
def afterAll (summary : Summary) (events : List Event) : Summary :=
  events.foldl after summary

/-- Events are summed up one after the other. -/
theorem afterAll_append :
    summary.afterAll (events ++ more) = (summary.afterAll events).afterAll more :=
  List.foldl_append

private theorem afterAll_bare :
    summary.afterAll (events.map Event.bare) = summary.afterAll events := by
  rw [afterAll, List.foldl_map, afterAll]
  congr
  funext counts event
  cases event <;> rfl

private theorem afterAll_ordinary :
    summary.afterAll (events.filter (!·.isLog)) = summary.afterAll events := by
  rw [afterAll, List.foldl_filter, afterAll]
  congr
  funext counts event
  cases event <;> rfl

/-- Test cases are counted, but neither runs nor what is known about the current run. -/
theorem afterAll_cases (summary : Summary) (hcases : ∀ event ∈ cases, event.isCase = true) :
    (summary.afterAll cases).runs = summary.runs ∧
      (summary.afterAll cases).failedRuns = summary.failedRuns ∧
      (summary.afterAll cases).runFailed = summary.runFailed := by
  induction cases generalizing summary with
  | nil => exact ⟨rfl, rfl, rfl⟩
  | cons event rest ih =>
    obtain ⟨hevent, hrest⟩ := List.forall_mem_cons.mp hcases
    have hafter : (summary.after event).runs = summary.runs ∧
        (summary.after event).failedRuns = summary.failedRuns ∧
        (summary.after event).runFailed = summary.runFailed := by
      cases event with
      | testEnded test metrics => grind [after, countTest]
      | testStarted | testFailed | testIgnored => exact ⟨rfl, rfl, rfl⟩
      | _ => cases hevent
    obtain ⟨hruns, hfailures, hflag⟩ := ih (summary.after event) hrest
    exact ⟨hruns.trans hafter.1, hfailures.trans hafter.2.1, hflag.trans hafter.2.2⟩

end Summary

/-- Test cases open and close no run. -/
theorem foldl_openRunsAfter_cases (hcases : ∀ event ∈ cases, event.isCase = true)
    (openRuns : Nat) : cases.foldl openRunsAfter openRuns = openRuns := by
  induction cases with
  | nil => rfl
  | cons event rest ih =>
    obtain ⟨hevent, hrest⟩ := List.forall_mem_cons.mp hcases
    have hsame : openRunsAfter openRuns event = openRuns := by
      cases event <;> first | rfl | cases hevent
    rw [List.foldl_cons, hsame, ih hrest]

private theorem openRunsOf_ordinary :
    openRunsOf (events.filter (!·.isLog)) = openRunsOf events := by
  rw [openRunsOf, List.foldl_filter, openRunsOf]
  congr
  funext openRuns event
  cases event <;> rfl

/-- The events leave no run open, and a summary counts so many runs of them, of which so many
failed. -/
structure AmountsTo (events : List Event) (runs failures : Nat) : Prop where
  closed : openRunsOf events = 0
  runs : ∀ summary : Summary, (summary.afterAll events).runs = summary.runs + runs
  failures : ∀ summary : Summary,
    (summary.afterAll events).failedRuns = summary.failedRuns + failures

/-- No event amounts to nothing. -/
theorem amountsTo_nil : AmountsTo [] 0 0 :=
  ⟨rfl, fun _ => rfl, fun _ => rfl⟩

namespace AmountsTo

/-- What two lists of events amount to adds up. -/
theorem append {moreRuns moreFailures : Nat} (h : AmountsTo events runs failures)
    (hmore : AmountsTo more moreRuns moreFailures) :
    AmountsTo (events ++ more) (runs + moreRuns) (failures + moreFailures) where
  closed := by
    rw [openRunsOf, List.foldl_append, ← openRunsOf, h.closed]
    exact hmore.closed
  runs summary := by rw [Summary.afterAll_append, hmore.runs, h.runs, Nat.add_assoc]
  failures summary := by
    rw [Summary.afterAll_append, hmore.failures, h.failures, Nat.add_assoc]

/-- Metrics do not count. -/
theorem of_bare (h : AmountsTo events runs failures)
    (hbare : passed.map Event.bare = events.map Event.bare) : AmountsTo passed runs failures where
  closed := (foldl_openRunsAfter_congr hbare 0).trans h.closed
  runs summary := by rw [← Summary.afterAll_bare, hbare, Summary.afterAll_bare, h.runs]
  failures summary := by rw [← Summary.afterAll_bare, hbare, Summary.afterAll_bare, h.failures]

/-- Logs do not count, and it does not matter where they come in between. -/
theorem of_ordinary (h : AmountsTo events runs failures)
    (hordinary : passed.filter (!·.isLog) = events.filter (!·.isLog)) :
    AmountsTo passed runs failures where
  closed := by rw [← openRunsOf_ordinary, hordinary, openRunsOf_ordinary, h.closed]
  runs summary := by
    rw [← Summary.afterAll_ordinary, hordinary, Summary.afterAll_ordinary, h.runs]
  failures summary := by
    rw [← Summary.afterAll_ordinary, hordinary, Summary.afterAll_ordinary, h.failures]

end AmountsTo

variable {run message : String} {count elapsed : Int} {metrics : Metrics}

/-- A run that has not ended is open. -/
theorem openRunsOf_run (hcases : ∀ event ∈ cases, event.isCase = true) :
    openRunsOf (.runStarted run count :: cases) = 1 := by
  rw [openRunsOf, List.foldl_cons]
  exact foldl_openRunsAfter_cases hcases _

/-- A run that ends after some test cases does not fail. -/
theorem amountsTo_run (hcases : ∀ event ∈ cases, event.isCase = true) :
    AmountsTo (.runStarted run count :: cases ++ [.runEnded elapsed metrics]) 1 0 where
  closed := by
    rw [openRunsOf, List.foldl_append, ← openRunsOf, openRunsOf_run hcases]
    rfl
  runs summary := by
    rw [Summary.afterAll_append]
    exact congrArg (· + 1) (Summary.afterAll_cases _ hcases).1
  failures summary := by
    obtain ⟨-, hfailures, hflag⟩ :=
      (summary.after (.runStarted run count)).afterAll_cases hcases
    rw [Summary.afterAll_append]
    change Summary.failedRuns _ + (if Summary.runFailed _ then 1 else 0) = _
    rw [Summary.afterAll, List.foldl_cons, ← Summary.afterAll, hflag, hfailures]
    rfl

/-- A run that fails after some test cases is one that failed. -/
theorem amountsTo_failedRun (hcases : ∀ event ∈ cases, event.isCase = true) :
    AmountsTo (.runStarted run count :: cases ++ [.runFailed message, .runEnded elapsed metrics])
      1 1 where
  closed := by
    rw [openRunsOf, List.foldl_append, ← openRunsOf, openRunsOf_run hcases]
    rfl
  runs summary := by
    rw [Summary.afterAll_append]
    exact congrArg (· + 1) (Summary.afterAll_cases _ hcases).1
  failures summary := by
    rw [Summary.afterAll_append]
    exact congrArg (· + 1) (Summary.afterAll_cases _ hcases).2.1

end Sim

end Fleet
