import Fleet.Proofs.Crew.Basic
import Fleet.Proofs.Module.Staged
import Fleet.Proofs.Sim.Summary
import Mathlib.Data.List.DropRight

/-!
# Whose verdicts are counted

A summary remembers a verdict until some test ends, and a failed run until the next one starts. How
it counts can be read off the events: a test that ends is counted by the verdicts that came since
another test ended, whichever tests they are about. These are its own where every test that got one
has ended before the next one starts. A run that is closed in the middle of a test leaves them to
the test that ends next.
-/

namespace Fleet

namespace Event

/-- Whether a test ends. -/
def endsTest : Event → Bool
  | testEnded .. => true
  | runStarted .. | testStarted _ | testFailed .. | testIgnored _ | runFailed _ | runEnded ..
  | testLog .. | logSaved .. => false

/-- Whether a run starts. -/
def startsRun : Event → Bool
  | runStarted .. => true
  | testStarted _ | testFailed .. | testIgnored _ | testEnded .. | runFailed _ | runEnded ..
  | testLog .. | logSaved .. => false

/-- Whether a run fails. -/
def failsRun : Event → Bool
  | runFailed _ => true
  | runStarted .. | testStarted _ | testFailed .. | testIgnored _ | testEnded .. | runEnded ..
  | testLog .. | logSaved .. => false

/-- Whether a run ends. -/
def endsRun : Event → Bool
  | runEnded .. => true
  | runStarted .. | testStarted _ | testFailed .. | testIgnored _ | testEnded .. | runFailed _
  | testLog .. | logSaved .. => false

/-- The test that fails or is ignored. -/
def judged? : Event → Option TestDescription
  | testFailed test _ | testIgnored test => some test
  | runStarted .. | testStarted _ | testEnded .. | runFailed _ | runEnded .. | testLog ..
  | logSaved .. => none

/-- Whether a test fails that is one of these. -/
def failsTest (among : TestDescription → Bool) : Event → Bool
  | testFailed test _ => among test
  | runStarted .. | testStarted _ | testIgnored _ | testEnded .. | runFailed _ | runEnded ..
  | testLog .. | logSaved .. => false

/-- Whether a test is ignored that is one of these. -/
def ignoresTest (among : TestDescription → Bool) : Event → Bool
  | testIgnored test => among test
  | runStarted .. | testStarted _ | testFailed .. | testEnded .. | runFailed _ | runEnded ..
  | testLog .. | logSaved .. => false

private theorem judges_of_none {among : TestDescription → Bool} {event : Event}
    (h : event.judged? = none) :
    event.failsTest among = false ∧ event.ignoresTest among = false := by
  cases event with
  | testFailed | testIgnored => cases h
  | _ => exact ⟨rfl, rfl⟩

private theorem judges_congr {among others : TestDescription → Bool} {event : Event}
    (h : ∀ test ∈ event.judged?, among test = others test) :
    event.failsTest among = event.failsTest others ∧
      event.ignoresTest among = event.ignoresTest others := by
  cases event with
  | testFailed test trace => exact ⟨h test rfl, rfl⟩
  | testIgnored test => exact ⟨rfl, h test rfl⟩
  | _ => exact ⟨rfl, rfl⟩

end Event

namespace Sim

/-- Whether a test is any test. -/
def anyTest (_ : TestDescription) : Bool :=
  true

/-- The events since the last one that is a mark. -/
def since (mark : Event → Bool) (events : List Event) : List Event :=
  events.rtakeWhile (!mark ·)

/-- Where a test that ends is counted. -/
inductive Total where
  | passed
  | failed
  | ignored
  deriving DecidableEq

/-- Where a test is counted if these events hold the verdicts. A failure outweighs that it was
ignored. -/
def total (among : TestDescription → Bool) (events : List Event) : Total :=
  if events.any (Event.failsTest among) then .failed
  else if events.any (Event.ignoresTest among) then .ignored
  else .passed

section Since

variable {mark : Event → Bool} {event : Event} {earlier later : List Event}

private theorem since_concat :
    since mark (earlier ++ [event]) = if mark event then [] else since mark earlier ++ [event] := by
  rw [since, List.rtakeWhile_concat]
  cases mark event <;> rfl

private theorem since_append (h : ∀ event ∈ later, mark event = false) :
    since mark (earlier ++ later) = since mark earlier ++ later := by
  induction later using List.reverseRecOn with
  | nil => simp
  | append_singleton later event ih =>
    obtain ⟨hlater, hevent⟩ := List.forall_mem_append.mp h
    rw [← List.append_assoc, since_concat, ih hlater, if_neg (by simpa using hevent),
      List.append_assoc]

private theorem since_mark (hevent : mark event = true) (h : ∀ event ∈ later, mark event = false) :
    since mark (earlier ++ event :: later) = later := by
  rw [List.append_cons, since_append h, since_concat, if_pos hevent, List.nil_append]

end Since

section Total

variable {among others : TestDescription → Bool} {earlier later events : List Event}

private theorem total_append_comm :
    total among (earlier ++ later) = total among (later ++ earlier) := by
  simp only [total, List.any_append, Bool.or_comm]

/-- Which tests count matters only for tests that are judged. -/
theorem total_congr (h : ∀ event ∈ events, ∀ test ∈ event.judged?, among test = others test) :
    total among events = total others events := by
  have hfails : events.any (Event.failsTest among) = events.any (Event.failsTest others) := by
    rw [Bool.eq_iff_iff, List.any_eq_true, List.any_eq_true]
    exact exists_congr fun event => and_congr_right fun hevent => by
      rw [(Event.judges_congr (h event hevent)).1]
  have hignores : events.any (Event.ignoresTest among) = events.any (Event.ignoresTest others) := by
    rw [Bool.eq_iff_iff, List.any_eq_true, List.any_eq_true]
    exact exists_congr fun event => and_congr_right fun hevent => by
      rw [(Event.judges_congr (h event hevent)).2]
  rw [total, total, hfails, hignores]

private theorem total_append_unjudging (h : ∀ event ∈ later, event.judged? = none) :
    total among (earlier ++ later) = total among earlier := by
  have hfails : later.any (Event.failsTest among) = false :=
    List.any_eq_false.mpr fun event hevent => by simp [Event.judges_of_none (h event hevent)]
  have hignores : later.any (Event.ignoresTest among) = false :=
    List.any_eq_false.mpr fun event hevent => by simp [Event.judges_of_none (h event hevent)]
  simp only [total, List.any_append, hfails, hignores, Bool.or_false]

end Total

namespace Summary

variable {summary : Summary} {before : List Event} {event : Event} {column : Total}

/-- How many tests are counted in a total. -/
def count (summary : Summary) : Total → Nat
  | .passed => summary.passed
  | .failed => summary.failed
  | .ignored => summary.ignored

/-- What a summary remembers besides the counts is what came since some test ended and some run
started. -/
structure Recalls (summary : Summary) (before : List Event) : Prop where
  failed : summary.testFailed = (since Event.endsTest before).any (Event.failsTest anyTest)
  ignored : summary.testIgnored = (since Event.endsTest before).any (Event.ignoresTest anyTest)
  runFailed : summary.runFailed = (since Event.startsRun before).any Event.failsRun

private theorem runFailed_countTest : summary.countTest.runFailed = summary.runFailed := by
  grind [countTest]

private theorem Recalls.after (h : summary.Recalls before) (event : Event) :
    (summary.after event).Recalls (before ++ [event]) := by
  obtain ⟨hfailed, hignored, hrun⟩ := h
  cases event with
  | testEnded test metrics =>
    constructor
    · simp [Summary.after, countTest, since_concat, Event.endsTest]
    · simp [Summary.after, countTest, since_concat, Event.endsTest]
    · rw [Summary.after, runFailed_countTest, hrun]
      simp [since_concat, Event.startsRun, Event.failsRun]
  | _ =>
    constructor <;>
      simp [Summary.after, countRun, since_concat, Event.endsTest, Event.startsRun,
        Event.failsTest, Event.ignoresTest, Event.failsRun, anyTest, hfailed, hignored, hrun]

private theorem Recalls.afterAll (h : summary.Recalls before) (events : List Event) :
    (summary.afterAll events).Recalls (before ++ events) := by
  induction events generalizing summary before with
  | nil => rwa [List.append_nil]
  | cons event events ih =>
    rw [List.append_cons]
    exact ih (h.after event)

private theorem recalls_nil : ({} : Summary).Recalls [] :=
  ⟨rfl, rfl, rfl⟩

/-- A test that ends is counted once, by the verdicts since another test ended. -/
theorem Recalls.count_testEnded (h : summary.Recalls before) (test : TestDescription)
    (metrics : Metrics) :
    (summary.after (.testEnded test metrics)).count column = summary.count column +
      if total anyTest (since Event.endsTest before) = column then 1 else 0 := by
  rw [total, ← h.failed, ← h.ignored]
  cases hfailed : summary.testFailed <;> cases hignored : summary.testIgnored <;> cases column <;>
    simp [Summary.after, countTest, count, hfailed, hignored]

/-- Nothing else is counted as a test. -/
theorem count_after (h : event.endsTest = false) :
    (summary.after event).count column = summary.count column := by
  cases event with
  | testEnded => cases h
  | _ => cases column <;> rfl

/-- A run that ends is counted as failed if one has failed since the last one started. -/
theorem Recalls.runs_after (h : summary.Recalls before) (event : Event) :
    (summary.after event).runs = summary.runs + (if event.endsRun then 1 else 0) ∧
      (summary.after event).failedRuns = summary.failedRuns +
        if event.endsRun && (since Event.startsRun before).any Event.failsRun then 1 else 0 := by
  rw [← h.runFailed]
  cases event with
  | testEnded => grind [Summary.after, countTest, Event.endsRun]
  | _ => exact ⟨rfl, by simp [Summary.after, countRun, Event.endsRun]⟩

/-- Nothing is counted as a run while none ends. -/
theorem Recalls.runs_afterAll (h : summary.Recalls before) {events : List Event}
    (hends : ∀ event ∈ events, event.endsRun = false) :
    (summary.afterAll events).runs = summary.runs ∧
      (summary.afterAll events).failedRuns = summary.failedRuns := by
  induction events generalizing summary before with
  | nil => exact ⟨rfl, rfl⟩
  | cons event events ih =>
    obtain ⟨hevent, hlater⟩ := List.forall_mem_cons.mp hends
    obtain ⟨hruns, hfailed⟩ := h.runs_after event
    obtain ⟨hruns', hfailed'⟩ := ih (h.after event) hlater
    rw [hevent] at hruns hfailed
    exact ⟨hruns'.trans hruns, hfailed'.trans hfailed⟩

end Summary

section Turns

variable {test : TestDescription} {earlier own : List Event}

/-- Closing a run in the middle of a test leaves the verdicts on the test where they are. -/
theorem total_since_closingEvents (message : String) (openRuns : Nat) :
    total anyTest (since Event.endsTest (earlier ++ closingEvents message openRuns)) =
      total anyTest (since Event.endsTest earlier) := by
  have hclosing : ∀ event ∈ closingEvents message openRuns,
      event.endsTest = false ∧ event.judged? = none := by
    induction openRuns with
    | zero => nofun
    | succ openRuns ih =>
      rw [closingEvents, List.forall_mem_cons, List.forall_mem_cons]
      exact ⟨⟨rfl, rfl⟩, ⟨rfl, rfl⟩, ih⟩
  rw [since_append fun event hevent => (hclosing event hevent).1,
    total_append_unjudging fun event hevent => (hclosing event hevent).2]

/-- A test has its turn: since it started, no test has ended and none but this one has been judged,
and no verdict was left over when it started. -/
structure HasTurn (test : TestDescription) (earlier own : List Event) : Prop where
  own : ∀ event ∈ own, event.endsTest = false ∧ event ≠ .testStarted test ∧
    ∀ other ∈ event.judged?, other = test
  left : ∀ event ∈ since Event.endsTest earlier, event.judged? = none

/-- If a test has its turn, the verdicts since another test ended are its own since it started. -/
theorem HasTurn.total_since (h : HasTurn test earlier own) :
    total anyTest (since Event.endsTest (earlier ++ .testStarted test :: own)) =
      total (· = test) (since (· = .testStarted test) (earlier ++ .testStarted test :: own)) := by
  have hstarted : since (· = .testStarted test) (earlier ++ .testStarted test :: own) = own :=
    since_mark (by simp) fun event hevent => by simp [(h.own event hevent).2.1]
  have hrecent : since Event.endsTest (earlier ++ .testStarted test :: own) =
      since Event.endsTest earlier ++ .testStarted test :: own :=
    since_append (List.forall_mem_cons.mpr ⟨rfl, fun event hevent => (h.own event hevent).1⟩)
  have hunjudging : ∀ event ∈ since Event.endsTest earlier ++ [.testStarted test],
      event.judged? = none :=
    List.forall_mem_append.mpr ⟨h.left, List.forall_mem_singleton.mpr rfl⟩
  rw [hstarted, hrecent, List.append_cons, total_append_comm, total_append_unjudging hunjudging]
  exact total_congr fun event hevent other hother => by
    simp [anyTest, (h.own event hevent).2.2 other hother]

end Turns

/-- A run from its start to its end, and what leads to it; no other one starts or ends in
between. -/
structure Run where
  lead : List Event
  name : String
  count : Int
  body : List Event
  elapsedMs : Int
  metrics : Metrics
  apart : ∀ event ∈ lead ++ body, event.startsRun = false ∧ event.endsRun = false

namespace Run

variable {summary : Summary} {before : List Event}

/-- The events of a run, and those that lead to it. -/
def events (run : Run) : List Event :=
  run.lead ++ .runStarted run.name run.count :: run.body ++ [.runEnded run.elapsedMs run.metrics]

/-- Whether the run fails before it ends. -/
def failed (run : Run) : Bool :=
  run.body.any Event.failsRun

private theorem count_run (run : Run) (h : summary.Recalls before) :
    (summary.afterAll run.events).runs = summary.runs + 1 ∧
      (summary.afterAll run.events).failedRuns =
        summary.failedRuns + if run.failed then 1 else 0 := by
  obtain ⟨hlead, hbody⟩ := List.forall_mem_append.mp run.apart
  have hopen : ∀ event ∈ run.lead ++ .runStarted run.name run.count :: run.body,
      event.endsRun = false :=
    List.forall_mem_append.mpr ⟨fun event hevent => (hlead event hevent).2,
      List.forall_mem_cons.mpr ⟨rfl, fun event hevent => (hbody event hevent).2⟩⟩
  have hsince : since Event.startsRun
      (before ++ (run.lead ++ .runStarted run.name run.count :: run.body)) = run.body := by
    rw [← List.append_assoc]
    exact since_mark rfl fun event hevent => (hbody event hevent).1
  obtain ⟨hruns, hfailed⟩ := h.runs_afterAll hopen
  obtain ⟨hruns', hfailed'⟩ :=
    (h.afterAll _).runs_after (.runEnded run.elapsedMs run.metrics)
  rw [hsince] at hfailed'
  rw [events, Summary.afterAll_append]
  exact ⟨hruns'.trans (by rw [hruns]; rfl), hfailed'.trans (by rw [hfailed]; rfl)⟩

/-- Runs that end before the next one starts are counted one by one, and the failed ones as such. -/
theorem count_runs (runs : List Run) (h : summary.Recalls before) :
    (summary.afterAll (runs.flatMap events)).runs = summary.runs + runs.length ∧
      (summary.afterAll (runs.flatMap events)).failedRuns =
        summary.failedRuns + runs.countP failed := by
  induction runs generalizing summary before with
  | nil => exact ⟨rfl, rfl⟩
  | cons run runs ih =>
    obtain ⟨hruns, hfailed⟩ := run.count_run h
    obtain ⟨hruns', hfailed'⟩ := ih (h.afterAll run.events)
    rw [List.flatMap_cons, Summary.afterAll_append, hruns', hfailed', hruns, hfailed,
      List.length_cons, List.countP_cons]
    omega

end Run

/-- Whatever events came before: a test that ends is counted once, by the verdicts since another
test ended, and nothing else is counted as a test. If the test has its turn, these are its own
verdicts since it started; when a run is closed in the middle of a test, the verdicts are left over.
A run that ends is counted as failed if one has failed since the last one started. Of runs that end
before the next one starts, these are the ones that failed. -/
theorem counted_by_verdicts (before : List Event) :
    let counts := ({} : Summary).afterAll before
    (∀ test metrics column, (counts.after (.testEnded test metrics)).count column =
      counts.count column +
        if total anyTest (since Event.endsTest before) = column then 1 else 0) ∧
    (∀ event column, event.endsTest = false →
      (counts.after event).count column = counts.count column) ∧
    (∀ test earlier own, before = earlier ++ .testStarted test :: own → HasTurn test earlier own →
      total anyTest (since Event.endsTest before) =
        total (· = test) (since (· = .testStarted test) before)) ∧
    (∀ message openRuns,
      total anyTest (since Event.endsTest (before ++ closingEvents message openRuns)) =
        total anyTest (since Event.endsTest before)) ∧
    (∀ event, (counts.after event).runs = counts.runs + (if event.endsRun then 1 else 0) ∧
      (counts.after event).failedRuns = counts.failedRuns +
        if event.endsRun && (since Event.startsRun before).any Event.failsRun then 1 else 0) ∧
    ∀ (runs : List Run) (rest : List Event), before = runs.flatMap Run.events ++ rest →
      (∀ event ∈ rest, event.endsRun = false) →
      counts.runs = runs.length ∧ counts.failedRuns = runs.countP Run.failed := by
  intro counts
  have hrecalls : counts.Recalls before := Summary.recalls_nil.afterAll before
  refine ⟨fun test metrics column => hrecalls.count_testEnded test metrics,
    fun event column => Summary.count_after, ?_, total_since_closingEvents,
    hrecalls.runs_after, ?_⟩
  · rintro test earlier own rfl hturn
    exact hturn.total_since
  · rintro runs rest rfl hrest
    have hruns := Summary.recalls_nil.afterAll (runs.flatMap Run.events)
    obtain ⟨hcounted, hfailed⟩ := Run.count_runs runs Summary.recalls_nil
    obtain ⟨hkept, hkept'⟩ := hruns.runs_afterAll hrest
    rw [← Summary.afterAll_append] at hkept hkept'
    exact ⟨hkept.trans (hcounted.trans (Nat.zero_add _)),
      hkept'.trans (hfailed.trans (Nat.zero_add _))⟩

/-- A failed test and an ignored one in two runs, the second of which fails. -/
theorem counted_by_verdicts_two_runs :
    let broken : TestDescription := ⟨"a", "t"⟩
    let idle : TestDescription := ⟨"b", "u"⟩
    let first : Run := ⟨[], "a", 1, [.testStarted broken, .testFailed broken "trace",
      .testEnded broken .empty], 3, .empty, by decide⟩
    let later : List Event := [.runStarted "b" 1, .testStarted idle, .testIgnored idle]
    let counts := ({} : Summary).afterAll (first.events ++ later)
    HasTurn idle (first.events ++ [.runStarted "b" 1]) [.testIgnored idle] ∧
    (counts.after (.testEnded idle .empty)).ignored = counts.ignored + 1 ∧
    counts.runs = 1 ∧ counts.failedRuns = 0 := by
  intro broken idle first later counts
  have hturn : HasTurn idle (first.events ++ [.runStarted "b" 1]) [.testIgnored idle] :=
    ⟨by decide, by decide⟩
  obtain ⟨hcounted, -, hown, -, -, hruns⟩ := counted_by_verdicts (first.events ++ later)
  have htotal := hown idle (first.events ++ [.runStarted "b" 1]) [.testIgnored idle] rfl hturn
  have hignored := hcounted idle .empty .ignored
  rw [htotal] at hignored
  obtain ⟨hruns, hfailed⟩ := hruns [first] later rfl (by decide)
  exact ⟨hturn, hignored, hruns, hfailed⟩

/-- A poller closes the run of a unit that fails after its test has failed. The next unit's test has
no verdict, and is counted as failed. -/
theorem verdict_left_to_next_test :
    let cut : TestDescription := ⟨"a", "t"⟩
    let next : TestDescription := ⟨"b", "u"⟩
    let error : TaskError := { category := .runtime, code := 402, message := "m", origin := "" }
    let conducts : Conducts .silent := fun unit =>
      if unit.id = 0 then
        .telling [.runStarted "a" 1, .testStarted cut, .testFailed cut "trace"] (.ok (.error error))
      else
        .telling [.runStarted "b" 1, .testStarted next, .testEnded next .empty, .runEnded 0 .empty]
          (.ok (.ok ()))
    let units := [some (.plain 0 "a" []), some (.plain 1 "b" [])]
    let before : List Event := [.runStarted "a" 1, .testStarted cut, .testFailed cut "trace",
      .runFailed "m", .runEnded 0 .empty, .runStarted "b" 1, .testStarted next]
    let counts := ({} : Summary).afterAll before
    (∃ trace last,
      ((Crew.start (.ofUnits WorkPool.asGiven units [] none)
        [{ device := ⟨"d1", .physical⟩ }]).play conducts (List.replicate 12 0)).Path trace last ∧
      Session.Heeded trace ∧
      Session.sent trace = before ++ [.testEnded next .empty, .runEnded 0 .empty]) ∧
    total (· = next) (since (· = .testStarted next) before) = .passed ∧
    (counts.after (.testEnded next .empty)).passed = counts.passed ∧
    (counts.after (.testEnded next .empty)).failed = counts.failed + 1 := by
  intro cut next error conducts units before counts
  refine ⟨?_, by decide, rfl, rfl⟩
  let answer := Session.obligingWorld (fun _ _ => false) Interface.silence
  exact ⟨_, _, Session.path_converse answer _, (Session.calm_converse_obligingWorld _ _ _).heeded,
    by decide +kernel⟩

end Sim

end Fleet
