import Fleet.Proofs.Heeding
import Fleet.Proofs.Poller.Asking
import Fleet.Validation

/-!
# Performances in a conversation

A unit's performance is played in the middle of a conversation. The errands of the conversation are
the errands the unit runs, and if the outside throws nothing, neither does the stage. What a unit
may do is bounded only where it is tame: its options and checks return, its runs throw standard
exceptions only and its reports nothing, unless the stage throws.
-/

namespace Fleet

variable {E : Interface}

namespace Performance

variable {α : Type}

/-- The stage has thrown nothing. -/
def Heard (played : List (Session.Exchange (stage.sum E))) : Prop :=
  ∀ exchange ∈ played,
    match exchange.question, exchange.answer with
    | .inl _, answer => answer = .ok ()
    | .inr _, _ => True

/-- The performance is played to this end in a conversation that is about nothing else. -/
def PlayedIn (performance : Performance E α) (trace : List (Session.Exchange (World E)))
    (result : α) : Prop :=
  ∃ played, performance.Path played result ∧
    Session.errands trace = Session.errands played ∧ Session.complaints trace = [] ∧
    (Session.Calm trace → Heard played)

end Performance

/-- A unit whose options and checks return, whose runs throw nothing but standard exceptions and
whose reports throw nothing, unless the stage throws. -/
structure Conduct.Tame (conduct : Conduct E) : Prop where
  options : ∃ options, conduct.options = .ok options ∧
    ∀ option ∈ options, ∀ check ∈ option.check, ∀ value, ∃ passed, check value = .ok passed
  run : ∀ received played result, (conduct.run received).Path played result →
    Performance.Heard played → result ≠ .error .other
  report : ∀ message played result, (conduct.reportNotExecuted message).Path played result →
    Performance.Heard played → result = .ok ()

/-- A call of a unit. -/
inductive UnitCall where
  /-- It is asked to run. -/
  | run (unit : TestUnit)
  /-- It is asked to report that it did not run. -/
  | report (unit : TestUnit)
  deriving DecidableEq

/-- The unit announces the calls it gets: exactly one errand of each run and of each report says
what is called. -/
structure Conduct.Announces (announced : E.Question → Option UnitCall) (unit : TestUnit)
    (conduct : Conduct E) : Prop where
  run : ∀ received played result, (conduct.run received).Path played result →
    (Session.errands played).filterMap announced = [.run unit]
  report : ∀ message played result, (conduct.reportNotExecuted message).Path played result →
    (Session.errands played).filterMap announced = [.report unit]

/-- The world in which all a unit does is to announce its calls. -/
@[reducible] def Interface.callbook : Interface where
  Question := UnitCall
  Answer _ := Unit

namespace Conduct

variable {options : List UnitOption} {outcome : Except Thrown Outcome}

/-- A unit that announces its calls, ends its runs in one way and says nothing in its reports. -/
def announcing (options : List UnitOption) (outcome : Except Thrown Outcome) (unit : TestUnit) :
    Conduct .callbook where
  options := .ok options
  run _ := .ask (.inr (.run unit)) fun _ => .done outcome
  reportNotExecuted _ := .ask (.inr (.report unit)) fun _ => .done (.ok ())

/-- An announcing unit announces its calls. -/
theorem announces_announcing {unit : TestUnit} :
    (announcing options outcome unit).Announces some unit where
  run received played result h := by
    obtain ⟨_, _, rfl, hdone⟩ := Session.path_ask.mp h
    obtain ⟨rfl, -⟩ := Session.path_done.mp hdone
    rfl
  report message played result h := by
    obtain ⟨_, _, rfl, hdone⟩ := Session.path_ask.mp h
    obtain ⟨rfl, -⟩ := Session.path_done.mp hdone
    rfl

/-- An announcing unit is tame if its checks are and if it ends in a standard way. -/
theorem tame_announcing {unit : TestUnit}
    (hchecks : ∀ option ∈ options, ∀ check ∈ option.check, ∀ value,
      ∃ passed, check value = .ok passed) (houtcome : outcome ≠ .error .other) :
    (announcing options outcome unit).Tame where
  options := ⟨options, rfl, hchecks⟩
  run received played result h _ := by
    obtain ⟨_, _, rfl, hdone⟩ := Session.path_ask.mp h
    obtain ⟨-, rfl⟩ := Session.path_done.mp hdone
    exact houtcome
  report message played result h _ := by
    obtain ⟨_, _, rfl, hdone⟩ := Session.path_ask.mp h
    exact (Session.path_done.mp hdone).2

end Conduct

namespace Flow

variable {S : Type} {α β : Type} {first last : S} {trace : List (Session.Exchange (World E))}

/-- Playing a performance for a routine stage adds nothing to it. -/
theorem playedIn_perform {act : StageRequest → Flow E S Unit}
    (hact : ∀ question, (act question).Routine)
    {performance : Performance E (Except Thrown α)} {result : Except Thrown α}
    (h : (perform act performance).Ends first trace result last) :
    performance.PlayedIn trace result := by
  induction performance generalizing first trace with
  | done ended =>
    obtain ⟨rfl, hdone⟩ := Session.path_pure.mp h
    obtain rfl : result = ended := congrArg Prod.fst hdone
    exact ⟨[], .done _, rfl, rfl, fun _ => by simp [Performance.Heard]⟩
  | ask question next ih =>
    obtain ⟨⟨answer, mid⟩, before, after, rfl, hasked, hrest⟩ := Session.path_seq.mp h
    obtain ⟨played, hplayed, herrands, hcomplaints, hheard⟩ := ih answer hrest
    refine ⟨⟨question, answer⟩ :: played, .ask hplayed, ?_⟩
    cases question with
    | inl question =>
      have hended : (act question).Ends first before answer mid := hasked
      have huneventful := (hact question).uneventful hended
      refine ⟨?_, ?_, fun hcalm => List.forall_mem_cons.mpr ⟨?_, ?_⟩⟩
      · rw [Session.errands_append, huneventful.errands, herrands]
        rfl
      · rw [Session.complaints_append, huneventful.complaints, hcomplaints]
        rfl
      · obtain ⟨⟨⟩, hanswer⟩ := (hact question hended).returned (Session.calm_append.mp hcalm).1
        exact hanswer
      · exact hheard (Session.calm_append.mp hcalm).2
    | inr errand =>
      obtain ⟨_, _, rfl, hdone⟩ := Session.path_ask.mp hasked
      obtain ⟨rfl, hanswer⟩ := Session.path_done.mp hdone
      obtain rfl := congrArg Prod.fst hanswer
      refine ⟨?_, ?_, fun hcalm => List.forall_mem_cons.mpr ⟨trivial, ?_⟩⟩
      · rw [Session.errands_append, herrands]
        rfl
      · rw [Session.complaints_append, hcomplaints]
        rfl
      · exact hheard (Session.calm_append.mp hcalm).2

end Flow

namespace UnitOption

private theorem fault_of_check {option : UnitOption} (scope unitName : String)
    (h : ∀ check ∈ option.check, ∀ value, ∃ passed, check value = .ok passed) :
    ∃ fault, option.fault scope unitName = .ok fault := by
  unfold fault
  split
  · exact ⟨_, rfl⟩
  · exact ⟨_, rfl⟩
  · rename_i value check _ hcheck
    obtain ⟨passed, hpassed⟩ := h check hcheck value
    rw [hpassed]
    cases passed <;> exact ⟨_, rfl⟩

private theorem firstFault_of_checks {options : List UnitOption} (scope unitName : String)
    (h : ∀ option ∈ options, ∀ check ∈ option.check, ∀ value, ∃ passed, check value = .ok passed) :
    ∃ fault, firstFault scope unitName options = .ok fault := by
  induction options with
  | nil => exact ⟨none, rfl⟩
  | cons option rest ih =>
    obtain ⟨hoption, hrest⟩ := List.forall_mem_cons.mp h
    obtain ⟨fault, hfault⟩ := fault_of_check scope unitName hoption
    rw [firstFault, hfault]
    cases fault with
    | some error => exact ⟨_, rfl⟩
    | none => exact ih hrest

end UnitOption

/-- Validating the options of a tame unit throws nothing. -/
theorem Conduct.Tame.validate {conduct : Conduct E} (h : conduct.Tame) (scope unitName : String) :
    ∃ outcome, conduct.validate scope unitName = .ok outcome := by
  obtain ⟨options, hoptions, hchecks⟩ := h.options
  obtain ⟨fault, hfault⟩ := UnitOption.firstFault_of_checks scope unitName hchecks
  simp only [Conduct.validate, hoptions, bind, Except.bind, hfault]
  cases fault <;> exact ⟨_, rfl⟩

namespace Poller

variable {network last : Network} {trace : List (Session.Exchange (World E))}

private theorem routine_answerStage (question : StageRequest) :
    (answerStage (E := E) question).Routine :=
  obeys_answerStage Network.delivery_routine.sends (fun _ _ _ => Network.routine_wrap) question

/-- While a unit plays, nothing shows but its performance. -/
theorem playedIn_play {α : Type} {listener : Nat} {performance : Performance E (Except Thrown α)}
    {result : Except Thrown α} (h : (play listener performance).Ends network trace result last) :
    performance.PlayedIn trace result := by
  obtain ⟨⟨ended, stage⟩, before, after, rfl, hperform, hdone⟩ := Session.path_seq.mp h
  obtain ⟨rfl, hended⟩ := Session.path_pure.mp hdone
  obtain rfl : result = ended := congrArg Prod.fst hended
  rw [List.append_nil]
  exact Flow.playedIn_perform routine_answerStage hperform

/-- To close open runs is routine, hands nothing to a unit, and throws only what a listener
throws. -/
theorem ends_closeOpenRuns {guard : Nat} {unit : TestUnit} {serial : String} {error : TaskError}
    {result : Except Thrown Unit}
    (h : (closeOpenRuns guard unit serial error).Ends network trace result last) :
    Session.Uneventful trace ∧ Session.wirings trace = [] ∧
      (Session.Heeded trace → ∃ a, result = .ok a) := by
  have hasks : (closeOpenRuns (E := E) guard unit serial error).Asks World.Relaying :=
    Network.delivery_relaying.closeOpenRuns _ _ _ _
  have hroutine : (closeOpenRuns (E := E) guard unit serial error).Routine :=
    Network.delivery_routine.closeOpenRuns _ _ _ _
  exact ⟨hroutine.uneventful h, hasks.ordinary.unwiring.wirings h,
    (Network.delivery_heeding.closeOpenRuns _ _ _ _ h).returned⟩

/-- The conversation has one run of the unit in it, and no other errands. -/
def RunsOnce (conduct : Conduct E) (trace : List (Session.Exchange (World E))) : Prop :=
  (∃ received played ended, (conduct.run received).Path played ended ∧
    Session.errands trace = Session.errands played) ∧ Session.complaints trace = []

/-- A conversation with one run still has one when no unit shows in what follows. -/
theorem RunsOnce.append {conduct : Conduct E} {before after : List (Session.Exchange (World E))}
    (hbefore : RunsOnce conduct before) (hafter : Session.Uneventful after) :
    RunsOnce conduct (before ++ after) := by
  obtain ⟨⟨received, played, ended, hplayed, herrands⟩, hcomplaints⟩ := hbefore
  refine ⟨⟨received, played, ended, hplayed, ?_⟩, ?_⟩
  · rw [Session.errands_append, hafter.errands, herrands, List.append_nil]
  · rw [Session.complaints_append, hafter.complaints, hcomplaints, List.append_nil]

private theorem RunsOnce.of_uneventful_append {conduct : Conduct E}
    {before after : List (Session.Exchange (World E))} (hbefore : Session.Uneventful before)
    (hafter : RunsOnce conduct after) : RunsOnce conduct (before ++ after) := by
  obtain ⟨⟨received, played, ended, hplayed, herrands⟩, hcomplaints⟩ := hafter
  refine ⟨⟨received, played, ended, hplayed, ?_⟩, ?_⟩
  · rw [Session.errands_append, hbefore.errands, herrands, List.nil_append]
  · rw [Session.complaints_append, hbefore.complaints, hcomplaints, List.nil_append]

private theorem runsOnce_play {conduct : Conduct E} {listener : Nat} {received : List Dependency}
    {attempted : Except Thrown Outcome}
    (h : (play listener (conduct.run received)).Ends network trace attempted last)
    (hcalm : Session.Calm trace) :
    RunsOnce conduct trace ∧ (conduct.Tame → attempted ≠ .error .other) := by
  obtain ⟨played, hplayed, herrands, hcomplaints, hheard⟩ := playedIn_play h
  exact ⟨⟨⟨received, played, attempted, hplayed, herrands⟩, hcomplaints⟩,
    fun htame => htame.run received played attempted hplayed (hheard hcalm)⟩

/-- What a poller makes of an attempt: a standard exception is an error like any other. -/
def contain (unit : TestUnit) (serial : String) : Except Thrown Outcome → Except Thrown Outcome
  | .ok outcome => .ok outcome
  | .error (.standard what) => .ok (.error (crashError unit serial what))
  | .error .other => .error .other

/-- What a poller says to hand a unit its collectors. -/
def handover (resources : Resources) (unit : TestUnit) (answer : Except Thrown Unit) :
    List (Session.Exchange (World E)) :=
  [⟨.inl (.provide unit (.collectors resources.collectors)), answer⟩]

section Attempts

variable {conduct : Conduct E} {resources : Resources} {guard : Nat} {unit : TestUnit}
  {result : Except Thrown Outcome}

/-- No unit shows while collectors are handed over. -/
theorem uneventful_handover : Session.Uneventful (E := E)
    (if unit.capabilities.collectors then handover resources unit (.ok ()) else []) := by
  split
  · exact @Session.uneventful_request E (.provide unit (.collectors resources.collectors)) trivial _
  · exact Session.uneventful_nil

/-- An attempt to run a unit is the play of its run, after the unit has taken its collectors, if it
is handed any. -/
theorem ends_performRun
    (h : (performRun conduct resources guard unit).Ends network trace result last) :
    ∃ attempted, result = contain unit resources.device.serial attempted ∧
      ((unit.capabilities.collectors = true ∧ last = network ∧ ∃ thrown,
          attempted = .error thrown ∧ trace = handover resources unit (.error thrown)) ∨
        ∃ rest,
          trace = (if unit.capabilities.collectors then handover resources unit (.ok ()) else [])
            ++ rest ∧
          (play guard (conduct.run (resources.received unit.capabilities))).Ends network rest
            attempted last) := by
  obtain ⟨attempted, attempt, after, mid, rfl, hattempt, h⟩ := Flow.ends_attempt_bind.mp h
  have hafter : after = [] ∧ result = contain unit resources.device.serial attempted ∧
      last = mid := by
    rcases attempted with (what | _) | outcome
    · exact Flow.ends_pure.mp h
    · exact Flow.ends_throw.mp h
    · exact Flow.ends_pure.mp h
  obtain ⟨rfl, rfl, rfl⟩ := hafter
  rw [List.append_nil]
  refine ⟨attempted, rfl, ?_⟩
  split at hattempt
  · rename_i hcollectors
    obtain ⟨answer, rest, rfl, hrest⟩ := Flow.ends_request_bind.mp hattempt
    cases answer with
    | error thrown =>
      obtain ⟨rfl, rfl, rfl⟩ := Flow.ends_throw.mp hrest
      exact .inl ⟨hcollectors, rfl, thrown, rfl, rfl⟩
    | ok _ =>
      refine .inr ⟨rest, ?_, hrest⟩
      rw [if_pos hcollectors]
      rfl
  · rename_i hcollectors
    exact .inr ⟨attempt, by rw [if_neg hcollectors, List.nil_append], hattempt⟩

/-- In a calm conversation the run of a unit is played once, and a tame unit comes to an outcome. -/
theorem ends_performRun_of_calm
    (h : (performRun conduct resources guard unit).Ends network trace result last)
    (hcalm : Session.Calm trace) :
    RunsOnce conduct trace ∧ (conduct.Tame → ∃ outcome, result = .ok outcome) := by
  obtain ⟨attempted, rfl, ⟨-, -, thrown, -, rfl⟩ | ⟨rest, rfl, hplay⟩⟩ := ends_performRun h
  · have hreturned : Except.error thrown = .ok () := hcalm _ List.mem_cons_self
    cases hreturned
  obtain ⟨honce, hreturns⟩ := runsOnce_play hplay (Session.calm_append.mp hcalm).2
  refine ⟨honce.of_uneventful_append uneventful_handover, fun htame => ?_⟩
  rcases attempted with (what | _) | outcome
  · exact ⟨_, rfl⟩
  · exact absurd rfl (hreturns htame)
  · exact ⟨outcome, rfl⟩

end Attempts

/-- To execute a unit is to perform its run and to close the runs it left open if it failed, in
which only a listener can throw. -/
theorem ends_execute {conduct : Conduct E} {resources : Resources} {entry : Nat}
    {unit : TestUnit} {result : Except Thrown Outcome}
    (h : (execute conduct resources entry unit).Ends network trace result last) :
    ∃ first performed ended mid closing, trace = performed ++ closing ∧
      (performRun conduct resources network.length unit).Ends first performed ended mid ∧
      Session.Uneventful closing ∧ Session.wirings closing = [] ∧
      (Session.Heeded closing → result = ended) := by
  rw [execute, Flow.ends_get_bind, Flow.ends_modify_bind] at h
  obtain ⟨attempted, before, after, mid, rfl, hattempt, hrest⟩ := Flow.ends_attempt_bind.mp h
  rw [Flow.ends_modify_bind] at hrest
  obtain ⟨rfl, rfl, -⟩ := Flow.ends_resume.mp hrest
  rcases Flow.ends_bind.mp hattempt with
    ⟨thrown, hthrown, rfl⟩ | ⟨outcome, performed, closing, between, rfl, hperformed, hclosed⟩
  · exact ⟨_, before, _, _, [], rfl, hthrown, Session.uneventful_nil, rfl, fun _ => rfl⟩
  refine ⟨_, performed, .ok outcome, between, closing, List.append_nil _, hperformed, ?_⟩
  cases outcome with
  | ok _ =>
    obtain ⟨rfl, rfl, -⟩ := Flow.ends_pure.mp hclosed
    exact ⟨Session.uneventful_nil, rfl, fun _ => rfl⟩
  | error error =>
    rcases Flow.ends_bind.mp hclosed with
      ⟨thrown, hthrown, rfl⟩ | ⟨⟨⟩, closing, _, _, rfl, hclosing, hdone⟩
    · obtain ⟨huneventful, hwirings, hreturned⟩ := ends_closeOpenRuns hthrown
      refine ⟨huneventful, hwirings, fun hheeded => ?_⟩
      obtain ⟨_, hnot⟩ := hreturned hheeded
      cases hnot
    · obtain ⟨rfl, rfl, -⟩ := Flow.ends_pure.mp hdone
      rw [List.append_nil]
      obtain ⟨huneventful, hwirings, -⟩ := ends_closeOpenRuns hclosing
      exact ⟨huneventful, hwirings, fun _ => rfl⟩

/-- In a calm conversation, to execute a unit is to have its run played once; what a tame unit
comes to is an outcome. -/
theorem ends_execute_of_calm {conduct : Conduct E} {resources : Resources} {entry : Nat}
    {unit : TestUnit} {result : Except Thrown Outcome}
    (h : (execute conduct resources entry unit).Ends network trace result last)
    (hcalm : Session.Calm trace) :
    RunsOnce conduct trace ∧ (conduct.Tame → ∃ outcome, result = .ok outcome) := by
  obtain ⟨_, performed, ended, _, closing, rfl, hperformed, huneventful, -, hended⟩ :=
    ends_execute h
  obtain ⟨hcalm, hclosing⟩ := Session.calm_append.mp hcalm
  obtain rfl := hended hclosing.heeded
  obtain ⟨honce, htame⟩ := ends_performRun_of_calm hperformed hcalm
  exact ⟨honce.append huneventful, htame⟩

end Poller

end Fleet
