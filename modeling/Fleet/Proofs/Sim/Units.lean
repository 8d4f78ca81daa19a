import Fleet.Proofs.Dealings
import Fleet.Proofs.Module.Deeds
import Fleet.Proofs.Sim.Summary
import Fleet.Sim.Units

/-!
# Runs of simulated units

A simulated unit looks for drops and does nothing else besides reporting. If no device drops it
tells of one run from its start to its end; otherwise it returns that the device is lost, with its
run still open.
-/

namespace Fleet

open Performance (Heard told)

namespace Sim

variable {α β : Type} {event : Event} {played : List (Session.Exchange (stage.sum Backstage))}

/-- Whether a device drops in an exchange. -/
def isDrop : Session.Exchange Backstage → Bool
  | ⟨.inr (.takeDrop _), answer⟩ => answer
  | _ => false

/-- How many devices drop in the dealings of units. -/
def drops (dealings : List (Session.Exchange Backstage)) : Nat :=
  dealings.countP isDrop

@[simp] theorem drops_append (before after : List (Session.Exchange Backstage)) :
    drops (before ++ after) = drops before + drops after :=
  List.countP_append

/-- The exchange is a look whether a device drops. -/
def IsLook (exchange : Session.Exchange Backstage) : Prop :=
  ∃ device, exchange.question = .inr (.takeDrop device)

/-- Where nothing drops the end is a success, and where something drops, once, it is the loss of the
device. -/
def Decided (drops : Nat) (ended : Exit) : Prop :=
  drops = 0 ∧ ended = .ok (.ok ()) ∨
    drops = 1 ∧ ∃ error, ended = .ok (.error error) ∧ error.isDeviceLoss = true

namespace Act

/-- No collector is put in front of the listener, and nothing but standard exceptions is thrown
unless the stage throws something else. -/
structure Polite (act : Act α) : Prop where
  plain : Performance.Plain act.run
  orderly : ∀ played result, act.run.Path played result → Performance.Orderly played →
    result ≠ .error .other

private theorem Polite.pure (a : α) : Polite (Pure.pure a) where
  plain := trivial
  orderly played result h _ := by
    obtain ⟨-, rfl⟩ := Session.path_pure.mp h
    nofun

private theorem Polite.bind {act : Act α} {f : α → Act β} (h : act.Polite)
    (hf : ∀ a, (f a).Polite) :
    Polite (act >>= f) where
  plain := by
    refine h.plain.bind fun attempted => ?_
    cases attempted with
    | ok a => exact (hf a).plain
    | error thrown => trivial
  orderly played result hpath horderly := by
    obtain ⟨attempted, before, after, rfl, hact, hrest⟩ := Session.path_seq.mp hpath
    obtain ⟨hbefore, hafter⟩ := List.forall_mem_append.mp horderly
    cases attempted with
    | ok a => exact (hf a).orderly after result hrest hafter
    | error thrown =>
      obtain ⟨-, rfl⟩ := Session.path_pure.mp hrest
      exact fun hother => h.orderly before _ hact hbefore (congrArg _ (Except.error.inj hother))

private theorem polite_say : Polite (say event) where
  plain _ := trivial
  orderly played result h horderly := by
    obtain ⟨answer, rest, rfl, hdone⟩ := Session.path_ask.mp h
    obtain ⟨rfl, rfl⟩ := Session.path_done.mp hdone
    exact horderly _ List.mem_cons_self

private theorem polite_lookForDrop {device : Option Device} {test : TestDescription} :
    Polite (SimUnit.lookForDrop device test) := by
  cases device with
  | none => exact .pure none
  | some device =>
    constructor
    · intro drops
      cases drops <;> trivial
    · intro played result h _
      obtain ⟨drops, rest, rfl, hdone⟩ := Session.path_ask.mp h
      cases drops with
      | true =>
        obtain ⟨-, rfl⟩ := Session.path_done.mp hdone
        nofun
      | false =>
        obtain ⟨-, rfl⟩ := Session.path_done.mp hdone
        nofun

/-- Where nothing is thrown an event is told before the rest. -/
theorem path_say_bind {f : Unit → Act α} {result : Except Thrown α}
    (h : (say event >>= f).run.Path played result) (hheard : Heard played) :
    ∃ rest, told played = event :: told rest ∧ Session.dealings played = Session.dealings rest ∧
      Heard rest ∧ (f ()).run.Path rest result := by
  obtain ⟨answer, rest, rfl, hrest⟩ := Session.path_ask.mp h
  obtain ⟨hanswer, hlater⟩ := List.forall_mem_cons.mp hheard
  obtain rfl : answer = .ok () := hanswer
  exact ⟨rest, rfl, rfl, hlater, hrest⟩

/-- A look tells nothing, and what follows depends on whether the device drops. -/
theorem path_look_bind {device : Option Device} {test : TestDescription}
    {f : Option TaskError → Act α} {result : Except Thrown α}
    (h : (SimUnit.lookForDrop device test >>= f).run.Path played result) (hheard : Heard played) :
    ∃ (looks : List (Session.Exchange Backstage)) (rest : List _) (error : Option TaskError),
      told played = told rest ∧ Session.dealings played = looks ++ Session.dealings rest ∧
      (∀ look ∈ looks, IsLook look) ∧ Heard rest ∧ (f error).run.Path rest result ∧
      (error = none ∧ drops looks = 0 ∨
        ∃ lost, error = some lost ∧ lost.isDeviceLoss = true ∧ drops looks = 1) := by
  cases device with
  | none => exact ⟨[], played, none, rfl, rfl, List.forall_mem_nil _, hheard, h, .inl ⟨rfl, rfl⟩⟩
  | some device =>
    obtain ⟨answer, rest, rfl, hrest⟩ := Session.path_ask.mp h
    have hlook : ∀ look ∈ [(⟨.inr (.takeDrop device), answer⟩ : Session.Exchange Backstage)],
        IsLook look :=
      List.forall_mem_singleton.mpr ⟨device, rfl⟩
    have hlater : Heard rest := (List.forall_mem_cons.mp hheard).2
    cases answer with
    | true =>
      exact ⟨_, rest, some (SimUnit.dropError test device), rfl, rfl, hlook, hlater, hrest,
        .inr ⟨_, rfl, rfl, rfl⟩⟩
    | false => exact ⟨_, rest, none, rfl, rfl, hlook, hlater, hrest, .inl ⟨rfl, rfl⟩⟩

end Act

namespace SimUnit

variable {sim : SimUnit} {device : Option Device} {numbers : List Nat} {ended : Exit}

private theorem polite_runTests : (sim.runTests device numbers).Polite := by
  induction numbers with
  | nil => exact .pure _
  | cons number rest ih =>
    rw [runTests]
    refine .bind Act.polite_say fun _ => .bind Act.polite_lookForDrop fun lost => ?_
    cases lost with
    | some error => exact .pure _
    | none =>
      dsimp only
      split
      · exact .bind Act.polite_say fun _ => .bind Act.polite_say fun _ => ih
      · exact .bind Act.polite_say fun _ => ih

/-- The run of a simulated unit is polite. -/
theorem polite_run : (sim.run device).Polite := by
  refine .bind Act.polite_say fun _ => .bind polite_runTests fun outcome => ?_
  cases outcome with
  | error error => exact .pure _
  | ok _ => exact .bind Act.polite_say fun _ => .pure _

/-- What tests come to on stage: they tell of test cases only and run no errand but looks. -/
structure Tested (played : List (Session.Exchange (stage.sum Backstage))) (ended : Exit) :
    Prop where
  cases : ∀ event ∈ told played, event.isCase = true
  looks : ∀ exchange ∈ Session.dealings played, IsLook exchange
  decided : Decided (drops (Session.dealings played)) ended

private theorem tested_of_runTests (h : (sim.runTests device numbers).run.Path played ended)
    (hheard : Heard played) : Tested played ended := by
  induction numbers generalizing played with
  | nil =>
    obtain ⟨rfl, rfl⟩ := Session.path_pure.mp h
    exact ⟨List.forall_mem_nil _, List.forall_mem_nil _, .inl ⟨rfl, rfl⟩⟩
  | cons number numbers ih =>
    rw [runTests] at h
    obtain ⟨later, hstarted, hsame, hheard, h⟩ := Act.path_say_bind h hheard
    obtain ⟨looks, rest, error, htold, hdealings, hlooks, hheard, h, herror⟩ :=
      Act.path_look_bind h hheard
    rw [htold] at hstarted
    rw [hdealings] at hsame
    rcases herror with ⟨rfl, hdrops⟩ | ⟨lost, rfl, hloss, hdrops⟩
    · -- The test may fail before it ends; the remaining tests follow in either case.
      have hends : ∃ verdict rest', told rest = verdict ++ told rest' ∧
          (∀ event ∈ verdict, event.isCase = true) ∧
          Session.dealings rest = Session.dealings rest' ∧ Heard rest' ∧
          (sim.runTests device numbers).run.Path rest' ended := by
        dsimp only at h
        split at h
        · obtain ⟨_, hfailed, hsame, hheard, h⟩ := Act.path_say_bind h hheard
          obtain ⟨rest', hended, hlater, hheard, h⟩ := Act.path_say_bind h hheard
          exact ⟨[.testFailed _ _, .testEnded _ _], rest', hfailed.trans (congrArg _ hended),
            by simp [Event.isCase], hsame.trans hlater, hheard, h⟩
        · obtain ⟨rest', hended, hlater, hheard, h⟩ := Act.path_say_bind h hheard
          exact ⟨[.testEnded _ _], rest', hended, by simp [Event.isCase], hlater, hheard, h⟩
      obtain ⟨verdict, rest', hverdict, hcases, hlater, hheard, h⟩ := hends
      obtain ⟨hothers, hmore, hdecided⟩ := ih h hheard
      constructor
      · rw [hstarted, hverdict]
        exact List.forall_mem_cons.mpr ⟨rfl, List.forall_mem_append.mpr ⟨hcases, hothers⟩⟩
      · rw [hsame, hlater]
        exact List.forall_mem_append.mpr ⟨hlooks, hmore⟩
      · rwa [hsame, hlater, drops_append, hdrops, Nat.zero_add]
    · obtain ⟨rfl, rfl⟩ := Session.path_pure.mp h
      constructor
      · rw [hstarted]
        exact List.forall_mem_singleton.mpr rfl
      · rw [hsame, Session.dealings_nil, List.append_nil]
        exact hlooks
      · rw [hsame, Session.dealings_nil, List.append_nil, hdrops]
        exact .inr ⟨rfl, lost, rfl, hloss⟩

/-- What a run of the unit comes to on stage: its tests follow its start, and its end follows them
if no device drops. -/
inductive Played (sim : SimUnit) (looked : List (Session.Exchange Backstage)) :
    List Event → Exit → Prop where
  | passed {cases : List Event} (hcases : ∀ event ∈ cases, event.isCase = true)
      (hdrops : drops looked = 0) : Played sim looked (.runStarted sim.name sim.testCount ::
        cases ++ [.runEnded (5 * sim.testCount) .empty]) (.ok (.ok ()))
  | dropped {cases : List Event} {error : TaskError} (hcases : ∀ event ∈ cases, event.isCase = true)
      (hdrops : drops looked = 1) (hloss : error.isDeviceLoss = true) :
      Played sim looked (.runStarted sim.name sim.testCount :: cases) (.ok (.error error))

/-- A run of a simulated unit that is heard tells what it should, and deals only by looking at its
device. -/
theorem played_of_run (h : (sim.run device).run.Path played ended) (hheard : Heard played) :
    Played sim (Session.dealings played) (told played) ended ∧
      ∀ exchange ∈ Session.dealings played, IsLook exchange := by
  obtain ⟨later, hstarted, hsame, hheard, h⟩ := Act.path_say_bind h hheard
  obtain ⟨attempted, tests, rest, rfl, htests, hrest⟩ := Session.path_seq.mp h
  obtain ⟨hheardTests, hheardRest⟩ := Performance.heard_append.mp hheard
  obtain ⟨hcases, hlooks, ⟨hdrops, rfl⟩ | ⟨hdrops, error, rfl, hloss⟩⟩ :=
    tested_of_runTests htests hheardTests
  · obtain ⟨last, hended, hlast, -, hdone⟩ := Act.path_say_bind hrest hheardRest
    obtain ⟨rfl, rfl⟩ := Session.path_pure.mp hdone
    have hdealings : Session.dealings played = Session.dealings tests := by
      rw [hsame, Session.dealings_append, hlast, Session.dealings_nil, List.append_nil]
    rw [hdealings, hstarted, Performance.told_append, hended]
    exact ⟨.passed hcases hdrops, hlooks⟩
  · obtain ⟨rfl, rfl⟩ := Session.path_pure.mp hrest
    rw [List.append_nil] at hstarted hsame
    rw [hsame, hstarted]
    exact ⟨.dropped hcases hdrops hloss, hlooks⟩

namespace Played

variable {looked : List (Session.Exchange Backstage)} {events : List Event}

/-- Whether the device drops decides how the run of a simulated unit ends. -/
theorem decided (h : Played sim looked events ended) : Decided (drops looked) ended := by
  cases h with
  | passed _ hdrops => exact .inl ⟨hdrops, rfl⟩
  | dropped _ hdrops hloss => exact .inr ⟨hdrops, _, rfl, hloss⟩

/-- The unit never says itself that its run failed. -/
theorem runFailed_not_mem (h : Played sim looked events ended) {message : String} :
    .runFailed message ∉ events := by
  intro hmem
  cases h with
  | passed hcases =>
    have hcase := hcases (.runFailed message) (by simpa using hmem)
    cases hcase
  | dropped hcases =>
    have hcase := hcases (.runFailed message) (by simpa using hmem)
    cases hcase

/-- With what closes it, a run of the unit is one run, which failed if the device dropped. -/
theorem amountsTo (h : Played sim looked events ended) :
    AmountsTo (events ++ Poller.remainder events ended) 1 (drops looked) := by
  cases h with
  | passed hcases hdrops =>
    rw [hdrops]
    exact (List.append_nil _).symm ▸ amountsTo_run hcases
  | dropped hcases hdrops hloss =>
    rw [Poller.remainder, openRunsOf_run hcases, hdrops]
    exact amountsTo_failedRun hcases

end Played

end SimUnit

end Sim

end Fleet
