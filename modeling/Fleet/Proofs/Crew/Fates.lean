import Fleet.Proofs.Crew.Books
import Mathlib.Data.List.Count
import Mathlib.Data.List.Nodup

/-!
# What becomes of the units of a crew

No unit is lost or doubled while pollers withdraw, run, drop and report units in any order: however
a run goes on, each unit given is in the pool or in the books of the pollers, and what the books say
is what was heard. When all pollers have left, each unit has met one fate, once, with one poller.
-/

namespace Fleet

namespace Crew

variable {E : Interface} {conducts : Conducts E} {given : List TestUnit} {crew next last : Crew}
  {turn : Turn} {past trace : List (Session.Exchange (World E))}

/-- How often something is in the books of the pollers. -/
def tally {α : Type} [DecidableEq α] (list : Poller → List α) (item : α) (crew : Crew) : Nat :=
  crew.total fun poller => (list poller).count item

private theorem Takes.tally_after {α : Type} [DecidableEq α] {list : Poller → List α}
    (h : crew.Takes conducts trace turn) {more : List α}
    (hlist : (list turn.after.poller).Perm (list turn.before.poller ++ more)) (item : α) :
    (crew.after turn).tally list item = crew.tally list item + more.count item := by
  have htotal := h.total_after fun poller => (list poller).count item
  have hcount := hlist.count_eq item
  rw [List.count_append] at hcount
  simp only [tally]
  omega

/-- The books of the pollers are right, no unit is lost or doubled or dropped for nothing, and the
conversation is as the books tell. -/
structure Fated (conducts : Conducts E) (given : List TestUnit)
    (past : List (Session.Exchange (World E))) (crew : Crew) : Prop where
  accounted : ∀ poller ∈ crew.pollers, poller.Accounted
  refused : ∀ poller ∈ crew.pollers, ∀ unit ∈ poller.dropped, (conducts unit).Refuses unit
  conserved : ∀ unit, given.count unit =
    crew.tally Poller.taken unit + crew.floor.pool.units.count unit
  emptied : ∀ poller ∈ crew.pollers, ∀ exit, poller.reportedNotExecuted = true →
    poller.phase = .left exit → crew.floor.pool.units = []
  calls : ∀ announced, (∀ unit ∈ given, (conducts unit).Announces announced unit) → ∀ call,
    ((Session.errands past).filterMap announced).count call = crew.tally Poller.calls call
  complaints : ∀ message,
    (Session.complaints past).count message = crew.tally Poller.complaints message

private theorem tally_start {α : Type} [DecidableEq α] {list : Poller → List α} {pool : WorkPool}
    {resources : List Resources} (h : ∀ resource, list (.ofResources resource) = []) (item : α) :
    (start pool resources).tally list item = 0 := by
  apply total_eq_zero.mpr
  intro poller hpoller
  obtain ⟨resource, -, rfl⟩ := List.mem_map.mp hpoller
  rw [h, List.count_nil]

/-- A crew starts with its books right. -/
theorem fated_start {pool : WorkPool} {resources : List Resources} :
    (start pool resources).Fated conducts pool.units [] where
  accounted poller hpoller := by
    obtain ⟨resource, -, rfl⟩ := List.mem_map.mp hpoller
    exact Poller.accounted_ofResources resource
  refused poller hpoller := by
    obtain ⟨resource, -, rfl⟩ := List.mem_map.mp hpoller
    exact List.forall_mem_nil _
  conserved unit := by
    rw [tally_start fun _ => rfl, Nat.zero_add]
    rfl
  emptied poller hpoller exit _ hphase := by
    obtain ⟨resource, -, rfl⟩ := List.mem_map.mp hpoller
    cases hphase
  calls announced _ call := by
    rw [tally_start fun _ => rfl]
    rfl
  complaints message := by
    rw [tally_start fun _ => rfl]
    rfl

/-- A turn leaves each poller as it was or as the turn left it. -/
theorem Takes.mem_after {poller : Poller} (hpoller : poller ∈ (crew.after turn).pollers) :
    poller ∈ crew.pollers ∨ poller = turn.after.poller :=
  List.mem_or_eq_of_mem_set hpoller

namespace Fated

/-- A poller has to do with units given only. -/
theorem mem_given {poller : Poller} {unit : TestUnit} (h : crew.Fated conducts given past)
    (hpoller : poller ∈ crew.pollers)
    (hunit : unit ∈ Station.inReach { poller, floor := crew.floor }) : unit ∈ given := by
  have hconserved := h.conserved unit
  apply List.count_pos_iff.mp
  rcases List.mem_append.mp hunit with hinHand | hpool
  · have hwithdrawn : unit ∈ poller.withdrawn :=
      (h.accounted poller hpoller).withdrawn.mem_iff.mpr (List.mem_append_right _ hinHand)
    have htaken : crew.tally Poller.taken unit ≠ 0 := fun hzero =>
      List.count_eq_zero.mp (total_eq_zero.mp hzero poller hpoller)
        (List.mem_append_left _ hwithdrawn)
    omega
  · have hcount : 0 < crew.floor.pool.units.count unit := List.count_pos_iff.mpr hpool
    omega

/-- A turn has to do with units given only. -/
theorem inReach_given (h : crew.Fated conducts given past)
    (hturn : crew.Takes conducts trace turn) :
    ∀ unit ∈ turn.before.inReach, unit ∈ given := by
  intro unit hunit
  apply h.mem_given (List.mem_of_getElem? hturn.poller)
  rwa [← hturn.floor]

/-- A turn in a calm conversation leaves the books right. -/
theorem after (h : crew.Fated conducts given past) (hturn : crew.Takes conducts trace turn)
    (hcalm : Session.Calm trace) (hsound : turn.before.Sound turn.after) :
    (crew.after turn).Fated conducts given (past ++ trace) := by
  have hbefore : turn.before.poller ∈ crew.pollers := List.mem_of_getElem? hturn.poller
  have haccounted := h.accounted turn.before.poller hbefore
  have hgiven := h.inReach_given hturn
  obtain ⟨withdrawn, executed, dropped, drained, hbooks⟩ := hturn.move.books hcalm hsound
  have hpool := hbooks.pool
  rw [hturn.floor] at hpool
  constructor
  case accounted =>
    intro poller hpoller
    rcases Takes.mem_after hpoller with hold | rfl
    · exact h.accounted poller hold
    · exact hturn.move.accounted hcalm hsound haccounted
  case refused =>
    intro poller hpoller
    rcases Takes.mem_after hpoller with hold | rfl
    · exact h.refused poller hold
    · rw [hbooks.drops]
      exact List.forall_mem_append.mpr ⟨h.refused turn.before.poller hbefore, hbooks.refused⟩
  case conserved =>
    intro unit
    have hconserved := h.conserved unit
    have hcount := hpool.count_eq unit
    rw [hturn.tally_after hbooks.taken]
    change _ = _ + _ + turn.after.floor.pool.units.count unit
    simp only [List.count_append] at hcount ⊢
    omega
  case emptied =>
    intro poller hpoller exit hflag hleft
    rcases Takes.mem_after hpoller with hold | rfl
    · rw [h.emptied poller hold exit hflag hleft] at hpool
      exact (List.append_eq_nil_iff.mp hpool.nil_eq.symm).2
    · apply hturn.move.emptied hsound haccounted ?_ hflag hleft
      intro exit
      rw [hturn.floor]
      exact h.emptied turn.before.poller hbefore exit
  case calls =>
    intro announced hannounces call
    have hnew := hbooks.calls announced fun unit hunit => hannounces unit (hgiven unit hunit)
    rw [hturn.tally_after hbooks.told, Session.errands_append, List.filterMap_append,
      List.count_append, h.calls announced hannounces, hnew]
  case complaints =>
    intro message
    rw [hturn.tally_after hbooks.complained, Session.complaints_append, List.count_append,
      h.complaints, hbooks.complaints]

private theorem step {count index : Nat} (h : crew.Fated conducts given past)
    (htallied : crew.Tallied count) (htame : ∀ unit ∈ given, (conducts unit).Tame)
    (hstep : (crew.step conducts index).Path trace next) (hcalm : Session.Calm trace) :
    next.Fated conducts given (past ++ trace) := by
  rcases takes_of_step htallied.formed hstep with ⟨-, rfl, rfl⟩ | ⟨turn, -, hturn, rfl⟩
  · rwa [List.append_nil]
  · exact h.after hturn hcalm (hturn.move.sound hcalm fun unit hunit =>
      htame unit (h.inReach_given hturn unit hunit))

/-- So does every schedule, if all units are tame. -/
theorem play {count : Nat} {schedule : List Nat} (h : crew.Fated conducts given [])
    (htallied : crew.Tallied count) (htame : ∀ unit ∈ given, (conducts unit).Tame)
    (hplay : (crew.play conducts schedule).Path trace last) (hcalm : Session.Calm trace) :
    last.Fated conducts given trace := by
  -- The count is needed along the way, whether or not the conversation is calm.
  have hboth : last.Tallied count ∧ (Session.Calm trace → last.Fated conducts given trace) := by
    refine Session.invariant_follow (fun past crew => crew.Tallied count ∧
      (Session.Calm past → crew.Fated conducts given past)) ?_ ⟨htallied, fun _ => h⟩ hplay
    intro past index crew trace next hbefore hstep
    refine ⟨hbefore.1.step hstep, ?_⟩
    intro hcalm
    obtain ⟨hpast, hnow⟩ := Session.calm_append.mp hcalm
    exact (hbefore.2 hpast).step hbefore.1 htame hstep hnow
  exact hboth.2 hcalm

end Fated

section Sums

variable {weight : Poller → Nat} {pollers : List Poller} {index : Nat} {poller : Poller}

private theorem sum_map_eq_of_others (hpoller : pollers[index]? = some poller)
    (hothers : ∀ place other, pollers[place]? = some other → place ≠ index → weight other = 0) :
    (pollers.map weight).sum = weight poller := by
  induction pollers generalizing index with
  | nil => cases hpoller
  | cons head rest ih =>
    rw [List.map_cons, List.sum_cons]
    cases index with
    | zero =>
      obtain rfl := Option.some.inj hpoller
      have hrest : (rest.map weight).sum = 0 := by
        rw [List.sum_eq_zero_iff_forall_eq_nat, List.forall_mem_map]
        intro other hother
        obtain ⟨place, hplace⟩ := List.getElem?_of_mem hother
        exact hothers (place + 1) other hplace (Nat.succ_ne_zero place)
      omega
    | succ index =>
      have hhead := hothers 0 head rfl (Nat.succ_ne_zero index).symm
      have hrest := ih hpoller fun place other hother hne =>
        hothers (place + 1) other hother (by omega)
      omega

private theorem exists_of_sum_map_eq_one (h : (pollers.map weight).sum = 1) :
    ∃ (index : Nat) (poller : Poller), pollers[index]? = some poller ∧ weight poller = 1 ∧
      ∀ place other, pollers[place]? = some other → place ≠ index → weight other = 0 := by
  induction pollers with
  | nil => cases h
  | cons head rest ih =>
    rw [List.map_cons, List.sum_cons] at h
    by_cases hhead : weight head = 0
    · obtain ⟨index, poller, hpoller, hone, hothers⟩ := ih (by omega)
      refine ⟨index + 1, poller, hpoller, hone, ?_⟩
      intro place other hother hne
      cases place with
      | zero =>
        obtain rfl := Option.some.inj hother
        exact hhead
      | succ place => exact hothers place other hother (by omega)
    · have hrest : (rest.map weight).sum = 0 := by omega
      rw [List.sum_eq_zero_iff_forall_eq_nat, List.forall_mem_map] at hrest
      refine ⟨0, head, rfl, by omega, ?_⟩
      intro place other hother hne
      cases place with
      | zero => exact absurd rfl hne
      | succ place => exact hrest other (List.mem_of_getElem? hother)

end Sums

end Crew

/-- What can become of a unit. -/
inductive Fate where
  /-- A poller ran it. -/
  | executed
  /-- A poller dropped it because of its options. -/
  | dropped
  /-- Nobody withdrew it, and it was asked to report that. -/
  | reported
  /-- Nobody withdrew it, and it cannot report that. -/
  | unreportable
  deriving DecidableEq, Repr

namespace Fate

/-- The units with this fate in the books of a poller. -/
def noted : Fate → Poller → List TestUnit
  | executed, poller => poller.executed
  | dropped, poller => poller.dropped
  | reported, poller => poller.asked
  | unreportable, poller => poller.unreportable

/-- A unit with this fate was withdrawn. -/
def handled : Fate → Bool
  | executed | dropped => true
  | reported | unreportable => false

/-- In all the books the unit is noted once, for this fate by the poller at this place. -/
def NotedOnce (fate : Fate) (pollers : List Poller) (unit : TestUnit) (index : Nat) : Prop :=
  ∀ place poller, pollers[place]? = some poller → ∀ other : Fate,
    (other.noted poller).count unit = if place = index ∧ fate = other then 1 else 0

/-- The fate befell the unit once, with the poller at one place, and no other fate did. If the unit
was dropped, the validation of its options refuses it; if it was not withdrawn, that poller was the
last one out. -/
structure Befalls {E : Interface} (fate : Fate) (conducts : Conducts E) (pollers : List Poller)
    (unit : TestUnit) (index : Nat) : Prop where
  place : index < pollers.length
  noted : fate.NotedOnce pollers unit index
  withdrawn : ∀ place poller, pollers[place]? = some poller →
    poller.withdrawn.count unit = if place = index ∧ fate.handled then 1 else 0
  refused : fate = dropped → (conducts unit).Refuses unit
  reporter : fate.handled = false →
    ∀ poller, pollers[index]? = some poller → poller.reportedNotExecuted = true
  capability : fate.handled = false → (fate = reported ↔ unit.capabilities.notExecutedReport)

/-- Of all calls the unit got just the one that belongs to the fate, if there is one. -/
def Shows (fate : Fate) (calls : List UnitCall) (unit : TestUnit) : Prop :=
  calls.count (.run unit) = (if fate = executed then 1 else 0) ∧
    calls.count (.report unit) = if fate = reported then 1 else 0

end Fate

namespace Poller

variable {poller : Poller} {unit : TestUnit}

private theorem count_run_calls :
    poller.calls.count (.run unit) = (Fate.executed.noted poller).count unit := by
  have hreports : (poller.asked.map UnitCall.report).count (.run unit) = 0 :=
    List.count_eq_zero.mpr (by simp)
  rw [calls, List.count_append, hreports,
    List.count_map_of_injective _ _ fun _ _ => UnitCall.run.inj]
  rfl

private theorem count_report_calls :
    poller.calls.count (.report unit) = (Fate.reported.noted poller).count unit := by
  have hruns : (poller.executed.map UnitCall.run).count (.report unit) = 0 :=
    List.count_eq_zero.mpr (by simp)
  rw [calls, List.count_append, hruns, Nat.zero_add,
    List.count_map_of_injective _ _ fun _ _ => UnitCall.report.inj]
  rfl

/-- The units whose fate is in the books of a poller. -/
def settled (poller : Poller) : List TestUnit :=
  poller.executed ++ poller.dropped ++ (poller.asked ++ poller.unreportable)

/-- A poller that has left has settled what it took from the pool. -/
theorem Accounted.settled {exit : Exit} (h : poller.Accounted) (hleft : poller.phase = .left exit) :
    poller.taken.Perm poller.settled := by
  have hwithdrawn := h.withdrawn
  rw [hleft] at hwithdrawn
  exact (List.append_nil _ ▸ hwithdrawn).append_right _

private theorem count_noted_le (fate : Fate) :
    (fate.noted poller).count unit ≤ poller.settled.count unit := by
  simp only [settled, List.count_append]
  cases fate <;> simp only [Fate.noted] <;> omega

private theorem exists_fate (h : poller.settled.count unit = 1) :
    ∃ fate : Fate, ∀ other : Fate,
      (other.noted poller).count unit = if fate = other then 1 else 0 := by
  simp only [settled, List.count_append] at h
  have hone : ∃ fate : Fate, (fate.noted poller).count unit = 1 := by
    rcases (by omega : poller.executed.count unit = 1 ∨ poller.dropped.count unit = 1 ∨
        poller.asked.count unit = 1 ∨ poller.unreportable.count unit = 1) with
      hfate | hfate | hfate | hfate
    · exact ⟨.executed, hfate⟩
    · exact ⟨.dropped, hfate⟩
    · exact ⟨.reported, hfate⟩
    · exact ⟨.unreportable, hfate⟩
  obtain ⟨fate, hfate⟩ := hone
  refine ⟨fate, ?_⟩
  intro other
  cases fate <;> cases other <;> simp only [Fate.noted, reduceCtorEq, if_true, if_false] at * <;>
    omega

private theorem Accounted.count_withdrawn {exit : Exit} (h : poller.Accounted)
    (hleft : poller.phase = .left exit) : poller.withdrawn.count unit =
      (Fate.executed.noted poller).count unit + (Fate.dropped.noted poller).count unit := by
  have hcount := h.withdrawn.count_eq unit
  rw [hleft, List.count_append, List.count_append] at hcount
  exact hcount

/-- The books of the reporting poller tell which units can report. -/
theorem Accounted.reports {fate : Fate} (h : poller.Accounted) (hhandled : fate.handled = false)
    (hnoted : (fate.noted poller).count unit = 1) : poller.reportedNotExecuted = true ∧
      (fate = .reported ↔ unit.capabilities.notExecutedReport) := by
  have hunit : unit ∈ fate.noted poller := List.count_pos_iff.mp (by omega)
  have hflag : poller.reportedNotExecuted = true := by
    apply Decidable.byContradiction
    intro hsilent
    obtain ⟨hasked, hunreportable, -⟩ := h.silent (Bool.eq_false_iff.mpr hsilent)
    cases fate with
    | reported => exact List.not_mem_nil (show unit ∈ [] from hasked ▸ hunit)
    | unreportable => exact List.not_mem_nil (show unit ∈ [] from hunreportable ▸ hunit)
    | _ => cases hhandled
  refine ⟨hflag, ?_⟩
  cases fate with
  | reported => simp [h.reporters unit hunit]
  | unreportable => simp [h.nonReporters unit hunit]
  | _ => cases hhandled

end Poller

namespace Fate

variable {pollers : List Poller} {unit : TestUnit} {fate : Fate} {index : Nat} {poller : Poller}

/-- A unit that is settled once in all the books has one fate with one poller. -/
theorem exists_notedOnce (h : (pollers.map fun poller => poller.settled.count unit).sum = 1) :
    ∃ (fate : Fate) (index : Nat), index < pollers.length ∧ fate.NotedOnce pollers unit index := by
  obtain ⟨index, poller, hpoller, hone, hothers⟩ := Crew.exists_of_sum_map_eq_one h
  obtain ⟨fate, hfate⟩ := Poller.exists_fate hone
  refine ⟨fate, index, (List.getElem?_eq_some_iff.mp hpoller).1, ?_⟩
  intro place other hother what
  by_cases hplace : place = index
  · subst hplace
    obtain rfl := Option.some.inj (hpoller.symm.trans hother)
    simpa using hfate what
  · have hnone := hothers place other hother hplace
    have hle : (what.noted other).count unit ≤ other.settled.count unit :=
      Poller.count_noted_le what
    rw [if_neg fun h => hplace h.1]
    omega

/-- What all the books say of one fate. -/
theorem NotedOnce.sum (h : fate.NotedOnce pollers unit index) (hindex : index < pollers.length)
    (other : Fate) : (pollers.map fun poller => (other.noted poller).count unit).sum =
      if fate = other then 1 else 0 := by
  have hpoller : pollers[index]? = some pollers[index] := List.getElem?_eq_getElem hindex
  rw [Crew.sum_map_eq_of_others hpoller, h index _ hpoller other]
  · simp
  · intro place poller hplace hne
    rw [h place poller hplace other, if_neg fun h => hne h.1]

/-- A unit that was not withdrawn is in the books of the last poller out, as one that can report or
as one that cannot. -/
theorem NotedOnce.reports (h : fate.NotedOnce pollers unit index) (hhandled : fate.handled = false)
    (hpoller : pollers[index]? = some poller) (haccounted : poller.Accounted) :
    poller.reportedNotExecuted = true ∧
      (fate = .reported ↔ unit.capabilities.notExecutedReport) := by
  apply haccounted.reports hhandled
  rw [h index poller hpoller fate, if_pos ⟨rfl, rfl⟩]

/-- A unit that is noted as run or dropped was withdrawn once, by the poller that notes it. -/
theorem NotedOnce.withdrawn {place : Nat} {exit : Exit} (h : fate.NotedOnce pollers unit index)
    (hpoller : pollers[place]? = some poller) (haccounted : poller.Accounted)
    (hleft : poller.phase = .left exit) :
    poller.withdrawn.count unit = if place = index ∧ fate.handled then 1 else 0 := by
  rw [haccounted.count_withdrawn hleft, h place poller hpoller, h place poller hpoller]
  cases fate <;> simp [handled]

end Fate

namespace Crew

variable {E : Interface} {conducts : Conducts E} {given : List TestUnit} {crew : Crew}
  {trace : List (Session.Exchange (World E))} {unit : TestUnit}

/-- When all pollers have left, the last one has emptied the pool. -/
theorem Fated.units_eq_nil {count : Nat} (h : crew.Fated conducts given trace)
    (htallied : crew.Tallied count) (hleft : crew.AllLeft) : crew.floor.pool.units = [] := by
  obtain ⟨earlier, final, later, hconcluded⟩ := htallied.concluded (htallied.running_eq_zero hleft)
  obtain ⟨poller, hpoller, -⟩ := hconcluded.reporter
  obtain ⟨exit, hexit⟩ := hleft poller (List.mem_of_getElem? hpoller)
  exact h.emptied poller (List.mem_of_getElem? hpoller) exit
    ((hconcluded.flagged _ _ hpoller).mpr rfl) hexit

/-- When all pollers have left and the pool is empty, each unit given is settled once. -/
theorem Fated.sum_settled (h : crew.Fated conducts given trace) (hleft : crew.AllLeft)
    (hpool : crew.floor.pool.units = []) (hnodup : given.Nodup) (hunit : unit ∈ given) :
    (crew.pollers.map fun poller => poller.settled.count unit).sum = 1 := by
  have hconserved := h.conserved unit
  rw [hpool, List.count_nil, Nat.add_zero, List.count_eq_one_of_mem hnodup hunit] at hconserved
  rw [hconserved, tally, total]
  apply congrArg List.sum
  apply List.map_congr_left
  intro poller hpoller
  obtain ⟨exit, hexit⟩ := hleft poller hpoller
  have hsettled := (h.accounted poller hpoller).settled hexit
  exact (hsettled.count_eq unit).symm

/-- Then each unit given has met its fate, and what was heard of it is that. -/
theorem Fated.befalls (h : crew.Fated conducts given trace) (hleft : crew.AllLeft)
    (hpool : crew.floor.pool.units = []) (hnodup : given.Nodup) (hunit : unit ∈ given) :
    ∃ (fate : Fate) (index : Nat), fate.Befalls conducts crew.pollers unit index ∧
      ∀ announced, (∀ other ∈ given, (conducts other).Announces announced other) →
        fate.Shows ((Session.errands trace).filterMap announced) unit := by
  obtain ⟨fate, index, hindex, hnoted⟩ :=
    Fate.exists_notedOnce (h.sum_settled hleft hpool hnodup hunit)
  refine ⟨fate, index, ?_, ?_⟩
  · constructor
    case place => exact hindex
    case noted => exact hnoted
    case withdrawn =>
      intro place poller hpoller
      have hmem : poller ∈ crew.pollers := List.mem_of_getElem? hpoller
      obtain ⟨exit, hexit⟩ := hleft poller hmem
      exact hnoted.withdrawn hpoller (h.accounted poller hmem) hexit
    case refused =>
      rintro rfl
      have hpoller := List.getElem?_eq_getElem hindex
      have hdropped : (Fate.dropped.noted crew.pollers[index]).count unit = 1 := by
        rw [hnoted index _ hpoller, if_pos ⟨rfl, rfl⟩]
      have hmem : unit ∈ Fate.dropped.noted crew.pollers[index] :=
        List.count_pos_iff.mp (by omega)
      exact h.refused _ (List.getElem_mem hindex) unit hmem
    case reporter =>
      intro hhandled poller hpoller
      have haccounted := h.accounted poller (List.mem_of_getElem? hpoller)
      exact (hnoted.reports hhandled hpoller haccounted).1
    case capability =>
      intro hhandled
      have haccounted := h.accounted crew.pollers[index] (List.getElem_mem hindex)
      exact (hnoted.reports hhandled (List.getElem?_eq_getElem hindex) haccounted).2
  · intro announced hannounces
    have hcalls := h.calls announced hannounces
    simp only [tally, total] at hcalls
    constructor
    · rw [hcalls]
      simp only [Poller.count_run_calls]
      exact hnoted.sum hindex .executed
    · rw [hcalls]
      simp only [Poller.count_report_calls]
      exact hnoted.sum hindex .reported

end Crew

end Fleet
