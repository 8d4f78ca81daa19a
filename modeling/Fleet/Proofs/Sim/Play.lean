import Fleet.Proofs.Crew.Providers
import Fleet.Proofs.Invocation.Leftovers
import Fleet.Proofs.Sim.Steps
import Mathlib.Algebra.Order.BigOperators.Group.List
import Mathlib.Algebra.Order.Group.Nat
import Mathlib.Data.List.Flatten

/-!
# What plays of a simulated fleet amount to

Whatever the schedule, a play in which all is granted tells of as many runs as there are units in
the books of the pollers. The module is kept by one unit only, which finds it as it was given
because it is executed only once.
-/

namespace Fleet

variable {E : Interface}

namespace Seat

variable {seat last : Seat} {inner outer : List (Session.Exchange (World E))}

private theorem Tends.dealings (h : seat.Tends inner outer last) :
    Session.dealings outer = Session.dealings inner := by
  cases h with
  | relayed _ buffered _ => exact buffered.dealings
  | closed _ closes => exact Session.dealings_of_errands_nil (uneventful_close closes).errands
  | rested => rfl

/-- A seat that has nothing in its buffer and whose poller closes the runs it opens passes on what
its poller tells, and has nothing in its buffer again. -/
theorem Tends.idle (h : seat.Tends inner outer last) (hidle : seat.buffer = {})
    (hclosed : openRunsOf (Session.sent inner) = 0) :
    last.buffer = {} ∧ (Session.Heeded outer →
      (Session.sent outer).filter (!·.isLog) = (Session.sent inner).filter (!·.isLog)) := by
  cases h with
  | relayed _ buffered _ =>
    rw [hidle] at buffered
    obtain ⟨hlast, hsent⟩ := buffered.idle_of_closed hclosed
    exact ⟨hlast, fun hheeded => (hsent hheeded).2⟩
  | closed _ closes =>
    obtain ⟨logged, passing, _, _, rfl, hlogged, hpassing, rfl, -⟩ := path_close closes
    rw [hidle] at hpassing
    obtain ⟨rfl, -⟩ := Session.path_pure.mp hpassing
    have hquiet := quiet_errorOf.deeds hlogged
    exact ⟨by rw [hidle]; rfl, fun _ => by
      rw [List.append_nil, Session.sent_of_deeds_nil hquiet]; rfl⟩
  | rested => exact ⟨hidle, fun _ => rfl⟩

end Seat

/-- A step of a poller in an invocation is a turn of the crew the invocation mirrors. -/
theorem Invocation.Mirrors.takes {conducts : Conducts E} {invocation : Invocation} {crew : Crew}
    {index : Nat} {seat last : Seat} {station : Station}
    {inner : List (Session.Exchange (World E))} (h : invocation.Mirrors crew)
    (hformed : crew.floor.pool.WellFormed) (hseat : invocation.seats[index]? = some seat)
    (hstep : (Station.step conducts { poller := seat.poller, floor := invocation.floor }).Path
      inner station) (hlast : last.poller = station.poller) :
    let turn : Turn :=
      { index, before := { poller := seat.poller, floor := invocation.floor }, after := station }
    crew.Takes conducts inner turn ∧
      Mirrors { invocation with
        floor := station.floor
        seats := invocation.seats.set index last } (crew.after turn) := by
  refine ⟨⟨?_, h.floor.symm, Station.move_of_step (h.floor ▸ hformed) hstep⟩, rfl, ?_⟩
  · rw [h.pollers, List.getElem?_map, hseat]
    rfl
  · rw [Crew.after, h.pollers, List.map_set, hlast]

namespace Crew

variable {conducts : Conducts E} {given : List TestUnit} {crew : Crew} {poller other : Poller}
  {unit : TestUnit} {past : List (Session.Exchange (World E))}

/-- A unit that is given once and about to be executed has not been executed before. -/
theorem Fated.not_executed (h : crew.Fated conducts given past) (hnodup : given.Nodup)
    (hpoller : poller ∈ crew.pollers) (hphase : poller.phase = .executing unit) :
    ∀ other ∈ crew.pollers, unit ∉ other.executed := by
  have hcount (other : Poller) (hother : other ∈ crew.pollers) :
      other.executed.count unit + other.phase.inHand.count unit ≤ other.taken.count unit := by
    have hwithdrawn := (h.accounted other hother).withdrawn.count_eq unit
    simp only [Poller.taken, List.count_append] at hwithdrawn ⊢
    omega
  have hinHand : poller.phase.inHand.count unit = 1 := by
    rw [hphase]
    exact List.count_singleton_self
  have hless : crew.tally Poller.executed unit < crew.tally Poller.taken unit := by
    refine List.sum_lt_sum _ _ (fun other hother => ?_) ⟨poller, hpoller, ?_⟩
    · have hle := hcount other hother
      omega
    · have hle := hcount poller hpoller
      omega
  have honce := List.nodup_iff_count_le_one.mp hnodup unit
  have hconserved := h.conserved unit
  have hnever : crew.tally Poller.executed unit = 0 := by omega
  exact fun other hother => List.count_eq_zero.mp (total_eq_zero.mp hnever other hother)

/-- What a poller has executed stays in its books. -/
theorem Takes.executed_still {turn : Turn} {trace : List (Session.Exchange (World E))}
    (h : crew.Takes conducts trace turn) (hunit : ∃ poller ∈ crew.pollers, unit ∈ poller.executed) :
    ∃ poller ∈ (crew.after turn).pollers, unit ∈ poller.executed := by
  obtain ⟨poller, hpoller, hunit⟩ := hunit
  obtain ⟨index, hindex⟩ := List.getElem?_of_mem hpoller
  have hplace := h.getElem?_after index
  split at hplace
  · rename_i hturned
    rw [hturned, h.poller] at hindex
    obtain rfl := Option.some.inj hindex
    refine ⟨_, List.mem_of_getElem? hplace, ?_⟩
    rw [h.move.executed_eq]
    exact List.mem_append_left _ hunit
  · exact ⟨poller, List.mem_of_getElem? (hplace.trans hindex), hunit⟩

/-- When nothing is left in the pool, each unit given has left it with one poller. -/
theorem Fated.perm_taken (h : crew.Fated conducts given past)
    (hpool : crew.floor.pool.units = []) : given.Perm (crew.pollers.flatMap Poller.taken) := by
  refine List.perm_iff_count.mpr fun unit => ?_
  have hconserved := h.conserved unit
  rw [hpool, List.count_nil, Nat.add_zero] at hconserved
  rw [hconserved, List.count_flatMap]
  rfl

/-- Each unit that was reported is one of the units given, and was reported once. -/
theorem Fated.countP_reported (h : crew.Fated conducts given past)
    (hpool : crew.floor.pool.units = []) (hnodup : given.Nodup) :
    given.countP (· ∈ crew.reported) = crew.reported.length := by
  have htaken := h.perm_taken hpool
  have hsublist : crew.reported.Sublist (crew.pollers.flatMap Poller.taken) :=
    .flatMap_right _ fun _ _ => List.sublist_append_right _ _
  have honce : crew.reported.Nodup := hsublist.nodup (htaken.nodup_iff.mp hnodup)
  have hsame : (given.filter (· ∈ crew.reported)).Perm crew.reported := by
    refine (List.perm_ext_iff_of_nodup (hnodup.filter _) honce).mpr fun unit => ?_
    rw [List.mem_filter, decide_eq_true_iff]
    exact and_iff_right_of_imp fun hunit => htaken.mem_iff.mpr (hsublist.subset hunit)
  rw [List.countP_eq_length_filter, hsame.length_eq]

/-- A poller that has left without having dropped a unit has executed what it withdrew, and asked
all others to report that can. -/
theorem Fated.length_taken {exit : Exit} (h : crew.Fated conducts given past)
    (hpool : crew.floor.pool.units = [])
    (hreports : ∀ unit ∈ given, unit.capabilities.notExecutedReport = true)
    (hpoller : poller ∈ crew.pollers) (hleft : poller.phase = .left exit)
    (hdropped : poller.dropped = []) :
    poller.unreportable = [] ∧
      poller.taken.length = poller.executed.length + poller.asked.length := by
  have haccounted := h.accounted poller hpoller
  have hunreportable : poller.unreportable = [] := by
    refine List.eq_nil_iff_forall_not_mem.mpr fun unit hunit => ?_
    have htaken : unit ∈ crew.pollers.flatMap Poller.taken :=
      List.mem_flatMap.mpr
        ⟨poller, hpoller, List.mem_append_right _ (List.mem_append_right _ hunit)⟩
    have hcan := hreports unit ((h.perm_taken hpool).mem_iff.mpr htaken)
    rw [haccounted.nonReporters unit hunit] at hcan
    cases hcan
  have hlength := (haccounted.settled hleft).length_eq
  rw [Poller.settled, hdropped, hunreportable, List.append_nil, List.append_nil,
    List.length_append] at hlength
  exact ⟨hunreportable, hlength⟩

end Crew

namespace Sim

variable {keeper : TestUnit} {module : Module} {conducts : Conducts Backstage}
  {given : List TestUnit} {crew : Crew} {turn : Turn}
  {past trace inner outer : List (Session.Exchange (World Backstage))}

/-- The outside grants all it is asked for, to the scheduler and to the units, and the module that
is looked up is this one until one is kept. -/
structure Obliging (module : Module) (trace : List (Session.Exchange (World Backstage))) :
    Prop where
  granted : Session.Granted trace
  dealt : Session.Granted (Session.dealings trace)
  finds : FindsFirst module (Session.dealings trace)

private theorem Obliging.before (h : Obliging module (past ++ trace)) : Obliging module past where
  granted := (List.forall_mem_append.mp h.granted).1
  dealt := by
    have hdealt := h.dealt
    rw [Session.dealings_append] at hdealt
    exact (List.forall_mem_append.mp hdealt).1
  finds := by
    have hfinds := h.finds
    rw [Session.dealings_append] at hfinds
    exact hfinds.left_of_append

/-- What has been told amounts to what the pollers have in their books. -/
structure Recounted (keeper : TestUnit) (past : List (Session.Exchange (World Backstage)))
    (crew : Crew) : Prop where
  unwired : ∀ poller ∈ crew.pollers, poller.Unwired
  dropped : ∀ poller ∈ crew.pollers, poller.dropped = []
  amounts : AmountsTo (Session.sent past)
    (crew.total (·.executed.length) + crew.total (·.asked.length))
    (crew.total (·.asked.length) + drops (Session.dealings past))
  unsent : ∀ exchange ∈ Session.dealings past, Unsent exchange
  kept : ∀ exchange ∈ Session.dealings past, isKeep exchange = true →
    ∃ poller ∈ crew.pollers, keeper ∈ poller.executed

/-- A turn that recounts what it tells, to whoever passes on all events but logs in order. -/
theorem Recounted.after (h : Recounted keeper past crew) (hturn : crew.Takes conducts inner turn)
    (hrecounts : Recounts keeper turn.before inner turn.after)
    (hdealings : Session.dealings outer = Session.dealings inner)
    (hordinary : (Session.sent outer).filter (!·.isLog) =
      (Session.sent inner).filter (!·.isLog)) :
    Recounted keeper (past ++ outer) (crew.after turn) := by
  have hbefore : turn.before.poller ∈ crew.pollers := List.mem_of_getElem? hturn.poller
  have hafter : turn.after.poller ∈ (crew.after turn).pollers :=
    List.mem_set hturn.index_lt _
  obtain ⟨runs, reports, hexecuted, hasked, hamounts⟩ := hrecounts.counts
  constructor
  case unwired =>
    intro poller hpoller
    rcases Crew.Takes.mem_after hpoller with hold | rfl
    · exact h.unwired poller hold
    · exact hrecounts.unwired
  case dropped =>
    intro poller hpoller
    rcases Crew.Takes.mem_after hpoller with hold | rfl
    · exact h.dropped poller hold
    · rw [hrecounts.dropped, h.dropped _ hbefore]
  case amounts =>
    have hruns := hturn.total_after (·.executed.length)
    have hreports := hturn.total_after (·.asked.length)
    have hall := h.amounts.append (hamounts.of_ordinary hordinary)
    rw [Session.sent_append, Session.dealings_append, drops_append, hdealings]
    convert hall using 1 <;> omega
  case unsent =>
    rw [Session.dealings_append, hdealings]
    exact List.forall_mem_append.mpr ⟨h.unsent, hrecounts.unsent⟩
  case kept =>
    intro exchange hexchange hkeep
    rw [Session.dealings_append, hdealings] at hexchange
    rcases List.mem_append.mp hexchange with hpast | hnow
    · exact hturn.executed_still (h.kept exchange hpast hkeep)
    · exact ⟨_, hafter, hrecounts.kept exchange hnow hkeep⟩

/-- No seat holds anything back, no unit is lost or doubled, and what has been told amounts to what
is in the books. -/
structure Balanced (keeper : TestUnit) (conducts : Conducts Backstage) (given : List TestUnit)
    (count : Nat) (past : List (Session.Exchange (World Backstage))) (invocation : Invocation) :
    Prop where
  idle : ∀ seat ∈ invocation.seats, seat.buffer = {}
  books : ∃ crew inner, invocation.Mirrors crew ∧ crew.Tallied count ∧
    crew.Fated conducts given inner ∧ Recounted keeper past crew

namespace Balanced

variable {count index : Nat} {schedule : List Nat} {invocation next last : Invocation}

private theorem step (h : Balanced keeper conducts given count past invocation)
    (hnodup : given.Nodup)
    (hruns : ∀ unit ∈ given, RunsOnce (homeOf keeper module unit) unit (conducts unit))
    (hstep : (invocation.step conducts index).Path trace next)
    (hobliging : Obliging module (past ++ trace)) :
    Balanced keeper conducts given count (past ++ trace) next := by
  rcases Invocation.path_step hstep with
    ⟨-, rfl, rfl⟩ | ⟨seat, last, station, inner, hseat, hinner, htends, hpoller, -, rfl⟩
  · rwa [List.append_nil]
  obtain ⟨crew, before, hmirrors, htallied, hfated, hrecounted⟩ := h.books
  obtain ⟨hturn, hnext⟩ := hmirrors.takes htallied.formed hseat hinner hpoller
  have hidle : seat.buffer = {} := h.idle seat (List.mem_of_getElem? hseat)
  have hbefore : seat.poller ∈ crew.pollers := List.mem_of_getElem? hturn.poller
  have hcalm : Session.Calm trace := (Session.calm_append.mp hobliging.granted.calm).2
  have hcalmInner : Session.Calm inner := htends.alike.calm hcalm
  have hsame := htends.dealings
  have hdealt : Session.Granted (Session.dealings inner) := by
    have hall := hobliging.dealt
    rw [Session.dealings_append, hsame] at hall
    exact (List.forall_mem_append.mp hall).2
  have hfinds : seat.poller.phase = .executing keeper →
      FindsFirst module (Session.dealings inner) := by
    intro hphase
    have hall := hobliging.finds
    rw [Session.dealings_append, hsame] at hall
    refine hall.of_append fun exchange hexchange => Bool.eq_false_iff.mpr fun hkeep => ?_
    obtain ⟨other, hother, hkeeper⟩ := hrecounted.kept exchange hexchange hkeep
    exact hfated.not_executed hnodup hbefore hphase other hother hkeeper
  have hrecounts := recounts_of_step (hrecounted.unwired _ hbefore)
    (hmirrors.floor ▸ htallied.formed)
    (fun unit hunit => hruns unit (hfated.inReach_given hturn unit hunit)) hinner hcalmInner hdealt
    hfinds
  obtain ⟨runs, reports, -, -, hamounts⟩ := hrecounts.counts
  obtain ⟨hlast, hordinary⟩ := htends.idle hidle hamounts.closed
  refine ⟨?_, crew.after _, before ++ inner, hnext, htallied.after hturn,
    hfated.after hturn hcalmInner hrecounts.sound,
    hrecounted.after hturn hrecounts hsame (hordinary hcalm.heeded)⟩
  intro other hother
  rcases List.mem_or_eq_of_mem_set hother with hold | rfl
  · exact h.idle other hold
  · exact hlast

/-- After every schedule no seat holds anything back, no unit is lost, and the books balance. -/
theorem play (h : Balanced keeper conducts given count [] invocation) (hnodup : given.Nodup)
    (hruns : ∀ unit ∈ given, RunsOnce (homeOf keeper module unit) unit (conducts unit))
    (hplay : (invocation.play conducts schedule).Path trace last)
    (hobliging : Obliging module trace) :
    Balanced keeper conducts given count trace last :=
  Session.invariant_follow (fun past invocation =>
      Obliging module past → Balanced keeper conducts given count past invocation)
    (fun h hstep hobliging => (h hobliging.before).step hnodup hruns hstep hobliging)
    (fun _ => h) (Invocation.play_eq_follow ▸ hplay) hobliging

/-- Nothing has been told and nothing is in the books before the first step. -/
theorem start {plan : InvocationPlan} {context : Context} {units : List (Option TestUnit)}
    (hdevices : context.allocation ≠ [])
    (hpresent : ∀ entry ∈ context.allocation, entry.1.isSome = true)
    (hcollectors : plan.collectors = []) :
    Balanced keeper conducts (plan.start context units).floor.pool.units
      (plan.resources context).length [] (plan.start context units) where
  idle seat hseat := (InvocationPlan.wiring_of_mem_seats hseat).1
  books := by
    refine ⟨plan.crew context units, [], InvocationPlan.mirrors_start hpresent,
      InvocationPlan.tallied_crew hdevices hpresent, Crew.fated_start, ?_⟩
    have hnew : ∀ poller ∈ (plan.crew context units).pollers,
        ∃ resources, resources.collectors = [] ∧ poller = .ofResources resources := by
      intro poller hpoller
      obtain ⟨resources, hresources, rfl⟩ := List.mem_map.mp hpoller
      obtain ⟨seat, hseat, rfl⟩ := List.mem_map.mp hresources
      exact ⟨_, (InvocationPlan.wiring_of_mem_seats hseat).2.trans hcollectors, rfl⟩
    have hzero {list : Poller → List TestUnit}
        (hlist : ∀ resources, list (.ofResources resources) = []) :
        (plan.crew context units).total (fun poller => (list poller).length) = 0 := by
      refine Crew.total_eq_zero.mpr fun poller hpoller => ?_
      obtain ⟨resources, -, rfl⟩ := hnew poller hpoller
      rw [hlist, List.length_nil]
    refine ⟨fun poller hpoller => ?_, fun poller hpoller => ?_, ?_, List.forall_mem_nil _,
      List.forall_mem_nil _⟩
    · obtain ⟨resources, hresources, rfl⟩ := hnew poller hpoller
      exact Poller.unwired_ofResources hresources
    · obtain ⟨resources, -, rfl⟩ := hnew poller hpoller
      rfl
    · rw [hzero fun _ => rfl, hzero fun _ => rfl]
      exact amountsTo_nil

/-- When all seats are closed, what has been told amounts to one run for each unit. Of these runs as
many failed as units were reported and devices dropped. -/
theorem totals (h : Balanced keeper conducts given count trace last) (hnodup : given.Nodup)
    (hover : last.Over) (hclosed : last.ClosedLast)
    (hreports : ∀ unit ∈ given, unit.capabilities.notExecutedReport = true) :
    AmountsTo (Session.sent trace) given.length
        (given.countP (· ∈ last.reported) + drops (Session.dealings trace)) ∧
      (∀ exchange ∈ Session.dealings trace, Unsent exchange) ∧
      ∀ unit ∈ given, unit ∈ last.reported ∨ ∃ seat ∈ last.seats, unit ∈ seat.poller.withdrawn := by
  obtain ⟨crew, inner, hmirrors, htallied, hfated, hrecounted⟩ := h.books
  have hleft : crew.AllLeft := hmirrors.allLeft hover hclosed
  have hpool := hfated.units_eq_nil htallied hleft
  have htaken := hfated.perm_taken hpool
  have hbooks : ∀ poller ∈ crew.pollers, poller.unreportable = [] ∧
      poller.taken.length = poller.executed.length + poller.asked.length := by
    intro poller hpoller
    obtain ⟨exit, hexit⟩ := hleft poller hpoller
    exact hfated.length_taken hpool hreports hpoller hexit (hrecounted.dropped poller hpoller)
  have hgiven : given.length =
      crew.total (·.executed.length) + crew.total (·.asked.length) := by
    rw [htaken.length_eq, List.length_flatMap, Crew.total, Crew.total, ← List.sum_map_add]
    exact congrArg List.sum (List.map_congr_left fun poller hpoller => (hbooks poller hpoller).2)
  have hreported : given.countP (· ∈ last.reported) = crew.total (·.asked.length) := by
    rw [← hmirrors.reported_eq, hfated.countP_reported hpool hnodup, Crew.reported,
      List.length_flatMap, Crew.total]
    refine congrArg List.sum (List.map_congr_left fun poller hpoller => ?_)
    rw [Poller.reported, (hbooks poller hpoller).1, List.append_nil]
  refine ⟨?_, hrecounted.unsent, fun unit hunit => ?_⟩
  · rw [hgiven, hreported]
    exact hrecounted.amounts
  · obtain ⟨poller, hpoller, htook⟩ := List.mem_flatMap.mp (htaken.mem_iff.mp hunit)
    rcases List.mem_append.mp htook with hwithdrawn | hreport
    · rw [hmirrors.pollers] at hpoller
      obtain ⟨seat, hseat, rfl⟩ := List.mem_map.mp hpoller
      exact .inr ⟨seat, hseat, hwithdrawn⟩
    · rw [← hmirrors.reported_eq]
      exact .inl (List.mem_flatMap.mpr ⟨poller, hpoller, hreport⟩)

end Balanced

end Sim

end Fleet
