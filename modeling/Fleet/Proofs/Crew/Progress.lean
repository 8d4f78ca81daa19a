import Fleet.Proofs.Crew.Basic

/-!
# Progress

A poller that has not left comes nearer to leaving with each of its steps, and no step of another
poller takes it further away. So a schedule that gives every poller enough steps lets all of them
leave.
-/

namespace Fleet

/-- The size of a pool is the number of its units. -/
theorem WorkPool.length_units (pool : WorkPool) : pool.units.length = pool.size :=
  List.length_append

namespace Station

variable {E : Interface} {conducts : Conducts E} {trace : List (Session.Exchange (World E))}
  {station last : Station}

/-- How many steps the poller takes at most until it has left. -/
def outstanding (station : Station) : Nat :=
  if stepsLeft station.poller.phase = 0 then 0 else station.budget

/-- As long as the poller has not left, its outstanding steps are its budget. -/
theorem outstanding_of_ne (h : stepsLeft station.poller.phase ≠ 0) :
    station.outstanding = station.budget :=
  if_neg h

/-- A poller that has not left has a step to take. -/
theorem outstanding_pos (h : stepsLeft station.poller.phase ≠ 0) : 0 < station.outstanding := by
  rw [outstanding_of_ne h, budget]
  omega

/-- The outstanding steps are bounded by whatever bounds the budget. -/
theorem outstanding_le {bound : Nat}
    (h : stepsLeft station.poller.phase ≠ 0 → station.budget ≤ bound) :
    station.outstanding ≤ bound := by
  unfold outstanding
  split
  · exact Nat.zero_le _
  · exact h ‹_›

/-- No steps are left exactly if the poller has left. -/
theorem stepsLeft_eq_zero {phase : Phase} : stepsLeft phase = 0 ↔ ∃ exit, phase = .left exit := by
  cases phase <;> simp [stepsLeft]

private theorem stepsLeft_of_seeks {phase fallback : Phase} (h : phase.Seeks fallback) :
    stepsLeft phase = stepsLeft fallback + 1 := by
  cases h <;> rfl

private theorem stepsLeft_of_handles {phase next : Phase} {dropped : List TestUnit}
    (h : phase.Handles conducts trace next dropped) : stepsLeft next < stepsLeft phase := by
  cases h with
  | executed honce hnext =>
    rcases hnext with rfl | ⟨error, rfl⟩ | ⟨error, rfl⟩ <;> simp [stepsLeft]
  | crashed hphase hcause =>
    rcases hphase with rfl | ⟨unit, rfl⟩ | ⟨unit, rfl⟩ <;> simp [stepsLeft]
  | _ => simp [stepsLeft]

/-- No move puts a unit back. -/
theorem Move.size_le (h : station.Move conducts trace last) :
    last.floor.pool.size ≤ station.floor.pool.size := by
  simp only [← WorkPool.length_units]
  cases h with
  | seek hphase hwithdraws hvain huneventful =>
    rw [hwithdraws.units.length_eq, List.length_append]
    exact Nat.le_add_left _ _
  | report hphase hdrained hreported hemptied =>
    rw [hdrained.units.length_eq, List.length_append]
    exact Nat.le_add_left _ _
  | _ => exact Nat.le_refl _

/-- Every move brings the poller nearer to leaving. -/
theorem Move.outstanding_le (h : station.Move conducts trace last) :
    last.outstanding ≤ station.outstanding - 1 := by
  cases h with
  | seek hphase hwithdraws hvain huneventful =>
    rename_i fallback found pool lifecycle network entry
    have hsteps := stepsLeft_of_seeks hphase
    have hsize := hwithdraws.units.length_eq
    rw [List.length_append, WorkPool.length_units, WorkPool.length_units] at hsize
    have hbudget : station.outstanding = station.budget := outstanding_of_ne (by omega)
    rw [hbudget]
    apply outstanding_le
    intro _
    cases found with
    | none =>
      simp only [budget, Option.toList_none, List.length_nil, Option.elim_none] at hsize ⊢
      omega
    | some unit =>
      have hdispatching : stepsLeft (.dispatching unit) = 7 := rfl
      simp only [budget, Option.toList_some, List.length_singleton, Option.elim_some] at hsize ⊢
      omega
  | handle hhandles =>
    have hsteps := stepsLeft_of_handles hhandles
    have hbudget : station.outstanding = station.budget := outstanding_of_ne (by omega)
    rw [hbudget]
    apply outstanding_le
    intro _
    simp only [budget]
    omega
  | signOut hphase huneventful =>
    rename_i exit
    have hsteps : stepsLeft station.poller.phase = 2 := by rw [hphase]; rfl
    have hnext :
        stepsLeft (if station.floor.countDown.1 then .reporting exit else .left exit) ≤ 1 := by
      split <;> simp [stepsLeft]
    have hpool : station.floor.countDown.2.pool.size = station.floor.pool.size := rfl
    have hbudget : station.outstanding = station.budget := outstanding_of_ne (by omega)
    rw [hbudget]
    apply outstanding_le
    intro _
    simp only [budget]
    omega
  | report hphase hdrained hreported hemptied => exact outstanding_le fun hleft => absurd rfl hleft
  | rest hphase huneventful =>
    exact outstanding_le fun hleft => absurd (stepsLeft_eq_zero.mpr ⟨_, hphase⟩) hleft

/-- A smaller pool is no further from the end. -/
theorem outstanding_mono {poller : Poller} {floor other : Floor}
    (h : floor.pool.size ≤ other.pool.size) :
    outstanding { poller, floor } ≤ outstanding { poller, floor := other } := by
  apply outstanding_le
  intro hsteps
  have hbudget : outstanding { poller, floor := other } = budget { poller, floor := other } :=
    outstanding_of_ne hsteps
  rw [hbudget]
  simp only [budget]
  omega

end Station

namespace Crew

variable {E : Interface} {conducts : Conducts E} {trace : List (Session.Exchange (World E))}
  {crew last : Crew}

/-- How many steps the poller at a place takes at most until it has left. -/
def outstanding (party : Nat) (crew : Crew) : Nat :=
  match crew.pollers[party]? with
  | none => 0
  | some poller => Station.outstanding { poller, floor := crew.floor }

private theorem outstanding_eq {party : Nat} {poller : Poller}
    (h : crew.pollers[party]? = some poller) :
    crew.outstanding party = Station.outstanding { poller, floor := crew.floor } := by
  rw [outstanding, h]

/-- At the start, the outstanding steps of each poller are eight for each unit, and five. -/
theorem outstanding_start {pool : WorkPool} {resources : List Resources} {party : Nat}
    (h : party < resources.length) :
    (start pool resources).outstanding party = 8 * pool.size + 5 := by
  have hpoller : (start pool resources).pollers[party]? = some (.ofResources resources[party]) := by
    simp [start, h]
  rw [outstanding_eq hpoller]
  exact Station.outstanding_of_ne (Nat.succ_ne_zero 4)

private theorem outstanding_after {turn : Turn} (hturn : crew.Takes conducts trace turn)
    (party : Nat) :
    (crew.after turn).outstanding party ≤
      crew.outstanding party - if turn.index = party then 1 else 0 := by
  have hfloor : turn.before = { poller := turn.before.poller, floor := crew.floor } := by
    rw [← hturn.floor]
  unfold outstanding
  rw [hturn.getElem?_after]
  by_cases hparty : turn.index = party
  · subst hparty
    rw [if_pos rfl, if_pos rfl, hturn.poller]
    dsimp only
    rw [← hfloor]
    exact hturn.move.outstanding_le
  · rw [if_neg (Ne.symm hparty), if_neg hparty]
    cases crew.pollers[party]? with
    | none => exact Nat.le_refl _
    | some poller =>
      apply Station.outstanding_mono
      rw [← hturn.floor]
      exact hturn.move.size_le

/-- What a poller has outstanding falls with every step it is given. -/
theorem outstanding_play (hformed : crew.floor.pool.WellFormed) {schedule : List Nat}
    (hplay : (crew.play conducts schedule).Path trace last) (party : Nat) :
    last.outstanding party ≤ crew.outstanding party - schedule.count party := by
  refine Session.measure_follow (·.floor.pool.WellFormed) (outstanding party)
    (fun hformed hstep => ?_) hformed hplay
  rcases takes_of_step hformed hstep with ⟨hindex, -, rfl⟩ | ⟨turn, rfl, hturn, rfl⟩
  · refine ⟨hformed, ?_⟩
    split
    · rename_i hparty
      subst hparty
      rw [outstanding, List.getElem?_eq_none hindex]
      exact Nat.zero_le _
    · exact Nat.le_refl _
  · exact ⟨hturn.move.formed (hturn.floor ▸ hformed), outstanding_after hturn party⟩

/-- A poller without outstanding steps has left. -/
theorem left_of_outstanding {party : Nat} {poller : Poller} (h : crew.outstanding party = 0)
    (hpoller : crew.pollers[party]? = some poller) : ∃ exit, poller.phase = .left exit := by
  rw [outstanding_eq hpoller] at h
  refine Station.stepsLeft_eq_zero.mp (Decidable.byContradiction fun hsteps => ?_)
  have hpositive : 0 < Station.outstanding { poller, floor := crew.floor } :=
    Station.outstanding_pos hsteps
  omega

end Crew

end Fleet
