import Fleet.Proofs.Invocation.Fates

/-!
# Invocations run in turn

`InvocationPlan.run` lets the pollers run one after the other. That is one of the schedules, and it
gives every seat the turns it needs.
-/

namespace Fleet

variable {E : Interface} {conducts : Conducts E} {trace : List (Session.Exchange (World E))}
  {units : List (Option TestUnit)}

namespace Invocation

variable {invocation last : Invocation} {index : Nat}

private theorem play_append {schedule more : List Nat} :
    invocation.play conducts (schedule ++ more) =
    invocation.play conducts schedule >>= play conducts more := by
  induction schedule generalizing invocation with
  | nil => rfl
  | cons index schedule ih =>
    rw [List.cons_append, play, play, bind_assoc]
    exact bind_congr fun _ => ih

/-- A seat that has its run is closed. -/
theorem play_of_runSeat (hformed : invocation.floor.pool.WellFormed)
    (h : (invocation.runSeat conducts index).Path trace last) :
    ∃ schedule, (invocation.play conducts schedule).Path trace last ∧ last.waiting index = 0 := by
  rw [runSeat] at h
  split at h
  · rename_i hnone
    obtain ⟨rfl, rfl⟩ := Session.path_pure.mp h
    exact ⟨[], Session.path_pure.mpr ⟨rfl, rfl⟩, by rw [waiting, hnone]⟩
  · rename_i seat hseat
    refine ⟨_, h, ?_⟩
    have hbefore : invocation.waiting index ≤
        Station.budget { poller := seat.poller, floor := invocation.floor } + 1 := by
      rw [waiting_eq hseat, Seat.waiting]
      split
      · exact Nat.zero_le _
      · exact Nat.succ_le_succ (Station.outstanding_le fun _ => Nat.le_refl _)
    have hlast := (waiting_play hformed h index).2
    rw [List.count_replicate_self] at hlast
    omega

private theorem play_of_runInTurn {indices : List Nat} (hformed : invocation.floor.pool.WellFormed)
    (h : (invocation.runInTurn conducts indices).Path trace last) :
    ∃ schedule, (invocation.play conducts schedule).Path trace last ∧
      ∀ index ∈ indices, last.waiting index = 0 := by
  induction indices generalizing invocation trace with
  | nil => exact ⟨[], h, fun _ hindex => absurd hindex List.not_mem_nil⟩
  | cons index rest ih =>
    obtain ⟨mid, before, after, rfl, hseat, hrest⟩ := Session.path_seq.mp h
    obtain ⟨first, hfirst, hclosed⟩ := play_of_runSeat hformed hseat
    have hmid := (waiting_play hformed hfirst index).1
    obtain ⟨later, hlater, hothers⟩ := ih hmid hrest
    refine ⟨first ++ later, ?_, List.forall_mem_cons.mpr ⟨?_, hothers⟩⟩
    · rw [play_append]
      exact Session.path_seq.mpr ⟨mid, _, _, rfl, hfirst, hlater⟩
    · have hlast := (waiting_play hmid hlater index).2
      omega

/-- What matters are the units, not how often they are given. -/
theorem Settled.of_mem {others : List (Option TestUnit)} (h : last.Settled conducts units trace)
    (hmem : ∀ unit, some unit ∈ others ↔ some unit ∈ units) :
    last.Settled conducts others trace := by
  obtain ⟨hpool, hfates, hcomplaints⟩ := h
  simp only [← hmem] at hfates
  exact ⟨hpool, hfates, hcomplaints⟩

end Invocation

namespace InvocationPlan

variable {plan : InvocationPlan} {context : Context} {result : Exit × Option Invocation}

/-- Concluding shows to nobody. -/
theorem quiet_conclude {invocation : Invocation} :
    Session.Asks World.Quiet (conclude invocation : Work E Exit) := by
  unfold conclude
  split
  · exact .pure _
  · split
    · exact .bind (.logLine (World.quiet_log (E := E) (by decide))) fun _ => .pure _
    · exact .pure _

/-- A run of an invocation logs what it starts with, plays its pollers until every seat is closed,
and concludes. -/
theorem path_run (hdevices : context.allocation ≠ [])
    (hrun : (plan.run conducts (some context) true units).Path trace result) :
    ∃ message before inner after schedule last,
      trace = before ++ (inner ++ after) ∧ result.2 = some last ∧
      (logLine .info context.invocationId "shard_runner" "pool_created" message).Path before () ∧
      ((plan.start context (units.filter (·.isSome))).play conducts schedule).Path inner last ∧
      (conclude last).Path after result.1 ∧ last.Over := by
  rw [run, if_neg (by simpa using hdevices)] at hrun
  obtain ⟨⟨⟩, before, _, rfl, hlogged, hrest⟩ := Session.path_seq.mp hrun
  obtain ⟨last, inner, _, rfl, hturns, hrest⟩ := Session.path_seq.mp hrest
  obtain ⟨exit, after, _, rfl, hconclude, hdone⟩ := Session.path_seq.mp hrest
  obtain ⟨rfl, rfl⟩ := Session.path_pure.mp hdone
  obtain ⟨schedule, hplay, hclosed⟩ := Invocation.play_of_runInTurn wellFormed_start hturns
  refine ⟨_, before, inner, after, schedule, last, by rw [List.append_nil], rfl, hlogged, hplay,
    hconclude, Invocation.over_of_waiting fun index _ => ?_⟩
  by_cases hindex : index < (plan.start context (units.filter (·.isSome))).seats.length
  · exact hclosed index (List.mem_range.mpr hindex)
  · have hlast := (Invocation.waiting_play wellFormed_start hplay index).2
    rw [Invocation.waiting_of_length_le (Nat.le_of_not_lt hindex)] at hlast
    omega

/-- A run of an invocation settles all its units. -/
theorem settled_of_run (hdevices : context.allocation ≠ [])
    (hpresent : ∀ entry ∈ context.allocation, entry.1.isSome = true)
    (htame : ∀ unit, some unit ∈ units → (conducts unit).Tame)
    (hrun : (plan.run conducts (some context) true units).Path trace result)
    (hcalm : Session.Calm trace) :
    ∃ last, result.2 = some last ∧ last.Over ∧ last.Settled conducts units trace := by
  have hgiven : ∀ unit, some unit ∈ units ↔ some unit ∈ units.filter (·.isSome) := by
    simp [List.mem_filter]
  obtain ⟨message, before, inner, after, schedule, last, rfl, hresult, hlogged, hplay, hconclude,
    hover⟩ := path_run hdevices hrun
  have hbefore := (Session.Asks.logLine (World.routine_log (E := E) (by decide))).uneventful hlogged
  have hinner : Session.Calm inner :=
    (Session.calm_append.mp (Session.calm_append.mp hcalm).2).1
  have hsettled := Invocation.settled_of_over hdevices hpresent
    (fun unit hunit => htame unit ((hgiven unit).mpr hunit)) hplay hinner hover
  refine ⟨last, hresult, hover, (hsettled.of_mem hgiven).of_alike ⟨fun _ => hinner, ?_, ?_, ?_⟩⟩
  · simp [(quiet_conclude.routine.uneventful hconclude).errands, hbefore.errands]
  · simp [(quiet_conclude.routine.uneventful hconclude).complaints, hbefore.complaints]
  · exact fun _ hexchange _ => List.mem_append_right _ (List.mem_append_left _ hexchange)

end InvocationPlan

end Fleet
