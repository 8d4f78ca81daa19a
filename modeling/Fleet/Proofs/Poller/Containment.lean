import Fleet.Proofs.Poller.Move

/-!
# How far a unit's failure reaches

While no listener throws, what a poller does next is decided by the unit it has in hand: by how its
options are validated, by how its run ended, and by the recovery of its device. A run that fails or
throws a standard exception is survived; what the options or their checks throw is not.
-/

namespace Fleet

variable {E : Interface}

namespace Performance

variable {α : Type} {performance : Performance E α} {result : α}
  {before after : List (Session.Exchange (World E))}

private theorem PlayedIn.append (h : performance.PlayedIn before result)
    (hafter : Session.Uneventful after) : performance.PlayedIn (before ++ after) result := by
  obtain ⟨played, hplayed, herrands, hcomplaints, hheard⟩ := h
  refine ⟨played, hplayed, ?_, ?_, fun hcalm => hheard (Session.calm_append.mp hcalm).1⟩
  · rw [Session.errands_append, hafter.errands, herrands, List.append_nil]
  · rw [Session.complaints_append, hafter.complaints, hcomplaints, List.append_nil]

private theorem PlayedIn.of_uneventful_append (hbefore : Session.Uneventful before)
    (h : performance.PlayedIn after result) : performance.PlayedIn (before ++ after) result := by
  obtain ⟨played, hplayed, herrands, hcomplaints, hheard⟩ := h
  refine ⟨played, hplayed, ?_, ?_, fun hcalm => hheard (Session.calm_append.mp hcalm).2⟩
  · rw [Session.errands_append, hbefore.errands, herrands, List.nil_append]
  · rw [Session.complaints_append, hbefore.complaints, hcomplaints, List.nil_append]

end Performance

namespace Poller

/-- An attempt to run a unit ends as its run ends, or with what the unit throws when it is handed
its collectors. -/
inductive Attempts (conduct : Conduct E) (resources : Resources) (unit : TestUnit)
    (trace : List (Session.Exchange (World E))) : Except Thrown Outcome → Prop
  | ran {ended : Except Thrown Outcome}
      (hplayed : (conduct.run (resources.received unit.capabilities)).PlayedIn trace ended) :
      Attempts conduct resources unit trace ended
  | refused {thrown : Thrown} (hcollectors : unit.capabilities.collectors = true)
      (hthrown : ⟨.inl (.provide unit (.collectors resources.collectors)), .error thrown⟩ ∈ trace) :
      Attempts conduct resources unit trace (.error thrown)

variable {conduct : Conduct E} {resources : Resources} {unit : TestUnit} {guard entry : Nat}
  {network last : Network} {trace before after : List (Session.Exchange (World E))}
  {attempted result : Except Thrown Outcome}

private theorem Attempts.append (h : Attempts conduct resources unit before attempted)
    (hafter : Session.Uneventful after) :
    Attempts conduct resources unit (before ++ after) attempted := by
  cases h with
  | ran hplayed => exact .ran (hplayed.append hafter)
  | refused hcollectors hthrown => exact .refused hcollectors (List.mem_append_left _ hthrown)

private theorem attempts_of_performRun
    (h : (performRun conduct resources guard unit).Ends network trace result last) :
    ∃ attempted, Attempts conduct resources unit trace attempted ∧
      result = contain unit resources.device.serial attempted := by
  obtain ⟨attempted, hresult, ⟨hcollectors, -, thrown, rfl, rfl⟩ | ⟨rest, rfl, hplay⟩⟩ :=
    ends_performRun h
  · exact ⟨_, .refused hcollectors List.mem_cons_self, hresult⟩
  · exact ⟨attempted, .ran ((playedIn_play hplay).of_uneventful_append uneventful_handover),
      hresult⟩

/-- If no listener throws, to execute a unit is to attempt its run; the runs it left open are closed
without anything being thrown. -/
theorem attempts_of_execute
    (h : (execute conduct resources entry unit).Ends network trace result last)
    (hheeded : Session.Heeded trace) :
    ∃ attempted, Attempts conduct resources unit trace attempted ∧
      result = contain unit resources.device.serial attempted := by
  obtain ⟨_, performed, ended, _, closing, rfl, hperformed, huneventful, -, hended⟩ :=
    ends_execute h
  obtain rfl := hended (Session.heeded_append.mp hheeded).2
  obtain ⟨attempted, hattempts, hresult⟩ := attempts_of_performRun hperformed
  exact ⟨attempted, hattempts.append huneventful, hresult⟩

end Poller

/-- What follows an attempt to run a unit: only a lost device and what is no standard exception keep
the poller from going on. -/
def Phase.afterAttempt (recovers : Bool) (unit : TestUnit) : Except Thrown Outcome → Phase
  | .ok (.ok ()) | .error (.standard _) => .seekingGated
  | .ok (.error error) =>
    if error.isDeviceLoss then
      if recovers then .recovering unit error else .leaving (.ok (.error error))
    else .seekingGated
  | .error .other => .leaving (.error .other)

/-- Once what a unit threw is contained, the poller goes on as after the attempt. -/
theorem Phase.afterRun_contain {recovers : Bool} {unit : TestUnit} {serial : String}
    (attempted : Except Thrown Outcome) :
    afterRun recovers unit (Poller.contain unit serial attempted) =
      afterAttempt recovers unit attempted := by
  rcases attempted with (what | _) | (error | ⟨⟨⟩⟩) <;> rfl

namespace Phase

variable {phase next fallback : Phase}

private theorem Seeks.started_eq (h : phase.Seeks fallback) : phase.started = [] := by
  cases h <;> rfl

private theorem Seeks.dropped_eq (h : phase.Seeks fallback) : phase.dropped next = [] := by
  cases h <;> rfl

/-- The phase that follows tells which unit was dropped. -/
theorem Handles.dropped_eq {conducts : Conducts E} {trace : List (Session.Exchange (World E))}
    {dropped : List TestUnit} (h : phase.Handles conducts trace next dropped) :
    dropped = phase.dropped next := by
  cases h with
  | crashed hphase hcause => rcases hphase with rfl | ⟨unit, rfl⟩ | ⟨unit, rfl⟩ <;> rfl
  | _ => rfl

end Phase

namespace Station

/-- What a step of a poller does to the unit it has in hand, and the unit to the poller. -/
structure Contains (conducts : Conducts E) (trace : List (Session.Exchange (World E)))
    (first last : Station) : Prop where
  /-- A unit that takes its dependencies is run or dropped as the validation of its options says. -/
  dispatched : ∀ unit, first.poller.phase = .dispatching unit →
    Unequipped unit trace last.poller.phase ∨
      last.poller.phase = .afterValidation unit ((conducts unit).validate "validation" unit.name)
  /-- How an attempt to run the unit ends decides how the poller goes on. -/
  executed : ∀ unit, first.poller.phase = .executing unit → ∃ attempted,
    Poller.Attempts (conducts unit) first.poller.resources unit trace attempted ∧
      last.poller.phase =
        .afterAttempt first.poller.resources.recovery.isSome unit attempted
  recovered : ∀ unit error, first.poller.phase = .recovering unit error →
    last.poller.phase = .seekingGated ∨ last.poller.phase = .leaving (.ok (.error error))
  /-- A poller that goes on looks for the next unit. -/
  sought : ∀ fallback, first.poller.phase.Seeks fallback → ∃ found,
    first.floor.pool.Withdraws found last.floor.pool ∧
      last.poller.withdrawn = first.poller.withdrawn ++ found.toList ∧
      last.poller.phase = found.elim fallback .dispatching
  wired : first.poller.phase = .wiringCollectors →
    last.poller.phase = .seekingGated ∨ ∃ thrown, last.poller.phase = .leaving (.error thrown)
  run : last.poller.executed = first.poller.executed ++ first.poller.phase.started
  dropped : last.poller.dropped =
    first.poller.dropped ++ first.poller.phase.dropped last.poller.phase

variable {conducts : Conducts E} {first last : Station}
  {trace : List (Session.Exchange (World E))}

/-- A unit is noted as run when its run begins. -/
theorem Move.executed_eq (h : first.Move conducts trace last) :
    last.poller.executed = first.poller.executed ++ first.poller.phase.started := by
  cases h with
  | seek hphase hwithdraws hvain huneventful => rw [hphase.started_eq, List.append_nil]
  | handle hhandles => rfl
  | signOut hphase huneventful => rw [hphase]; exact (List.append_nil _).symm
  | report hphase hdrained hreported hemptied => rw [hphase]; exact (List.append_nil _).symm
  | rest hphase huneventful => rw [hphase]; exact (List.append_nil _).symm

/-- A unit is noted as dropped when the poller goes on without having run it. -/
theorem Move.dropped_eq (h : first.Move conducts trace last) :
    last.poller.dropped =
      first.poller.dropped ++ first.poller.phase.dropped last.poller.phase := by
  cases h with
  | seek hphase hwithdraws hvain huneventful => rw [hphase.dropped_eq, List.append_nil]
  | handle hhandles => rw [← hhandles.dropped_eq]
  | signOut hphase huneventful => rw [hphase]; exact (List.append_nil _).symm
  | report hphase hdrained hreported hemptied => rw [hphase]; exact (List.append_nil _).symm
  | rest hphase huneventful => rw [hphase]; exact (List.append_nil _).symm

/-- Every step that no listener throws in contains the failures of the unit in hand. -/
theorem contains_of_step (hformed : first.floor.pool.WellFormed)
    (h : (first.step conducts).Path trace last) (hheeded : Session.Heeded trace) :
    first.Contains conducts trace last := by
  have hmove := move_of_step hformed h
  refine
    { dispatched := ?_
      executed := ?_
      recovered := ?_
      sought := ?_
      wired := ?_
      run := hmove.executed_eq
      dropped := hmove.dropped_eq }
  all_goals
    obtain ⟨result, mid, hact, rfl⟩ := ends_of_step h
  · intro unit hphase
    rw [hphase] at hact
    exact (ends_dispatch hact).2.imp_right And.right
  · intro unit hphase
    rw [hphase] at hact
    obtain ⟨-, ran, run, after, network, rfl, ⟨hafter, -⟩, hexecute, hnext⟩ := ends_execute hact
    obtain ⟨attempted, hattempts, rfl⟩ :=
      Poller.attempts_of_execute hexecute (Session.heeded_append.mp hheeded).1
    exact ⟨attempted, hattempts.append hafter, hnext.trans (Phase.afterRun_contain attempted)⟩
  · intro unit error hphase
    rw [hphase] at hact
    exact (ends_recover hact).2.2
  · intro fallback hseeks
    generalize first.poller.phase = phase at hseeks hact
    cases hseeks with
    | gated =>
      obtain ⟨found, pool, hwithdraws, -, -, rfl, rfl⟩ := ends_seekGated hformed hact
      exact ⟨found, hwithdraws, rfl, rfl⟩
    | generic =>
      obtain ⟨found, pool, hwithdraws, -, -, rfl, _, _, _, rfl⟩ := ends_seekGeneric hformed hact
      exact ⟨found, hwithdraws, rfl, rfl⟩
  · intro hphase
    rw [hphase] at hact
    obtain ⟨-, rfl | ⟨thrown, rfl⟩⟩ := backstage_wireCollectors hact
    · exact .inl rfl
    · exact .inr ⟨thrown, rfl⟩

end Station

end Fleet
