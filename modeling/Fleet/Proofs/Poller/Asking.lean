import Fleet.Poller.Step
import Fleet.Proofs.Lifecycle
import Fleet.Proofs.Pool.WellFormed
import Fleet.Proofs.Recovery

/-!
# What pollers ask

Each phase of a poller has its own kind of questions. Units are handed something only when they are
dispatched, and their collectors just before they run; a device is looked after only when it is
recovered. In all other phases a poller does neither.
-/

namespace Fleet

variable {E : Interface}

/-- To note a refused step is to inquire. -/
theorem World.Misstep.inquiring {question : (World E).Question} (h : World.Misstep question) :
    World.Inquiring question := by
  rcases question with question | errand
  · cases question with
    | log entry =>
      have hevent : entry.event = "illegal_transition" := h
      exact show entry.event ≠ _ from hevent ▸ by decide
    | _ => cases h
  · cases h

private theorem World.Misstep.tending {question : (World E).Question} (h : World.Misstep question) :
    World.Tending question := by
  rcases question with question | errand
  · cases question <;> first | exact h.inquiring | cases h
  · cases h

/-- The question passes on what a unit does, or hands it something before it does it. -/
def World.Playing (question : (World E).Question) : Prop :=
  World.Relaying question ∨ ∃ unit dependency, question = .inl (.provide unit dependency)

private theorem World.Playing.uncaring {question : (World E).Question}
    (h : World.Playing question) :
    World.Uncaring question := by
  obtain hrelaying | ⟨unit, dependency, rfl⟩ := h
  · exact hrelaying.ordinary.uncaring
  · exact rfl

namespace Poller

variable {guard entry : Nat} {conduct : Conduct E} {resources : Resources} {unit : TestUnit}

/-- What is asked while a unit plays is asked by its listeners, but for its errands. -/
theorem relaying_play {α : Type} {listener : Nat}
    {performance : Performance E (Except Thrown α)} :
    (play listener performance).Asks World.Relaying :=
  obeys_play Network.delivery_relaying.sends (fun _ _ _ => Network.relaying_wrap)
    (fun _ => trivial) listener performance

private theorem playing_performRun :
    (performRun conduct resources guard unit).Asks World.Playing := by
  have hplay : (play guard (conduct.run (resources.received unit.capabilities))).Asks
      World.Playing := relaying_play.mono fun _ => .inl
  have hattempt : Flow.Asks World.Playing (do
      if unit.capabilities.collectors then
        Flow.resume (← Flow.request (.provide unit (.collectors resources.collectors)))
      play guard (conduct.run (resources.received unit.capabilities)) :
        Flow E Network Outcome) := by
    split
    · exact .bind (.request (.inr ⟨_, _, rfl⟩)) fun _ => .bind (.resume _) fun _ => hplay
    · exact hplay
  refine .bind hattempt.attempt ?_
  rintro ((what | _) | outcome)
  · exact .pure _
  · exact .resume (.error _)
  · exact .pure _

/-- To execute a unit is to hand it its collectors and to relay what it does. -/
theorem playing_execute : (execute conduct resources entry unit).Asks World.Playing := by
  refine .bind .get fun _ => .bind (.modify fun _ => trivial) fun _ =>
    .bind (.attempt ?_) fun _ => .bind (.modify fun _ => trivial) fun _ => .resume _
  refine .bind playing_performRun ?_
  intro outcome
  cases outcome with
  | error error =>
    have hclosing : ∀ guard, Flow.Asks (E := E) World.Relaying
        (closeOpenRuns guard unit resources.device.serial error) :=
      fun _ => Network.delivery_relaying.closeOpenRuns _ _ _ _
    exact .bind ((hclosing _).mono fun _ => .inl) fun _ => .pure _
  | ok _ => exact .pure _

end Poller

namespace Station

variable {conducts : Conducts E} {unit : TestUnit} {kind : (World E).Question → Prop}

/-- A step of the lifecycle is noted at most, if it may not be taken. -/
theorem misstep_transition {next : PollerState} :
    (transition (E := E) next).Asks World.Misstep := by
  refine .bind .get ?_
  intro station
  split
  · exact .modify fun _ => trivial
  · exact .bind .get fun _ => .log fun _ hevent => hevent

/-- A poller's log line is of the kind of its event. -/
theorem asks_log {level : LogLevel} {event message : String}
    (h : ∀ entry : LogEntry, entry.event = event → kind (.inl (.log entry))) :
    (log level event message).Asks kind :=
  .bind .get fun _ => .log h

private theorem ordinary_transition {next : PollerState} :
    (transition (E := E) next).Asks World.Ordinary :=
  misstep_transition.mono fun _ h => h.inquiring.ordinary

/-- To wire the collectors is to relay. -/
theorem relaying_wireCollectors : (wireCollectors (E := E)).Asks World.Relaying := by
  refine .bind .get fun _ => .bind (.forM fun _ => ?_) fun _ => .pure _
  exact .bind .get fun _ => .bind (Flow.Asks.within Network.relaying_wrap) fun _ =>
    .modify fun _ => trivial

/-- To look for a gated unit is to inquire. -/
theorem inquiring_seekGated : (seekGated (E := E)).Asks World.Inquiring := by
  have hpoll : ∀ station : Station, Session.Asks (World.Inquiring (E := E))
      (station.floor.pool.pollGated station.poller.resources.device) :=
    fun _ => WorkPool.browsing_pollGated.mono fun _ => World.Browsing.inquiring
  refine .bind .get fun _ => .bind (.work (hpoll _)) ?_
  rintro ⟨found, pool⟩
  refine .bind (.modify fun _ => trivial) ?_
  intro _
  cases found with
  | none => exact .pure _
  | some unit => exact .bind (.modify fun _ => trivial) fun _ => .pure _

/-- To look for a generic unit is to inquire. -/
theorem inquiring_seekGeneric : (seekGeneric (E := E)).Asks World.Inquiring := by
  refine .bind .get ?_
  intro station
  generalize station.floor.pool.pollGeneric = polled
  obtain ⟨found, pool⟩ := polled
  refine .bind (.modify fun _ => trivial) ?_
  intro _
  cases found with
  | none =>
    refine .bind (misstep_transition.mono fun _ => World.Misstep.inquiring) fun _ =>
      .bind .get fun _ => .bind (asks_log fun entry hevent => ?_) fun _ => .pure _
    exact show entry.event ≠ _ from hevent ▸ by decide
  | some unit => exact .bind (.modify fun _ => trivial) fun _ => .pure _

private theorem uncaring_dispatch : (dispatch conducts unit).Asks World.Uncaring := by
  refine .bind ordinary_transition.uncaring fun _ => .bind .get fun _ =>
    .bind (.forM fun _ => .bind (.request rfl) fun _ => .resume _) fun _ => .bind (.resume _) ?_
  intro outcome
  cases outcome with
  | error error =>
    exact .bind (.modify fun _ => trivial) fun _ => .bind (asks_log fun _ _ => rfl) fun _ =>
      .bind ordinary_transition.uncaring fun _ => .pure _
  | ok _ => exact .bind ordinary_transition.uncaring fun _ => .pure _

/-- To go on with the next unit is ordinary. -/
theorem ordinary_proceed : (proceed (E := E)).Asks World.Ordinary :=
  .bind ordinary_transition fun _ => .pure _

/-- To end the run of a poller is ordinary. -/
theorem ordinary_terminate {error : TaskError} :
    (terminate (E := E) error).Asks World.Ordinary :=
  .bind ordinary_transition fun _ => .pure _

private theorem uncaring_execute : (execute conducts unit).Asks World.Uncaring := by
  have hexecute : ∀ resources entry, (Poller.execute (conducts unit) resources entry unit).Asks
      World.Uncaring := fun _ _ => Poller.playing_execute.mono fun _ => World.Playing.uncaring
  refine .bind (.modify fun _ => trivial) fun _ => .bind .get fun _ =>
    .bind (Flow.Asks.within (hexecute _ _)) ?_
  intro outcome
  cases outcome with
  | ok _ => exact ordinary_proceed.uncaring
  | error error =>
    dsimp only
    split
    · exact .bind (asks_log fun _ _ => rfl) fun _ => ordinary_proceed.uncaring
    · split
      · exact .pure _
      · exact ordinary_terminate.uncaring
    · exact .bind (asks_log fun _ _ => rfl) fun _ => ordinary_proceed.uncaring

/-- To recover is to look after the device. -/
theorem tending_recover {error : TaskError} :
    (recover (E := E) unit error).Asks World.Tending := by
  have hmoves : ∀ next, (transition (E := E) next).Asks World.Tending :=
    fun _ => misstep_transition.mono fun _ => World.Misstep.tending
  refine .bind .get ?_
  intro station
  split
  · exact .bind (hmoves _) fun _ => .pure _
  · refine .bind (.work ?_) ?_
    · exact RecoveryPolicy.reviving_handleLoss.mono fun _ => World.Reviving.tending
    intro outcome
    cases outcome with
    | error error => exact .bind (hmoves _) fun _ => .pure _
    | ok _ => exact .bind (hmoves _) fun _ => .pure _

private theorem ordinary_signOut {exit : Exit} : (signOut (E := E) exit).Asks World.Ordinary := by
  refine .bind .get ?_
  intro station
  generalize station.floor.countDown = counted
  obtain ⟨zero, floor⟩ := counted
  refine .bind (.modify fun _ => trivial) ?_
  intro _
  cases zero with
  | true => exact .bind (.modify fun _ => trivial) fun _ => .pure _
  | false => exact .pure _

private theorem relaying_reportUnit {message : String} :
    (reportUnit conducts unit message).Asks World.Relaying := by
  unfold reportUnit
  split
  · exact .bind (.modify fun _ => trivial) fun _ => Flow.Asks.within Poller.relaying_play
  · exact .bind (.modify fun _ => trivial) fun _ => asks_log (World.relaying_log (by decide))

section FinalReport

variable {law : Flow.Law E Station}

/-- The first half of the final report obeys a law that lets rejected units be taken out of the pool
and told that no device holds their tokens. -/
theorem obeys_reportRejected (hput : ∀ pool station, law.moves station (putPool pool station))
    {pool : WorkPool} (hreport : ∀ unit ∈ pool.rejected,
      (reportUnit conducts unit (noTokenReason unit.tokens)).Obeys law) :
    (reportRejected conducts pool).Obeys law := by
  induction hlength : pool.rejections.length using Nat.strongRecOn generalizing pool with
  | ind length ih =>
    rw [reportRejected]
    split
    · exact .pure _
    · rename_i unit rest hdrain
      obtain ⟨hunit, hrest⟩ := WorkPool.mem_rejected_of_drainRejected hdrain
      refine .bind (.modify (hput rest)) fun _ => .bind (hreport unit hunit) fun _ => ?_
      exact ih _ (hlength ▸ WorkPool.length_rejections_drainRejected hdrain)
        (fun other hother => hreport other (hrest hother)) rfl

/-- The second half obeys a law that lets units be taken out of the pool and reported without a
reason. -/
theorem obeys_reportRemaining (hput : ∀ pool station, law.moves station (putPool pool station))
    (hreport : ∀ unit, (reportUnit conducts unit "").Obeys law) (pool : WorkPool) :
    (reportRemaining conducts pool).Obeys law := by
  induction hsize : pool.size using Nat.strongRecOn generalizing pool with
  | ind size ih =>
    rw [reportRemaining]
    split
    · exact .pure _
    · rename_i unit rest hdrain
      refine .bind (.modify (hput rest)) fun _ => .bind (hreport unit) fun _ => ?_
      exact ih _ (hsize ▸ WorkPool.size_drainRemaining hdrain) rest rfl

/-- The final report obeys a law that lets units be taken out of the pool and reported. -/
theorem obeys_finalReport (hput : ∀ pool station, law.moves station (putPool pool station))
    (hreport : ∀ unit message, (reportUnit conducts unit message).Obeys law)
    (hlog : ∀ message,
      (log (E := E) .error "report_not_executed_failed" message).Obeys law) :
    (finalReport conducts).Obeys law := by
  have hreports : (reportNotExecuted conducts).Obeys law :=
    .bind .get fun _ => .bind (obeys_reportRejected hput fun unit _ => hreport unit _) fun _ =>
      .bind .get fun _ => obeys_reportRemaining hput (fun unit => hreport unit _) _
  refine .bind hreports.attempt ?_
  rintro ((what | _) | _)
  · exact hlog _
  · exact hlog _
  · exact .pure _

end FinalReport

/-- The final report relays what the units report. -/
theorem relaying_finalReport : (finalReport conducts).Asks World.Relaying :=
  obeys_finalReport (fun _ _ => trivial) (fun _ _ => relaying_reportUnit)
    fun _ => asks_log (World.relaying_log (by decide))

/-- Only the recovery of a device looks after it. -/
theorem uncaring_act {phase : Phase} (h : ∀ unit error, phase ≠ .recovering unit error) :
    (act conducts phase).Asks World.Uncaring := by
  cases phase with
  | wiringCollectors => exact relaying_wireCollectors.ordinary.uncaring
  | seekingGated => exact (inquiring_seekGated.mono fun _ => World.Inquiring.ordinary).uncaring
  | seekingGeneric =>
    exact (inquiring_seekGeneric.mono fun _ => World.Inquiring.ordinary).uncaring
  | dispatching unit => exact uncaring_dispatch
  | executing unit => exact uncaring_execute
  | recovering unit error => exact absurd rfl (h unit error)
  | leaving exit => exact ordinary_signOut.uncaring
  | reporting exit => exact .bind relaying_finalReport.ordinary.uncaring fun _ => .pure _
  | left exit => exact .pure _

end Station

end Fleet
