import Fleet.Proofs.Pool.Dispatch
import Fleet.Proofs.Pool.Gating
import Fleet.Proofs.Poller.Move

/-!
# The reasons units are given

A unit that never ran may be told why. Only the final report tells, and it has two things to tell:
to a unit that some device turned down, that no device holds its tokens, and to any other unit
nothing. Whoever is on record as having turned a unit down did not satisfy its tokens when asked.
-/

namespace Fleet

variable {E : Interface}

/-- What a unit is told when it is asked to report that it did not run. -/
structure Notice where
  unit : TestUnit
  reason : String
  deriving DecidableEq

/-- The notices repeated in a conversation, if `told` says which errands repeat one. -/
def Session.notices {P : Interface} (told : E.Question → Option Notice)
    (trace : List (Exchange (P.sum E))) : List Notice :=
  (errands trace).filterMap told

/-- The unit repeats no notice in its runs, and in its reports only the one it is given. -/
structure Conduct.Explains (told : E.Question → Option Notice) (unit : TestUnit)
    (conduct : Conduct E) : Prop where
  run : ∀ received played result, (conduct.run received).Path played result →
    Session.notices told played = []
  report : ∀ reason played result, (conduct.reportNotExecuted reason).Path played result →
    ∀ notice ∈ Session.notices told played, notice = { unit, reason }

/-- The world in which all a unit does is to repeat its notices. -/
@[reducible] def Interface.noticeboard : Interface where
  Question := Notice
  Answer _ := Unit

/-- A unit that ends its runs in one way and repeats its notices when it reports. -/
def Conduct.explaining (outcome : Except Thrown Outcome) (unit : TestUnit) :
    Conduct .noticeboard where
  options := .ok []
  run _ := .done outcome
  reportNotExecuted reason := .ask (.inr { unit, reason }) fun _ => .done (.ok ())

/-- An explaining unit repeats the reason it is given. -/
theorem Conduct.explains_explaining {outcome : Except Thrown Outcome} {unit : TestUnit} :
    (explaining outcome unit).Explains some unit where
  run received played result h := by
    obtain ⟨rfl, -⟩ := Session.path_done.mp h
    rfl
  report reason played result h := by
    obtain ⟨_, _, rfl, hdone⟩ := Session.path_ask.mp h
    obtain ⟨rfl, -⟩ := Session.path_done.mp hdone
    exact fun notice hnotice => List.mem_singleton.mp hnotice

/-- Every notice repeated by the question is `fair`. -/
def World.Telling (told : E.Question → Option Notice) (fair : Notice → Prop) :
    (World E).Question → Prop
  | .inl _ => True
  | .inr errand => ∀ notice ∈ told errand, fair notice

variable {told : E.Question → Option Notice} {fair : Notice → Prop}

private theorem World.telling_of_quiet {question : (World E).Question}
    (h : World.Quiet question) : World.Telling told fair question := by
  cases question with
  | inl asked => trivial
  | inr errand => exact h.elim

private theorem World.Telling.mono {other : Notice → Prop} {question : (World E).Question}
    (h : World.Telling told fair question) (hfair : ∀ notice, fair notice → other notice) :
    World.Telling told other question := by
  cases question with
  | inl asked => trivial
  | inr errand => exact fun notice hnotice => hfair notice (h notice hnotice)

/-- The notices of a conversation are those its questions repeat. -/
theorem Session.forall_telling {trace : List (Session.Exchange (World E))} :
    (∀ exchange ∈ trace, World.Telling told fair exchange.question) ↔
      ∀ notice ∈ notices told trace, fair notice := by
  induction trace with
  | nil => simp [notices]
  | cons exchange rest ih =>
    obtain ⟨question | errand, answer⟩ := exchange
    · rw [List.forall_mem_cons, ih]
      exact ⟨fun h => h.2, fun h => ⟨trivial, h⟩⟩
    · rw [List.forall_mem_cons, ih]
      have hnotices : notices told (⟨.inr errand, answer⟩ :: rest : List (Exchange (World E))) =
          (told errand).toList ++ notices told rest := by
        cases htold : told errand <;> simp [notices, errands, htold]
      rw [hnotices, List.forall_mem_append]
      simp [World.Telling, Option.mem_toList]

/-- What throws only what the outside throws repeats nothing. -/
theorem Flow.Routine.telling {S α : Type} {flow : Flow E S α} (h : flow.Routine) :
    flow.Asks (World.Telling told fair) := by
  refine Flow.asks_iff.mpr fun first trace result last hends => Session.forall_telling.mpr ?_
  rw [Session.notices, (h.uneventful hends).errands]
  exact List.forall_mem_nil _

namespace Poller

/-- A unit that plays repeats what its performance repeats. -/
theorem telling_play {α : Type} {listener : Nat} {performance : Performance E (Except Thrown α)}
    (h : ∀ played result, performance.Path played result →
      ∀ notice ∈ Session.notices told played, fair notice) :
    (play listener performance).Asks (World.Telling told fair) := by
  refine Flow.asks_iff.mpr fun first trace result last hends => ?_
  obtain ⟨played, hplayed, herrands, -, -⟩ := playedIn_play hends
  refine Session.forall_telling.mpr ?_
  rw [Session.notices, herrands]
  exact h played result hplayed

private theorem telling_execute {conduct : Conduct E} {resources : Resources} {entry : Nat}
    {unit : TestUnit} (h : conduct.Explains told unit) :
    (execute conduct resources entry unit).Asks (World.Telling told fair) := by
  refine Flow.asks_iff.mpr fun first trace result last hends => ?_
  obtain ⟨_, performed, ended, _, closing, rfl, hperformed, huneventful, -, -⟩ := ends_execute hends
  have hnothing : Session.notices told performed = [] := by
    obtain ⟨attempted, -, ⟨-, -, thrown, -, rfl⟩ | ⟨played, rfl, hplay⟩⟩ :=
      ends_performRun hperformed
    · rfl
    · obtain ⟨run, hrun, herrands, -, -⟩ := playedIn_play hplay
      rw [Session.notices, Session.errands_append, uneventful_handover.errands, herrands]
      exact h.run _ _ _ hrun
  refine List.forall_mem_append.mpr ⟨Session.forall_telling.mpr ?_, Session.forall_telling.mpr ?_⟩
  · rw [hnothing]
    exact List.forall_mem_nil _
  · rw [Session.notices, huneventful.errands]
    exact List.forall_mem_nil _

end Poller

namespace WorkPool

variable {pool rest : WorkPool} {unit : TestUnit} {serial : String} {device : Device}

/-- The pool justifies what is told: a reason is given only to units some device turned down. -/
def Warrants (pool : WorkPool) (notice : Notice) : Prop :=
  notice.reason = "" ∨
    notice.reason = Station.noTokenReason notice.unit.tokens ∧ notice.unit ∈ pool.rejected

/-- Nothing is on record in the second pool that is not on record in the first one. -/
def Forgets (pool rest : WorkPool) : Prop :=
  ∀ unit serial, (rest.rejectedBy unit).contains serial → (pool.rejectedBy unit).contains serial

private theorem serialsOf_eq_empty {rejections : Rejections} (h : unit ∉ rejections.units) :
    rejections.serialsOf unit = .empty := by
  induction rejections with
  | nil => rfl
  | cons entry others ih =>
    obtain ⟨hne, hothers⟩ := List.ne_and_not_mem_of_not_mem_cons h
    rw [Rejections.serialsOf, if_neg (Ne.symm hne)]
    exact ih hothers

private theorem mem_rejected_of_rejectedBy (h : (pool.rejectedBy unit).contains serial) :
    unit ∈ pool.rejected := by
  by_contra hnot
  rw [rejectedBy, serialsOf_eq_empty hnot] at h
  cases h

/-- What is on record is about units that are still in the pool. -/
theorem WellFormed.mem_gated_of_rejectedBy (hformed : pool.WellFormed)
    (h : (pool.rejectedBy unit).contains serial) : unit ∈ pool.gated :=
  hformed.rejections_fit.units_gated unit (mem_rejected_of_rejectedBy h)

/-- A unit that was turned down was turned down by some device. -/
theorem WellFormed.exists_rejectedBy (hformed : pool.WellFormed) (h : unit ∈ pool.rejected) :
    ∃ serial, (pool.rejectedBy unit).contains serial := by
  have hentry := hformed.rejections_fit.nonempty _ (Rejections.mem_of_mem_units h)
  obtain ⟨serial, hserial⟩ := List.exists_mem_of_ne_nil _ (List.isEmpty_eq_false_iff.mp hentry)
  exact ⟨serial, List.contains_iff_mem.mpr hserial⟩

private theorem Leaves.forgets (h : pool.Leaves rest) : pool.Forgets rest := by
  intro unit serial hserial
  obtain rfl | ⟨erased, rfl⟩ | rfl := h
  · exact hserial
  · by_cases hunit : unit = erased
    · have hnot : unit ∉ (pool.rejections.forget erased).units := by
        rw [Rejections.units_forget, List.mem_filter]
        simp [hunit]
      rw [rejectedBy, eraseGated, serialsOf_eq_empty hnot] at hserial
      cases hserial
    · rwa [rejectedBy, eraseGated, Rejections.serialsOf_forget hunit] at hserial
  · rw [pollGeneric] at hserial
    split at hserial <;> exact hserial

end WorkPool

namespace Station

variable {conducts : Conducts E} {station first last : Station} {unit : TestUnit}
  {trace : List (Session.Exchange (World E))} {result : Except Thrown Unit}
  {holds : Device → String → Bool}

private theorem telling_log {level : LogLevel} {event message : String} :
    (log (E := E) level event message).Asks (World.Telling told fair) :=
  asks_log fun _ _ => trivial

private theorem telling_reportUnit {reason : String} (h : (conducts unit).Explains told unit) :
    (reportUnit conducts unit reason).Asks (World.Telling told (· = { unit, reason })) := by
  unfold reportUnit
  split
  · exact .bind (.modify fun _ => trivial) fun _ =>
      Flow.Asks.within (Poller.telling_play (h.report reason))
  · exact .bind (.modify fun _ => trivial) fun _ => telling_log

/-- Rejected units are told that no device holds their tokens. -/
theorem telling_reportRejected {pool : WorkPool}
    (h : ∀ unit, (conducts unit).Explains told unit) :
    (reportRejected conducts pool).Asks (World.Telling told fun notice =>
      notice.reason = noTokenReason notice.unit.tokens ∧ notice.unit ∈ pool.rejected) := by
  refine obeys_reportRejected (fun _ _ => trivial) fun unit hunit =>
    (telling_reportUnit (h unit)).mono fun _ hquestion => hquestion.mono ?_
  rintro notice rfl
  exact ⟨rfl, hunit⟩

/-- The other units are told nothing. -/
theorem telling_reportRemaining {pool : WorkPool}
    (h : ∀ unit, (conducts unit).Explains told unit) :
    (reportRemaining conducts pool).Asks (World.Telling told (·.reason = "")) := by
  refine obeys_reportRemaining (fun _ _ => trivial) (fun unit =>
    (telling_reportUnit (h unit)).mono fun _ hquestion => hquestion.mono ?_) pool
  rintro notice rfl
  rfl

private theorem telling_reportNotExecuted (hexplains : ∀ unit, (conducts unit).Explains told unit)
    (h : (reportNotExecuted conducts).Ends first trace result last) :
    ∀ exchange ∈ trace, World.Telling told first.floor.pool.Warrants exchange.question := by
  have hwarrants : ∀ {part result mid},
      (reportRejected conducts first.floor.pool).Ends first part result mid →
      ∀ exchange ∈ part, World.Telling told first.floor.pool.Warrants exchange.question :=
    fun hrejected exchange hexchange =>
      ((telling_reportRejected hexplains hrejected).asked exchange hexchange).mono fun _ => .inr
  rw [reportNotExecuted, Flow.ends_get_bind] at h
  rcases Flow.ends_bind.mp h with
    ⟨thrown, hrejected, -⟩ | ⟨⟨⟩, before, after, mid, rfl, hrejected, hremaining⟩
  · exact hwarrants hrejected
  · rw [Flow.ends_get_bind] at hremaining
    have hasked := (telling_reportRemaining hexplains hremaining).asked
    exact List.forall_mem_append.mpr ⟨hwarrants hrejected, fun exchange hexchange =>
      (hasked exchange hexchange).mono fun _ => .inl⟩

/-- The final report gives the reasons the pool justifies. -/
theorem telling_finalReport (hexplains : ∀ unit, (conducts unit).Explains told unit)
    (h : (finalReport conducts).Ends first trace result last) :
    ∀ exchange ∈ trace, World.Telling told first.floor.pool.Warrants exchange.question := by
  obtain ⟨attempted, reported, logged, mid, rfl, hreport, hrest⟩ := Flow.ends_attempt_bind.mp h
  refine List.forall_mem_append.mpr ⟨telling_reportNotExecuted hexplains hreport, ?_⟩
  rcases attempted with (what | _) | ⟨⟨⟩⟩
  · exact (telling_log hrest).asked
  · exact (telling_log hrest).asked
  · obtain ⟨rfl, -, -⟩ := Flow.ends_pure.mp hrest
    exact List.forall_mem_nil _

private theorem telling_transition {next : PollerState} :
    (transition (E := E) next).Asks (World.Telling told fair) :=
  misstep_transition.mono fun _ hmisstep => World.telling_of_quiet hmisstep.inquiring.quiet

private theorem telling_dispatch : (dispatch conducts unit).Asks (World.Telling told fair) := by
  refine .bind telling_transition fun _ => .bind .get fun _ =>
    .bind (.forM fun _ => .bind (.request trivial) fun _ => .resume _) fun _ => .bind (.resume _) ?_
  intro outcome
  cases outcome with
  | error error =>
    exact .bind (.modify fun _ => trivial) fun _ => .bind telling_log fun _ =>
      .bind telling_transition fun _ => .pure _
  | ok _ => exact .bind telling_transition fun _ => .pure _

private theorem telling_execute (h : (conducts unit).Explains told unit) :
    (execute conducts unit).Asks (World.Telling told fair) := by
  have hproceed : (proceed (E := E)).Asks (World.Telling told fair) :=
    .bind telling_transition fun _ => .pure _
  refine .bind (.modify fun _ => trivial) fun _ => .bind .get fun _ =>
    .bind (Flow.Asks.within (Poller.telling_execute h)) ?_
  intro outcome
  cases outcome with
  | ok _ => exact hproceed
  | error error =>
    dsimp only
    split
    · exact .bind telling_log fun _ => hproceed
    · split
      · exact .pure _
      · exact .bind telling_transition fun _ => .pure _
    · exact .bind telling_log fun _ => hproceed

private theorem telling_signOut {exit : Exit} :
    (signOut (E := E) exit).Asks (World.Telling told fair) := by
  refine Flow.asks_iff.mpr fun first trace result last h => ?_
  obtain ⟨rfl, -, -⟩ := ends_signOut h
  exact List.forall_mem_nil _

/-- Only the final report tells units anything, and it gives the reasons the pool justifies. -/
theorem notices_of_step (hexplains : ∀ unit, (conducts unit).Explains told unit)
    (h : (station.step conducts).Path trace last) :
    ∀ notice ∈ Session.notices told trace,
      (∃ exit, station.poller.phase = .reporting exit) ∧ station.floor.pool.Warrants notice := by
  obtain ⟨result, mid, hact, -⟩ := ends_of_step h
  refine Session.forall_telling.mp ?_
  cases hphase : station.poller.phase with
  | reporting exit =>
    rw [hphase] at hact
    have hfinal : ∀ exchange ∈ trace,
        World.Telling told station.floor.pool.Warrants exchange.question := by
      rcases Flow.ends_bind.mp hact with
        ⟨thrown, hthrown, -⟩ | ⟨⟨⟩, _, _, _, rfl, hreported, hrest⟩
      · exact telling_finalReport hexplains hthrown
      · obtain ⟨rfl, -, -⟩ := Flow.ends_pure.mp hrest
        rw [List.append_nil]
        exact telling_finalReport hexplains hreported
    exact fun exchange hexchange => (hfinal exchange hexchange).mono fun _ hnotice =>
      ⟨⟨exit, rfl⟩, hnotice⟩
  | wiringCollectors =>
    rw [hphase] at hact
    exact (routine_wireCollectors.telling hact).asked
  | seekingGated =>
    rw [hphase] at hact
    intro exchange hexchange
    exact World.telling_of_quiet ((inquiring_seekGated hact).asked exchange hexchange).quiet
  | seekingGeneric =>
    rw [hphase] at hact
    intro exchange hexchange
    exact World.telling_of_quiet ((inquiring_seekGeneric hact).asked exchange hexchange).quiet
  | dispatching unit =>
    rw [hphase] at hact
    exact (telling_dispatch hact).asked
  | executing unit =>
    rw [hphase] at hact
    exact (telling_execute (hexplains unit) hact).asked
  | recovering unit error =>
    rw [hphase] at hact
    intro exchange hexchange
    exact World.telling_of_quiet ((tending_recover hact).asked exchange hexchange).quiet
  | leaving exit =>
    rw [hphase] at hact
    exact (telling_signOut hact).asked
  | left exit =>
    rw [hphase] at hact
    obtain ⟨rfl, -, -⟩ := Flow.ends_pure.mp hact
    exact List.forall_mem_nil _

section Record

variable {P : WorkPool → Prop}

/-- A unit is taken out and reported, and the pool is left at that if its report throws. -/
theorem invariant_drain {rest : WorkPool} {reason : String} {reportRest : Flow E Station Unit}
    (h : (do
      modify (putPool rest)
      reportUnit conducts unit reason
      reportRest : Flow E Station Unit).Ends first trace result last)
    (hrest : P rest)
    (hlater : ∀ mid trace, mid.floor.pool = rest → reportRest.Ends mid trace result last →
      P last.floor.pool) : P last.floor.pool := by
  rw [Flow.ends_modify_bind] at h
  rcases Flow.ends_bind.mp h with
    ⟨thrown, hreport, rfl⟩ | ⟨⟨⟩, before, after, mid, rfl, hreport, hdone⟩
  · rw [floor_of_reportUnit hreport]
    exact hrest
  · exact hlater mid after (by rw [floor_of_reportUnit hreport]; rfl) hdone

private theorem invariant_reportRejected (hkeep : ∀ pool, P pool → P pool.drainRejected.2)
    {pool : WorkPool} (hpool : first.floor.pool = pool) (hfirst : P pool)
    (h : (reportRejected conducts pool).Ends first trace result last) : P last.floor.pool := by
  induction hlength : pool.rejections.length using Nat.strongRecOn
    generalizing pool first trace with
  | ind length ih =>
    rw [reportRejected] at h
    split at h
    · obtain ⟨-, -, rfl⟩ := Flow.ends_pure.mp h
      exact hpool ▸ hfirst
    · rename_i unit rest hdrain
      have hrest : P rest := by simpa only [hdrain] using hkeep pool hfirst
      refine invariant_drain h hrest fun mid trace hmid hlater => ?_
      exact ih _ (hlength ▸ WorkPool.length_rejections_drainRejected hdrain) hmid hrest hlater rfl

private theorem invariant_reportRemaining (hkeep : ∀ pool, P pool → P pool.drainRemaining.2)
    {pool : WorkPool} (hpool : first.floor.pool = pool) (hfirst : P pool)
    (h : (reportRemaining conducts pool).Ends first trace result last) : P last.floor.pool := by
  induction hsize : pool.size using Nat.strongRecOn generalizing pool first trace with
  | ind size ih =>
    rw [reportRemaining] at h
    split at h
    · obtain ⟨-, -, rfl⟩ := Flow.ends_pure.mp h
      exact hpool ▸ hfirst
    · rename_i unit rest hdrain
      have hrest : P rest := by simpa only [hdrain] using hkeep pool hfirst
      refine invariant_drain h hrest fun mid trace hmid hlater => ?_
      exact ih _ (hsize ▸ WorkPool.size_drainRemaining hdrain) hmid hrest hlater rfl

/-- The final report turns down nothing. -/
theorem forgets_finalReport (h : (finalReport conducts).Ends first trace result last) :
    first.floor.pool.Forgets last.floor.pool := by
  obtain ⟨attempted, reported, logged, mid, rfl, hreport, hrest⟩ := Flow.ends_attempt_bind.mp h
  have hrejected : ∀ pool, first.floor.pool.Forgets pool →
      first.floor.pool.Forgets pool.drainRejected.2 :=
    fun _ hpool _ _ hserial => hpool _ _ (WorkPool.leaves_drainRejected.forgets _ _ hserial)
  have hremaining : ∀ pool, first.floor.pool.Forgets pool →
      first.floor.pool.Forgets pool.drainRemaining.2 :=
    fun _ hpool _ _ hserial => hpool _ _ (WorkPool.leaves_drainRemaining.forgets _ _ hserial)
  have hsame : first.floor.pool.Forgets first.floor.pool := fun _ _ hserial => hserial
  have hmid : first.floor.pool.Forgets mid.floor.pool := by
    rw [reportNotExecuted, Flow.ends_get_bind] at hreport
    rcases Flow.ends_bind.mp hreport with
      ⟨thrown, hthrown, -⟩ | ⟨⟨⟩, before, after, between, rfl, hfirst, hsecond⟩
    · exact invariant_reportRejected hrejected rfl hsame hthrown
    · rw [Flow.ends_get_bind] at hsecond
      exact invariant_reportRemaining hremaining rfl
        (invariant_reportRejected hrejected rfl hsame hfirst) hsecond
  rcases attempted with (what | _) | ⟨⟨⟩⟩
  · obtain ⟨-, rfl, -⟩ := ends_log hrest
    exact hmid
  · obtain ⟨-, rfl, -⟩ := ends_log hrest
    exact hmid
  · obtain ⟨-, -, rfl⟩ := Flow.ends_pure.mp hrest
    exact hmid

/-- What a step puts on record is that the poller's device does not satisfy a unit. -/
theorem recorded_of_step (hformed : station.floor.pool.WellFormed)
    (h : (station.step conducts).Path trace last)
    (hsteady : Steady station.floor.pool.registry holds trace) {serial : String}
    (hserial : (last.floor.pool.rejectedBy unit).contains serial) :
    (station.floor.pool.rejectedBy unit).contains serial ∨
      serial = station.poller.resources.device.serial ∧
        ¬Satisfies station.floor.pool.registry holds station.poller.resources.device
          unit.tokens := by
  have hmove := move_of_step hformed h
  have hunit : unit ∈ last.floor.pool.gated :=
    (hmove.formed hformed).mem_gated_of_rejectedBy hserial
  obtain ⟨result, mid, hact, hlast⟩ := ends_of_step h
  have hfloor : last.floor = mid.floor := by rw [hlast]; rfl
  rw [hfloor] at hserial hunit
  cases hphase : station.poller.phase with
  | seekingGated =>
    rw [hphase] at hact
    obtain ⟨found, pool, hpoll, -, rfl⟩ := path_of_seekGated hact
    exact (hformed.servesDevice_pollGated hpoll hsteady).turned unit hunit serial hserial
  | seekingGeneric =>
    rw [hphase] at hact
    obtain ⟨-, -, _, _, _, rfl⟩ := afterSeek_of_seekGeneric hact
    have hleaves : station.floor.pool.Leaves station.floor.pool.pollGeneric.2 := .inr (.inr rfl)
    exact .inl (hleaves.forgets unit serial hserial)
  | reporting exit =>
    rw [hphase] at hact
    rcases Flow.ends_bind.mp hact with
      ⟨thrown, hthrown, -⟩ | ⟨⟨⟩, _, _, _, rfl, hreported, hrest⟩
    · exact .inl (forgets_finalReport hthrown unit serial hserial)
    · obtain ⟨-, -, rfl⟩ := Flow.ends_pure.mp hrest
      exact .inl (forgets_finalReport hreported unit serial hserial)
  | _ =>
    have hpool := hmove.pool_eq (fun fallback hseeks => by rw [hphase] at hseeks; cases hseeks)
      (fun exit hreporting => by rw [hphase] at hreporting; cases hreporting)
    rw [← hfloor, hpool] at hserial
    exact .inl hserial

end Record

end Station

end Fleet
