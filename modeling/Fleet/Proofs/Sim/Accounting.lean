import Fleet.Proofs.Crew.Providers
import Fleet.Proofs.Invocation.Run
import Fleet.Proofs.Sim.Hosting
import Fleet.Proofs.Sim.Play
import Fleet.Proofs.Sim.Setup

/-!
# The totals of the simulator program

Whatever the sizes of the simulated fleet, whichever runners are allowed and in whatever order the
pollers take their steps, the summary of a simulation tallies with what became of the units: it
counts one run for each unit, and of these as many failed as units were reported as never run and
devices dropped.
-/

namespace Fleet

/-- The units withdrawn in a play of an invocation need no tokens without providers. -/
theorem Invocation.providable_of_play {E : Interface} {conducts : Conducts E}
    {plan : InvocationPlan} {context : Context} {units : List (Option TestUnit)}
    {schedule : List Nat} {trace : List (Session.Exchange (World E))} {last : Invocation}
    (hpresent : ∀ entry ∈ context.allocation, entry.1.isSome = true)
    (hplay : ((plan.start context units).play conducts schedule).Path trace last) :
    ∀ seat ∈ last.seats, ∀ unit ∈ seat.poller.withdrawn,
      Providable plan.registry unit.tokens := by
  intro seat hseat unit hunit
  obtain ⟨inner, crew, hcrew, hmirrors, -⟩ := (InvocationPlan.mirrors_start hpresent).play hplay
  have hstart : (plan.crew context units).Providing plan.registry := by
    refine ⟨WorkPool.wellFormed_ofUnits, rfl, fun other hother => ?_,
      fun poller hpoller other hother => ?_⟩
    · exact (List.mem_filter.mp (WorkPool.mem_generic_ofUnits.mp hother)).2
    · obtain ⟨resources, -, rfl⟩ := List.mem_map.mp hpoller
      cases hother
  refine (hstart.play hcrew).withdrawn seat.poller ?_ unit hunit
  rw [hmirrors.pollers]
  exact List.mem_map_of_mem hseat

namespace Sim

variable {rank : TestUnit → Nat} {settings : Settings} {schedule : List Nat}
  {trace : List (Session.Exchange (World Backstage))} {talk : List (Session.Exchange host)}
  {last : Invocation} {simulation : Simulation}

/-- No provider of the program knows the token that the needy units require. -/
theorem not_providable {tokens : Names} (h : tokens.contains "nfc" = true) :
    ¬ Providable (plan rank settings.recoveryWaitMs).registry tokens := by
  have hmem : "nfc" ∈ tokens.toList := List.contains_iff_mem.mp h
  rintro (hempty | ⟨known, hknown, hall⟩)
  · rw [List.isEmpty_iff.mp hempty] at hmem
    cases hmem
  · obtain rfl := Option.some.inj hknown
    exact hall "nfc" hmem rfl

/-- The invocation of the program before the first step. -/
def invocation (rank : TestUnit → Nat) (settings : Settings) : Invocation :=
  (plan rank settings.recoveryWaitMs).start (context (devices settings.simDevices))
    ((pooled settings).map some)

/-- The invocation of the program with its pollers taking steps as a schedule says. -/
def invokeInOrder (rank : TestUnit → Nat) (schedule : List Nat) (settings : Settings) :
    Work Backstage Invocation :=
  throughFan ((invocation rank settings).play (pooledConducts settings) schedule)

private theorem invoke_eq : invoke rank settings =
    throughFan ((plan rank settings.recoveryWaitMs).run (pooledConducts settings)
      (some (context (devices settings.simDevices))) true ((pooled settings).map some)) :=
  bind_congr fun _ => rfl

/-- The device that was about to drop is not any more. -/
def Simulation.tookDrop (first last : Simulation) : Bool :=
  first.devices.any (·.dropping) && !last.devices.any (·.dropping)

/-- The summary of a simulation counts one run for each unit. As many of them failed as units were
reported as never run, and one more if the drop was taken. The units whose token no device holds are
among those that were reported. -/
structure Tallies (settings : Settings) (last : Invocation) (simulation : Simulation) : Prop where
  runs : simulation.summary.runs = settings.simUnits.toNat + 1
  failedRuns : simulation.summary.failedRuns =
    (pooled settings).countP (· ∈ last.reported) +
      if (start settings).tookDrop simulation then 1 else 0
  needy : ∀ unit ∈ pooled settings, unit.tokens.contains "nfc" = true → unit ∈ last.reported

private theorem drops_eq (hreplies : Replies (start settings) trace simulation) :
    drops (Session.dealings trace) = if (start settings).tookDrop simulation then 1 else 0 := by
  have hany (devices : List SimDevice) :
      devices.any (·.dropping) = decide (0 < devices.countP (·.dropping)) := by
    rw [Bool.eq_iff_iff, List.any_eq_true, decide_eq_true_iff, List.countP_pos_iff]
  have hdrops := hreplies.drops (serials_start settings)
  have hone : (start settings).devices.countP (·.dropping) ≤ 1 := by
    rw [countP_start]
    split <;> omega
  rw [Simulation.tookDrop, hany, hany]
  simp only [Bool.and_eq_true, Bool.not_eq_true', decide_eq_true_iff, decide_eq_false_iff_not]
  split <;> omega

/-- The units in the pool at first are those of the program. -/
theorem perm_units_start (rank : TestUnit → Nat) (settings : Settings) :
    (invocation rank settings).floor.pool.units.Perm (pooled settings) := by
  refine (List.perm_ext_iff_of_nodup InvocationPlan.wellFormed_start.units_nodup
    (nodup_pooled settings)).mpr fun unit => ?_
  refine InvocationPlan.mem_units_start.trans ?_
  simp

/-- There is a device to run on. -/
theorem allocated (hdevices : 1 ≤ settings.simDevices) :
    (context (devices settings.simDevices)).allocation ≠ [] := by
  refine allocation_ne_nil (List.ne_nil_of_length_pos ?_)
  rw [length_devices]
  omega

/-- With enough turns for each device, the invocation gets over. -/
theorem over_of_fair
    (hplay : ((invocation rank settings).play (pooledConducts settings) schedule).Path trace last)
    (hfair : ∀ index < settings.simDevices.toNat,
      8 * (settings.simUnits.toNat + 1) + 6 ≤ schedule.count index) : last.Over := by
  have hsize : (invocation rank settings).floor.pool.size = settings.simUnits.toNat + 1 := by
    rw [← length_pooled settings, ← (perm_units_start rank settings).length_eq]
    exact List.length_append.symm
  have hseats := length_context_le (devices settings.simDevices)
  rw [length_devices] at hseats
  refine Invocation.over_of_fair hplay fun index hindex => ?_
  change 8 * (invocation rank settings).floor.pool.size + 6 ≤ _
  rw [hsize]
  exact hfair index (Nat.lt_of_lt_of_le hindex hseats)

/-- If a simulation answers what a play of the invocation tells, its summary tallies. -/
theorem tallies_of_play {inner : List (Session.Exchange (World Backstage))}
    (hdevices : 1 ≤ settings.simDevices)
    (hplay : ((invocation rank settings).play (pooledConducts settings) schedule).Path inner last)
    (hover : last.Over) (hreplies : Replies (start settings) trace simulation)
    (hgranted : Session.Granted inner) (hsent : Session.sent trace = Session.sent inner)
    (hdealings : Session.dealings trace = Session.dealings inner) :
    Tallies settings last simulation := by
  have hunits := perm_units_start rank settings
  have hnodup := hunits.nodup_iff.mpr (nodup_pooled settings)
  have hobliging : Obliging (module settings.allowlist) inner :=
    ⟨hgranted, hdealings ▸ hreplies.dealt, hdealings ▸ hreplies.finds⟩
  have hstart : Balanced (keeper settings) (pooledConducts settings)
      (invocation rank settings).floor.pool.units _ [] (invocation rank settings) :=
    .start (allocated hdevices) (present_context _) rfl
  have hlast := hstart.play hnodup
    (fun unit hunit => runsOnce_pooled settings unit (hunits.mem_iff.mp hunit)) hplay hobliging
  obtain ⟨hamounts, hunsent, hfates⟩ := hlast.totals hnodup hover
    (Invocation.closedLast_start.play hplay)
    fun unit hunit => reports_pooled settings unit (hunits.mem_iff.mp hunit)
  have hsummary := hreplies.summary (hdealings ▸ hunsent)
  rw [hsent] at hsummary
  constructor
  case runs =>
    rw [hsummary, hamounts.runs, hunits.length_eq, length_pooled]
    exact Nat.zero_add _
  case failedRuns =>
    rw [hsummary, hamounts.failures, hunits.countP_eq, ← hdealings, drops_eq hreplies]
    exact Nat.zero_add _
  case needy =>
    intro unit hunit hneedy
    refine (hfates unit (hunits.mem_iff.mpr hunit)).resolve_right ?_
    rintro ⟨seat, hseat, hwithdrawn⟩
    exact not_providable hneedy
      (Invocation.providable_of_play (present_context _) hplay seat hseat unit hwithdrawn)

/-- The totals of the program, for every fleet of at least one device, every number of units, every
list of allowed runners and whatever the host answers. The pollers take their steps in any order, or
one poller after the other as the program lets them; given enough turns each of them is done in the
end. Then the summary has counted one run for each unit, the module among them. As many runs failed
as units were reported as never run, and one more if the simulated drop was taken, and each unit
whose token no device holds was reported. -/
theorem summary_tallies (rank : TestUnit → Nat) (settings : Settings)
    (hdevices : 1 ≤ settings.simDevices) :
    (∀ (schedule : List Nat) (talk : List (Session.Exchange host)) (last : Invocation)
        (simulation : Simulation),
      ((Simulation.play (invokeInOrder rank schedule settings)).run (start settings)).Path talk
        (last, simulation) →
      ((∀ index < settings.simDevices.toNat,
          8 * (settings.simUnits.toNat + 1) + 6 ≤ schedule.count index) → last.Over) ∧
        (last.Over → Tallies settings last simulation)) ∧
    ∀ (talk : List (Session.Exchange host)) (exit : Exit) (ended : Option Invocation)
        (simulation : Simulation),
      ((Simulation.play (invoke rank settings)).run (start settings)).Path talk
        ((exit, ended), simulation) →
      ∃ last, ended = some last ∧ last.Over ∧ Tallies settings last simulation := by
  constructor
  · intro schedule talk last simulation h
    obtain ⟨trace, hplay, hreplies⟩ := replies_of_throughFan h
    exact ⟨over_of_fair hplay, fun hover =>
      tallies_of_play hdevices hplay hover hreplies hreplies.granted rfl rfl⟩
  · intro talk exit ended simulation h
    rw [invoke_eq] at h
    obtain ⟨trace, hrun, hreplies⟩ := replies_of_throughFan h
    obtain ⟨message, before, inner, after, schedule, last, rfl, hended, hlogged, hplay, hconclude,
      hover⟩ := InvocationPlan.path_run (allocated hdevices) hrun
    have hunits : ((pooled settings).map some).filter (·.isSome) = (pooled settings).map some := by
      simp
    rw [hunits] at hplay
    -- Around the play of the pollers nothing shows to a listener.
    have hbefore : Session.deeds before = [] :=
      (Session.Asks.logLine (World.quiet_log (E := Backstage) (by decide))).deeds hlogged
    have hafter : Session.deeds after = [] := InvocationPlan.quiet_conclude.deeds hconclude
    have hinner : Session.Granted inner :=
      (List.forall_mem_append.mp (List.forall_mem_append.mp hreplies.granted).2).1
    have hsent : Session.sent (before ++ (inner ++ after)) = Session.sent inner := by
      simp [Session.sent_of_deeds_nil hbefore, Session.sent_of_deeds_nil hafter]
    have hdealings : Session.dealings (before ++ (inner ++ after)) = Session.dealings inner := by
      simp [Session.dealings_of_deeds_nil hbefore, Session.dealings_of_deeds_nil hafter]
    exact ⟨last, hended, hover,
      tallies_of_play hdevices hplay hover hreplies hinner hsent hdealings⟩

/-- Two devices that take turns at five units and the module. One unit meets the drop, and nobody
holds the token of another one. -/
theorem summary_tallies_two_devices :
    let settings : Settings :=
      { recoveryWaitMs := 1000, logPath := "/logs", logLevel := "info", allowlist := .empty,
        simDevices := 2, simUnits := 5 }
    let schedule := (List.replicate 54 [0, 1]).flatten
    1 ≤ settings.simDevices ∧
    (∃ (talk : List (Session.Exchange host)) (last : Invocation) (simulation : Simulation),
      ((Simulation.play (invokeInOrder WorkPool.asGiven schedule settings)).run
        (start settings)).Path talk (last, simulation) ∧
      last.Over ∧ Tallies settings last simulation ∧ simulation.summary.failedRuns = 2) ∧
    ∃ (talk : List (Session.Exchange host)) (exit : Exit) (last : Invocation)
        (simulation : Simulation),
      ((Simulation.play (invoke WorkPool.asGiven settings)).run (start settings)).Path talk
        ((exit, some last), simulation) ∧
      last.Over ∧ Tallies settings last simulation := by
  intro settings schedule
  let answer : (question : host.Question) → host.Answer question
    | .log _ | .print _ => ()
    | .clock => 0
    | .createFolders _ => .ok ()
    | .isFolder _ => true
    | .write .. => .written
    | .absolute path => path
  have hdevices : 1 ≤ settings.simDevices := by decide
  obtain ⟨hplayed, hrun⟩ := summary_tallies WorkPool.asGiven settings hdevices
  refine ⟨hdevices, ?_, ?_⟩
  · let session :=
      (Simulation.play (invokeInOrder WorkPool.asGiven schedule settings)).run (start settings)
    let course := session.converse answer
    have hfailed : course.2.2.summary.failedRuns = 2 := by decide +kernel
    obtain ⟨talk, ⟨last, simulation⟩, hpath, hfailed⟩ :
        ∃ talk result, session.Path talk result ∧ result.2.summary.failedRuns = 2 :=
      ⟨course.1, course.2, Session.path_converse answer session, hfailed⟩
    obtain ⟨hfair, htallies⟩ := hplayed schedule talk last simulation hpath
    have hover : last.Over := hfair (by decide)
    exact ⟨talk, last, simulation, hpath, hover, htallies hover, hfailed⟩
  · let session := (Simulation.play (invoke WorkPool.asGiven settings)).run (start settings)
    obtain ⟨talk, ⟨⟨exit, ended⟩, simulation⟩, hpath⟩ : ∃ talk result, session.Path talk result :=
      ⟨_, _, Session.path_converse answer session⟩
    obtain ⟨last, rfl, hover, htallies⟩ := hrun talk exit ended simulation hpath
    exact ⟨talk, exit, last, simulation, hpath, hover, htallies⟩

end Sim

end Fleet
