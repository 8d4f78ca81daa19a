import Fleet.Proofs.Crew.Exhaustion
import Fleet.Proofs.Invocation.Forwarding
import Fleet.Proofs.Invocation.Run

/-!
# What an invocation comes to

The poller that signs out last decides whether the whole invocation fails, however the runs of the
others end. The statistics say of each device whether its poller failed, and of one that it was the
last one out.
-/

namespace Fleet

variable {E : Interface} {conducts : Conducts E}
  {trace inner after : List (Session.Exchange (World E))}

/-- If one entry alone passes, it is what is left. -/
theorem filter_of_only {α : Type} {p : α → Bool} {entries : List α} {index : Nat} {entry : α}
    (h : entries[index]? = some entry)
    (honly : ∀ place other, entries[place]? = some other → (p other = true ↔ place = index)) :
    entries.filter p = [entry] := by
  induction entries generalizing index with
  | nil => cases h
  | cons head rest ih =>
    have hhead := honly 0 head rfl
    cases index with
    | zero =>
      obtain rfl := Option.some.inj h
      rw [List.filter_cons_of_pos (hhead.mpr rfl), List.filter_eq_nil_iff.mpr]
      intro other hother hpasses
      obtain ⟨place, hplace⟩ := List.getElem?_of_mem hother
      cases (honly (place + 1) other hplace).mp hpasses
    | succ index =>
      have hfails : ¬p head = true := fun hpasses => absurd (hhead.mp hpasses) nofun
      rw [List.filter_cons_of_neg hfails]
      refine ih h fun place other hplace => ?_
      rw [honly (place + 1) other hplace]
      omega

/-- The outcome that is an error, if there is one. -/
def Outcome.ofError? : Option TaskError → Outcome
  | some error => .error error
  | none => .ok ()

private theorem Outcome.ofError?_eq_error {error? : Option TaskError} {error : TaskError} :
    ofError? error? = .error error ↔ error? = some error := by
  cases error? <;> simp [ofError?]

private theorem Outcome.ofError?_eq_ok {error? : Option TaskError} :
    ofError? error? = .ok () ↔ error? = none := by
  cases error? <;> simp [ofError?]

private theorem Exit.shardError?_eq_none {exit : Exit} (h : exit ≠ .error .other) :
    exit.shardError? = none ↔ exit = .ok (.ok ()) := by
  unfold shardError?
  split
  · simp
  · exact absurd rfl h
  · simp
  · simp

/-- If the run of its poller has ended in a way that is caught, nothing escapes from a closed
seat. -/
theorem Seat.Shut.caught {seat : Seat} (h : seat.Shut)
    (hcaught : seat.poller.exit? ≠ some (.error .other)) :
    seat.escaped = none ∧ ∃ exit, exit ≠ .error .other ∧ seat.poller.exit? = some exit ∧
      seat.error = exit.shardError? := by
  obtain ⟨exit, hexit, herror, hescaped⟩ := h.noted
  have hstandard : exit ≠ .error .other := fun hother => hcaught (hother ▸ hexit)
  exact ⟨hescaped hstandard, exit, hstandard, hexit, herror⟩

namespace Invocation

variable {invocation last : Invocation} {crew : Crew} {earlier later : List Turn} {final : Turn}
  {result : Exit} {seat : Seat} {index : Nat}

/-- The serials of the devices, in allocation order. -/
def serials (invocation : Invocation) : List String :=
  invocation.seats.map (·.poller.resources.device.serial)

/-- What is found when an invocation is over, if the poller at the given place was the last one out.
The call fails with the error of that poller, if it failed, and otherwise succeeds. The statistics
have one entry for each device, which says whether its poller failed, and one of them alone says
that it was the last one out. -/
structure Answers (serials : List String) (index : Nat) (result : Exit) (invocation : Invocation) :
    Prop where
  fails_iff : ∀ error, result = .ok (.error error) ↔ ∃ seat exit,
    invocation.seats[index]? = some seat ∧ seat.poller.exit? = some exit ∧
      exit.shardError? = some error
  succeeds_iff : result = .ok (.ok ()) ↔ ∃ seat,
    invocation.seats[index]? = some seat ∧ seat.poller.exit? = some (.ok (.ok ()))
  devices : invocation.stats.keys.Perm serials
  entries : ∀ place seat, invocation.seats[place]? = some seat → ∃ exit stats,
    seat.poller.exit? = some exit ∧
    invocation.stats.get? seat.poller.resources.device.serial = some stats ∧
    (stats.terminatedEarly = true ↔ exit ≠ .ok (.ok ())) ∧
    (stats.reportedNotExecuted = true ↔ place = index)
  one_reported : invocation.stats.entries.countP (·.2.reportedNotExecuted) = 1

/-- Distinct devices have an entry each. -/
theorem stats_perm (hserials : invocation.serials.Nodup) :
    invocation.stats.entries.Perm
      (invocation.seats.map fun seat => (seat.poller.resources.device.serial, seat.stats)) := by
  apply Dict.ofList_perm
  rwa [List.map_map]

private theorem get?_stats (hserials : invocation.serials.Nodup) (hseat : seat ∈ invocation.seats) :
    invocation.stats.get? seat.poller.resources.device.serial = some seat.stats :=
  Dict.get?_eq_some_iff.mpr ((stats_perm hserials).mem_iff.mpr (List.mem_map_of_mem hseat))

private theorem keys_stats (hserials : invocation.serials.Nodup) :
    invocation.stats.keys.Perm invocation.serials := by
  have hkeys := (stats_perm hserials).map Prod.fst
  rwa [List.map_map] at hkeys

/-- One seat alone counts for the result, that of the last one out. -/
theorem lastError_eq (h : invocation.seats.filter (·.poller.reportedNotExecuted) = [seat]) :
    invocation.lastError = seat.error := by
  rw [lastError, ← List.filterMap_filter, h, List.filterMap_cons]
  cases seat.error <;> rfl

/-- If nothing has escaped from a poller, the last error decides how an invocation ends. -/
theorem result_of_conclude (hescaped : ∀ seat ∈ invocation.seats, seat.escaped = none)
    (h : (InvocationPlan.conclude invocation).Path after result) :
    result = .ok (.ofError? invocation.lastError) := by
  have hnone : invocation.escaped = none := List.findSome?_eq_none_iff.mpr hescaped
  rw [InvocationPlan.conclude, hnone] at h
  dsimp only at h
  split at h
  · rename_i error herror
    obtain ⟨⟨⟩, _, _, rfl, -, hdone⟩ := Session.path_seq.mp h
    rw [(Session.path_pure.mp hdone).2, herror]
    rfl
  · rename_i herror
    rw [(Session.path_pure.mp h).2, herror]
    rfl

/-- The seat of the last one out, and that no other seat says it was. -/
theorem reporter_of_concluded (hmirrors : last.Mirrors crew)
    (hconcluded : crew.Concluded earlier final later) :
    (∃ seat, last.seats[final.index]? = some seat) ∧
    ∀ place seat, last.seats[place]? = some seat →
      (seat.poller.reportedNotExecuted = true ↔ place = final.index) := by
  have hpollers (place : Nat) :
      crew.pollers[place]? = (last.seats[place]?).map (·.poller) := by
    rw [hmirrors.pollers, List.getElem?_map]
  constructor
  · obtain ⟨poller, hpoller, -⟩ := hconcluded.reporter
    rw [hpollers] at hpoller
    obtain ⟨seat, hseat, -⟩ := Option.map_eq_some_iff.mp hpoller
    exact ⟨seat, hseat⟩
  · intro place seat hseat
    refine hconcluded.flagged place seat.poller ?_
    rw [hpollers, hseat]
    rfl

/-- The result is the one of the poller at a place, and of no other. -/
theorem decides_of_result {exit : Exit} (hseat : last.seats[index]? = some seat)
    (hexit : seat.poller.exit? = some exit) (hstandard : exit ≠ .error .other)
    (hresult : result = .ok (.ofError? exit.shardError?)) :
    (∀ error, result = .ok (.error error) ↔ ∃ seat exit,
      last.seats[index]? = some seat ∧ seat.poller.exit? = some exit ∧
        exit.shardError? = some error) ∧
    (result = .ok (.ok ()) ↔ ∃ seat,
      last.seats[index]? = some seat ∧ seat.poller.exit? = some (.ok (.ok ()))) := by
  have hsame {other : Seat} {otherExit : Exit} (hother : last.seats[index]? = some other)
      (hended : other.poller.exit? = some otherExit) : otherExit = exit := by
    obtain rfl := Option.some.inj (hother.symm.trans hseat)
    exact Option.some.inj (hended.symm.trans hexit)
  constructor
  · intro error
    rw [hresult, Except.ok.injEq, Outcome.ofError?_eq_error]
    refine ⟨fun hfails => ⟨seat, exit, hseat, hexit, hfails⟩, ?_⟩
    rintro ⟨other, otherExit, hother, hended, hfails⟩
    exact hsame hother hended ▸ hfails
  · rw [hresult, Except.ok.injEq, Outcome.ofError?_eq_ok, Exit.shardError?_eq_none hstandard]
    refine ⟨fun hsucceeds => ⟨seat, hseat, hsucceeds ▸ hexit⟩, ?_⟩
    rintro ⟨other, hother, hended⟩
    exact (hsame hother hended).symm

/-- Of the seats of an invocation that is over, that of the last one out decides. -/
theorem answers_of_concluded (hmirrors : last.Mirrors crew)
    (hconcluded : crew.Concluded earlier final later) (hserials : last.serials.Nodup)
    (hshut : ∀ seat ∈ last.seats, seat.Shut)
    (hcaught : ∀ seat ∈ last.seats, seat.poller.exit? ≠ some (.error .other))
    (hconclude : (InvocationPlan.conclude last).Path after result) :
    last.Answers last.serials final.index result := by
  have hnoted := fun seat hseat => (hshut seat hseat).caught (hcaught seat hseat)
  obtain ⟨⟨seat, hseat⟩, hflagged⟩ := reporter_of_concluded hmirrors hconcluded
  have honly : last.seats.filter (·.poller.reportedNotExecuted) = [seat] :=
    filter_of_only hseat hflagged
  obtain ⟨-, exit, hstandard, hexit, herror⟩ := hnoted seat (List.mem_of_getElem? hseat)
  have hresult := result_of_conclude (fun seat hseat => (hnoted seat hseat).1) hconclude
  rw [lastError_eq honly, herror] at hresult
  obtain ⟨hfails, hsucceeds⟩ := decides_of_result hseat hexit hstandard hresult
  constructor
  case fails_iff => exact hfails
  case succeeds_iff => exact hsucceeds
  case devices => exact keys_stats hserials
  case entries =>
    intro place other hother
    obtain ⟨-, exit, hstandard, hexit, herror⟩ := hnoted other (List.mem_of_getElem? hother)
    refine ⟨exit, other.stats, hexit, get?_stats hserials (List.mem_of_getElem? hother), ?_,
      hflagged place other hother⟩
    rw [Seat.stats, herror, ← Option.ne_none_iff_isSome, ne_eq,
      Exit.shardError?_eq_none hstandard]
  case one_reported =>
    rw [(stats_perm hserials).countP_eq, List.countP_map, List.countP_eq_length_filter]
    exact congrArg List.length honly

variable {plan : InvocationPlan} {context : Context} {units : List (Option TestUnit)}
  {schedule : List Nat}

/-- When all seats are closed, one poller has signed out last, and it has done its final report. -/
theorem concluded_of_over (hdevices : context.allocation ≠ [])
    (hpresent : ∀ entry ∈ context.allocation, entry.1.isSome = true)
    (hplay : ((plan.start context units).play conducts schedule).Path trace last)
    (hover : last.Over) :
    ∃ inner crew earlier final later,
      ((plan.crew context units).play conducts schedule).Path inner crew ∧ last.Mirrors crew ∧
      Conveys (plan.start context units) inner trace last ∧ crew.Concluded earlier final later ∧
      later.countP (·.drains) = 1 := by
  obtain ⟨inner, crew, hcrew, hmirrors, hconveys⟩ :=
    (InvocationPlan.mirrors_start hpresent).play hplay
  have hstart : (plan.crew context units).Tallied (plan.resources context).length :=
    InvocationPlan.tallied_crew hdevices hpresent
  have htallied := hstart.play hcrew
  have hleft := hmirrors.allLeft hover (closedLast_start.play hplay)
  obtain ⟨earlier, final, later, hconcluded⟩ :=
    htallied.concluded (htallied.running_eq_zero hleft)
  refine ⟨inner, crew, earlier, final, later, hcrew, hmirrors, hconveys, hconcluded, ?_⟩
  obtain ⟨poller, hpoller, hphase⟩ := hconcluded.reporter
  obtain ⟨exit, hexit⟩ := hleft poller (List.mem_of_getElem? hpoller)
  simpa [hexit] using hphase

private theorem serials_of_play (hpresent : ∀ entry ∈ context.allocation, entry.1.isSome = true)
    (hmirrors : last.Mirrors crew)
    (hcrew : ((plan.crew context units).play conducts schedule).Path inner crew) :
    last.serials = (plan.resources context).map (·.device.serial) := by
  have hstart : (plan.start context units).Mirrors (plan.crew context units) :=
    InvocationPlan.mirrors_start hpresent
  have hkept := Crew.resources_of_play (hstart.floor ▸ InvocationPlan.wellFormed_start) hcrew
  rw [hmirrors.pollers, hstart.pollers, List.map_map, List.map_map] at hkept
  have hserials := congrArg (List.map (·.device.serial)) hkept
  rw [List.map_map, List.map_map] at hserials
  rw [InvocationPlan.resources, List.map_map]
  exact hserials

/-- When all seats are closed and no listener has thrown, the last one out decides. -/
theorem answers_of_over (hpresent : ∀ entry ∈ context.allocation, entry.1.isSome = true)
    (hserials : ((plan.resources context).map (·.device.serial)).Nodup)
    (hcrew : ((plan.crew context units).play conducts schedule).Path inner crew)
    (hmirrors : last.Mirrors crew) (hconveys : Conveys (plan.start context units) inner trace last)
    (hconcluded : crew.Concluded earlier final later) (hheeded : Session.Heeded trace)
    (hover : last.Over) (hcaught : ∀ seat ∈ last.seats, seat.poller.exit? ≠ some (.error .other))
    (hconclude : (InvocationPlan.conclude last).Path after result) :
    last.Answers ((plan.resources context).map (·.device.serial)) final.index result := by
  rw [← serials_of_play hpresent hmirrors hcrew] at hserials ⊢
  exact answers_of_concluded hmirrors hconcluded hserials (hconveys.sent_of_over hheeded hover).1
    hcaught hconclude

/-- In any order of steps, as long as no listener throws: given enough turns, every seat is closed.
If the run of each poller then has returned or thrown a standard exception, there is one turn in
which a poller found that it was the last one out, after which it did its final report. Whether the
call fails and with what error is decided by how the run of this poller ended, whatever became of
the others. All that the pollers have told, their final report included, has been sent to the
listener before the call returns, and nothing is held back. -/
theorem last_one_out_decides (hdevices : context.allocation ≠ [])
    (hpresent : ∀ entry ∈ context.allocation, entry.1.isSome = true)
    (hserials : ((plan.resources context).map (·.device.serial)).Nodup)
    (hplay : ((plan.start context units).play conducts schedule).Path trace last)
    (hheeded : Session.Heeded trace) :
    ((∀ index < context.allocation.length,
        8 * (plan.start context units).floor.pool.size + 6 ≤ schedule.count index) →
      last.Over) ∧
    (last.Over → (∀ seat ∈ last.seats, seat.poller.exit? ≠ some (.error .other)) →
      ∃ inner crew earlier final later,
        ((plan.crew context units).play conducts schedule).Path inner crew ∧ last.Mirrors crew ∧
        Conveys (plan.start context units) inner trace last ∧
        crew.turns = earlier ++ final :: later ∧ final.signsOutLast ∧
        (∀ turn ∈ earlier, ¬turn.signsOutLast) ∧ (∀ turn ∈ later, ¬turn.signsOut) ∧
        (∀ turn ∈ later, turn.drains → turn.index = final.index) ∧
        later.countP (·.drains) = 1 ∧
        (Session.sent trace).Perm (Session.sent inner) ∧
        (∀ seat ∈ last.seats, seat.buffer = {}) ∧
        ∀ (after : List (Session.Exchange (World E))) (result : Exit),
          (InvocationPlan.conclude last).Path after result → Session.sent after = [] ∧
          last.Answers ((plan.resources context).map (·.device.serial)) final.index result) := by
  refine ⟨over_of_fair hplay, fun hover hcaught => ?_⟩
  obtain ⟨inner, crew, earlier, final, later, hcrew, hmirrors, hconveys, hconcluded, hdrains⟩ :=
    concluded_of_over hdevices hpresent hplay hover
  obtain ⟨hshut, hsent⟩ := hconveys.sent_of_over hheeded hover
  refine ⟨inner, crew, earlier, final, later, hcrew, hmirrors, hconveys, hconcluded.turns,
    hconcluded.signsOutLast, ?_, ?_, ?_, hdrains, hsent,
    fun seat hseat => (hshut seat hseat).buffer, fun after result hconclude => ⟨?_, ?_⟩⟩
  · intro turn hturn
    simp [(hconcluded.before turn hturn).1]
  · intro turn hturn
    simp [(hconcluded.since turn hturn).1]
  · intro turn hturn hreports
    by_contra hother
    rw [((hconcluded.since turn hturn).2 hother).drains] at hreports
    cases hreports
  · exact Session.sent_of_deeds_nil (InvocationPlan.quiet_conclude.deeds hconclude)
  · exact answers_of_over hpresent hserials hcrew hmirrors hconveys hconcluded hheeded hover hcaught
      hconclude

/-- The first device is lost. The poller of the second one, which is the last one out, crashes; its
error is the result. The unit it reports is heard of. -/
theorem last_one_out_decides_two_devices :
    let plan : InvocationPlan := { registry := none, recovery := none }
    let context : Context :=
      { allocated := [("a", some ⟨"one", .physical⟩), ("b", some ⟨"two", .physical⟩)] }
    let failing := TestUnit.plain 0 "a" []
    let faulty := TestUnit.plain 1 "b" []
    let waiting : TestUnit :=
      { TestUnit.plain 2 "c" ["sim"] with capabilities := { notExecutedReport := true } }
    let units := [some failing, some faulty, some waiting]
    let loss : TaskError := .deviceNotAvailable "gone" "one"
    let crash : TaskError := .internal "Poller crashed: boom"
    let report : List Event := [.runStarted "c" 0, .runEnded 0 .empty]
    let conducts : Conducts .silent := fun unit =>
      { options := if unit = faulty then .error (.standard "boom") else .ok []
        run := fun _ => return .ok (.error loss)
        reportNotExecuted := fun _ => Performance.sendAll report }
    let schedule := List.replicate 30 0 ++ List.replicate 30 1
    context.allocation ≠ [] ∧ (∀ entry ∈ context.allocation, entry.1.isSome = true) ∧
    ((plan.resources context).map (·.device.serial)).Nodup ∧
    ∃ (trace after : List (Session.Exchange (World .silent))) (last : Invocation),
      ((plan.start context units).play conducts schedule).Path trace last ∧
      Session.Heeded trace ∧ last.Over ∧
      (∀ seat ∈ last.seats, seat.poller.exit? ≠ some (.error .other)) ∧
      last.seats.map (·.error) = [some loss, some crash] ∧ Session.sent trace = report ∧
      (InvocationPlan.conclude last).Path after (.ok (.error crash)) ∧
      ∃ index, last.Answers ["one", "two"] index (.ok (.error crash)) := by
  intro plan context failing faulty waiting units loss crash report conducts schedule
  let session : Work .silent Invocation := (plan.start context units).play conducts schedule
  let answer := Session.obligingWorld (fun _ _ => false) Interface.silence
  let course := session.converse answer
  have hdevices : context.allocation ≠ [] := by decide
  have hpresent : ∀ entry ∈ context.allocation, entry.1.isSome = true := by decide
  have hserials : ((plan.resources context).map (·.device.serial)).Nodup := by decide
  have hplay : session.Path course.1 course.2 := Session.path_converse answer session
  have hheeded : Session.Heeded course.1 :=
    (Session.calm_converse_obligingWorld _ _ session).heeded
  obtain ⟨hfair, hdecides⟩ :=
    last_one_out_decides hdevices hpresent hserials hplay hheeded
  have hover : course.2.Over := hfair (by decide +kernel)
  have hcaught : ∀ seat ∈ course.2.seats, seat.poller.exit? ≠ some (.error .other) := by
    decide +kernel
  have herrors : course.2.seats.map (·.error) = [some loss, some crash] := by decide +kernel
  have hsent : Session.sent course.1 = report := by decide +kernel
  let closing : Work .silent Exit := InvocationPlan.conclude course.2
  let conclusion := closing.converse answer
  have hresult : conclusion.2 = .ok (.error crash) := by decide +kernel
  have hconclude : closing.Path conclusion.1 (.ok (.error crash)) :=
    hresult ▸ Session.path_converse answer closing
  obtain ⟨inner, crew, earlier, final, later, -, -, -, -, -, -, -, -, -, -, -, hanswers⟩ :=
    hdecides hover hcaught
  exact ⟨hdevices, hpresent, hserials, course.1, conclusion.1, course.2, hplay, hheeded, hover,
    hcaught, herrors, hsent, hconclude, final.index, (hanswers _ _ hconclude).2⟩

end Invocation

/-- A run of an invocation with a listener that throws nothing: unless a poller was stopped by what
is no standard exception, the last one out decides. -/
theorem InvocationPlan.answers_of_run {plan : InvocationPlan} {context : Context}
    {units : List (Option TestUnit)} {result : Exit × Option Invocation}
    (hdevices : context.allocation ≠ [])
    (hpresent : ∀ entry ∈ context.allocation, entry.1.isSome = true)
    (hserials : ((plan.resources context).map (·.device.serial)).Nodup)
    (hrun : (plan.run conducts (some context) true units).Path trace result)
    (hheeded : Session.Heeded trace) :
    ∃ last, result.2 = some last ∧ last.Over ∧
      ((∀ seat ∈ last.seats, seat.poller.exit? ≠ some (.error .other)) →
        ∃ index, last.Answers ((plan.resources context).map (·.device.serial)) index result.1) := by
  obtain ⟨message, before, played, closing, schedule, last, rfl, hresult, -, hplay, hconclude,
    hover⟩ := path_run hdevices hrun
  have hplayed : Session.Heeded played :=
    (Session.heeded_append.mp (Session.heeded_append.mp hheeded).2).1
  obtain ⟨inner, crew, earlier, final, later, hcrew, hmirrors, hconveys, hconcluded, -⟩ :=
    Invocation.concluded_of_over hdevices hpresent hplay hover
  exact ⟨last, hresult, hover, fun hcaught => ⟨final.index, Invocation.answers_of_over hpresent
    hserials hcrew hmirrors hconveys hconcluded hplayed hover hcaught hconclude⟩⟩

end Fleet
