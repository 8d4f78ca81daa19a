import Fleet.Proofs.Invocation.Leftovers
import Fleet.Proofs.Poller.Reasons

/-!
# What the reason is worth

With steady providers, a device that is on record as having turned a unit down does not satisfy the
tokens of the unit. So a unit that is told that no device holds its tokens was turned down by one
that does not; and a device that does satisfy them, if there is one, never got to look at it,
because its poller failed.
-/

namespace Fleet

variable {E : Interface} {conducts : Conducts E} {told : E.Question → Option Notice}
  {registry : Option TokenRegistry} {holds : Device → String → Bool} {devices : List Device}
  {trace past : List (Session.Exchange (World E))}

/-- The run of the poller ends, or has ended, in another way than by draining the pool. -/
def Poller.Failing (poller : Poller) : Prop :=
  ∃ exit, poller.phase.decided? = some exit ∧ exit ≠ .ok (.ok ())

/-- The reason was given to a unit that requires tokens and that some device does not satisfy; every
poller whose device satisfies it fails. -/
structure Notice.Justified (registry : Option TokenRegistry) (holds : Device → String → Bool)
    (devices : List Device) (pollers : List Poller) (notice : Notice) : Prop where
  reason : notice.reason = Station.noTokenReason notice.unit.tokens
  requires : notice.unit.tokens.isEmpty = false
  refused : ∃ device ∈ devices, ¬Satisfies registry holds device notice.unit.tokens
  failing : ∀ poller ∈ pollers,
    Satisfies registry holds poller.resources.device notice.unit.tokens → poller.Failing

namespace Crew

variable {given : WorkPool} {crew next last : Crew} {index : Nat} {schedule : List Nat}

/-- What holds at every point of a play of pollers that share a pool which was as `given`, after the
conversation so far: a device on record with a unit does not satisfy it, and every reason given is
justified. -/
structure Candid (told : E.Question → Option Notice) (registry : Option TokenRegistry)
    (holds : Device → String → Bool) (devices : List Device) (given : WorkPool)
    (past : List (Session.Exchange (World E))) (crew : Crew) : Prop where
  aware : crew.Aware given
  registry_eq : crew.floor.pool.registry = registry
  devices_eq : crew.pollers.map (·.resources.device) = devices
  recorded : ∀ unit serial, (crew.floor.pool.rejectedBy unit).contains serial →
    ∃ device ∈ devices, device.serial = serial ∧ ¬Satisfies registry holds device unit.tokens
  notices : ∀ notice ∈ Session.notices told past, notice.reason = "" ∨
    notice.Justified registry holds devices crew.pollers

namespace Candid

/-- When a poller does the final report, every reason the pool warrants is justified. -/
theorem justified_of_warrants (h : crew.Candid told registry holds devices given past)
    (hserials : (devices.map (·.serial)).Nodup)
    (hrequires : ∀ unit ∈ given.gated, unit.tokens.isEmpty = false) {poller : Poller}
    (hpoller : poller ∈ crew.pollers) {exit : Exit} (hreporting : poller.phase = .reporting exit)
    {notice : Notice} (hnotice : crew.floor.pool.Warrants notice) :
    notice.reason = "" ∨ notice.Justified registry holds devices crew.pollers := by
  refine hnotice.imp_right ?_
  rintro ⟨hreason, hrejected⟩
  obtain ⟨serial, hserial⟩ := h.aware.formed.exists_rejectedBy hrejected
  have hgated := h.aware.formed.mem_gated_of_rejectedBy hserial
  obtain ⟨device, hdevice, -, hnot⟩ := h.recorded _ _ hserial
  refine ⟨hreason, hrequires _ (h.aware.gated hgated), ⟨device, hdevice, hnot⟩, ?_⟩
  intro other hother hsatisfies
  obtain ⟨ended, hdecided⟩ := h.aware.decided_of_reporting hpoller hreporting other hother
  refine ⟨ended, hdecided, ?_⟩
  rintro rfl
  -- It drained the pool, so its device is on record with the unit as well.
  have hturned := ((h.aware.informed other hother).drained hdecided).turnedDown _ hgated
  obtain ⟨refuser, hrefuser, hsame, hrefused⟩ := h.recorded _ _ hturned
  have hmem : other.resources.device ∈ devices := h.devices_eq ▸ List.mem_map_of_mem hother
  obtain rfl := List.inj_on_of_nodup_map hserials hrefuser hmem hsame
  exact hrefused hsatisfies

private theorem step (h : crew.Candid told registry holds devices given past)
    (hexplains : ∀ unit, (conducts unit).Explains told unit)
    (hserials : (devices.map (·.serial)).Nodup)
    (hrequires : ∀ unit ∈ given.gated, unit.tokens.isEmpty = false)
    (hstep : (crew.step conducts index).Path trace next) (hsteady : Steady registry holds trace) :
    next.Candid told registry holds devices given (past ++ trace) := by
  have haware := h.aware.step hstep
  rcases step_cases hstep with ⟨-, rfl, rfl⟩ | ⟨poller, last, hpoller, hlast, rfl⟩
  · rwa [List.append_nil]
  · have hmove := Station.move_of_step h.aware.formed hlast
    obtain ⟨returned, hserves⟩ := hmove.serves h.aware.formed
    have hmem := List.mem_of_getElem? hpoller
    have hdevice : poller.resources.device ∈ devices := h.devices_eq ▸ List.mem_map_of_mem hmem
    have hkept : ∀ notice : Notice, notice.Justified registry holds devices crew.pollers →
        notice.Justified registry holds devices (crew.pollers.set index last.poller) := by
      rintro notice ⟨hreason, hrequires, hrefused, hfailing⟩
      refine ⟨hreason, hrequires, hrefused, ?_⟩
      intro other hother hsatisfies
      rcases List.mem_or_eq_of_mem_set hother with hold | rfl
      · exact hfailing other hold hsatisfies
      · rw [hmove.resources_eq] at hsatisfies
        obtain ⟨exit, hexit, hnot⟩ := hfailing poller hmem hsatisfies
        exact ⟨exit, hmove.decided hexit, hnot⟩
    refine ⟨haware, hserves.registry.trans h.registry_eq, ?_, ?_, ?_⟩
    · rw [← h.devices_eq]
      exact map_set_of_eq hpoller (congrArg Resources.device hmove.resources_eq)
    · intro unit serial hserial
      rcases Station.recorded_of_step h.aware.formed hlast (h.registry_eq ▸ hsteady) hserial with
        hold | ⟨rfl, hnot⟩
      · exact h.recorded unit serial hold
      · exact ⟨_, hdevice, rfl, h.registry_eq ▸ hnot⟩
    · intro notice hnotice
      rw [Session.notices, Session.errands_append, List.filterMap_append] at hnotice
      rcases List.mem_append.mp hnotice with hold | hnew
      · exact (h.notices notice hold).imp_right (hkept notice)
      · obtain ⟨⟨exit, hreporting⟩, hwarrants⟩ :=
          Station.notices_of_step hexplains hlast notice hnew
        exact (h.justified_of_warrants hserials hrequires hmem hreporting hwarrants).imp_right
          (hkept notice)

private theorem play (h : crew.Candid told registry holds devices given [])
    (hexplains : ∀ unit, (conducts unit).Explains told unit)
    (hserials : (devices.map (·.serial)).Nodup)
    (hrequires : ∀ unit ∈ given.gated, unit.tokens.isEmpty = false)
    (hplay : (crew.play conducts schedule).Path trace last)
    (hsteady : Steady registry holds trace) :
    last.Candid told registry holds devices given trace := by
  have hinv := Session.invariant_follow
    (fun past crew => Steady registry holds past →
      crew.Candid told registry holds devices given past)
    (fun hpast hstep hsteady => (hpast (hsteady.subset (List.subset_append_left _ _))).step
      hexplains hserials hrequires hstep (hsteady.subset (List.subset_append_right _ _)))
    (fun _ => h) hplay
  exact hinv hsteady

end Candid

end Crew

/-- What passes a buffer is about events, so it is as steady behind it as before it. -/
theorem Session.Alike.steady {inner : List (Session.Exchange (World E))}
    (h : Session.Alike trace inner) (hsteady : Steady registry holds trace) :
    Steady registry holds inner := by
  intro known hknown exchange hexchange
  by_cases hsend : ∃ id event, exchange.question = .inl (.send id event)
  · obtain ⟨id, event, hquestion⟩ := hsend
    obtain ⟨question, answer⟩ := exchange
    cases hquestion
    trivial
  · refine hsteady known hknown exchange (h.asked exchange hexchange fun id event hquestion => ?_)
    exact hsend ⟨id, event, hquestion⟩

namespace Invocation

variable {plan : InvocationPlan} {context : Context} {units : List (Option TestUnit)}
  {schedule : List Nat} {last : Invocation}

private theorem candid_start : (plan.start context units).crew.Candid told plan.registry holds
    ((plan.resources context).map (·.device)) (plan.start context units).floor.pool
    ([] : List (Session.Exchange (World E))) where
  aware := aware_start
  registry_eq := rfl
  devices_eq := by
    rw [InvocationPlan.resources, List.map_map, crew, List.map_map]
    rfl
  recorded unit serial hserial := by cases hserial
  notices notice hnotice := by cases hnotice

/-- With steady providers and distinct serials, in any order of steps and whichever devices are
lost: a unit that is given a reason is told that no device holds its tokens. It does require tokens,
and some device of the invocation does not satisfy them. If a device satisfies them after all, the
poller of that device failed, so that it did not drain the pool. -/
theorem no_token_reason_sound (hexplains : ∀ unit, (conducts unit).Explains told unit)
    (hserials : ((plan.resources context).map (·.device.serial)).Nodup)
    (hplay : ((plan.start context units).play conducts schedule).Path trace last)
    (hsteady : Steady plan.registry holds trace) :
    ∀ notice ∈ Session.notices told trace, notice.reason ≠ "" →
      notice.reason = Station.noTokenReason notice.unit.tokens ∧
      notice.unit.tokens.isEmpty = false ∧
      (∃ seat ∈ last.seats,
        ¬Satisfies plan.registry holds seat.poller.resources.device notice.unit.tokens) ∧
      ∀ seat ∈ last.seats,
        Satisfies plan.registry holds seat.poller.resources.device notice.unit.tokens →
        seat.poller.Failing ∧ ¬seat.Drained := by
  intro notice hnotice hreason
  obtain ⟨inner, crew, hcrew, hmirrors, hconveys⟩ := mirrors_crew.play hplay
  have hdevices : (((plan.resources context).map (·.device)).map (·.serial)).Nodup := by
    rwa [List.map_map]
  have hcandid := candid_start.play hexplains hdevices (fun _ => requires_of_mem_gated) hcrew
    (hconveys.alike.steady hsteady)
  have hinner : notice ∈ Session.notices told inner := by
    rwa [Session.notices, hconveys.alike.errands]
  rcases hcandid.notices notice hinner with hnone | ⟨hsame, hrequires, hrefused, hfailing⟩
  · exact absurd hnone hreason
  refine ⟨hsame, hrequires, ?_, ?_⟩
  · obtain ⟨device, hdevice, hnot⟩ := hrefused
    rw [← hcandid.devices_eq, hmirrors.pollers, List.map_map] at hdevice
    obtain ⟨seat, hseat, rfl⟩ := List.mem_map.mp hdevice
    exact ⟨seat, hseat, hnot⟩
  · intro seat hseat hsatisfies
    have hfails := hfailing seat.poller (hmirrors.pollers ▸ List.mem_map_of_mem hseat) hsatisfies
    refine ⟨hfails, fun hdrained => ?_⟩
    obtain ⟨exit, hexit, hnot⟩ := hfails
    rw [hdrained.decided] at hexit
    exact hnot (Option.some.inj hexit).symm

/-- Neither of two devices holds the token that the only unit requires, and both drain the pool. -/
theorem no_token_reason_sound_two_devices :
    let registry := TokenRegistry.register {} "sim" (some (.external 0))
    let unit : TestUnit :=
      { TestUnit.plain 0 "a" ["sim"] with capabilities := { notExecutedReport := true } }
    let plan : InvocationPlan := { registry := some registry, recovery := none }
    let context : Context :=
      { allocated := [("a", some ⟨"d1", .physical⟩), ("b", some ⟨"d2", .physical⟩)] }
    let conducts : Conducts .noticeboard := .explaining (.ok (.ok ()))
    let schedule := (List.replicate 8 [0, 1]).flatten
    (∀ unit, (conducts unit).Explains some unit) ∧
    ((plan.resources context).map (·.device.serial)).Nodup ∧
    ∃ (trace : List (Session.Exchange (World .noticeboard))) (last : Invocation),
      ((plan.start context [some unit]).play conducts schedule).Path trace last ∧
      Steady plan.registry (fun _ _ => false) trace ∧
      Session.notices some trace = [⟨unit, Station.noTokenReason unit.tokens⟩] ∧
      unit.tokens.isEmpty = false ∧
      (∃ seat ∈ last.seats,
        ¬Satisfies plan.registry (fun _ _ => false) seat.poller.resources.device unit.tokens) ∧
      ∀ seat ∈ last.seats,
        Satisfies plan.registry (fun _ _ => false) seat.poller.resources.device unit.tokens →
        seat.poller.Failing ∧ ¬seat.Drained := by
  intro registry unit plan context conducts schedule
  have hexplains : ∀ unit, (conducts unit).Explains some unit :=
    fun _ => Conduct.explains_explaining
  have hserials : ((plan.resources context).map (·.device.serial)).Nodup := by decide
  let session : Work .noticeboard Invocation :=
    (plan.start context [some unit]).play conducts schedule
  let answer := Session.obligingWorld (E := .noticeboard) (fun _ _ => false) fun _ => ()
  let course := session.converse answer
  have hplay : session.Path course.1 course.2 := Session.path_converse answer session
  have hexternal : ∀ known ∈ plan.registry, ∀ token provider,
      known.providerFor token ≠ some (.property provider) :=
    TokenRegistry.external_of_register
  have hsteady : Steady plan.registry (fun _ _ => false) course.1 :=
    steady_converse_obligingWorld hexternal _ session
  have hnotices : Session.notices some course.1 = [⟨unit, Station.noTokenReason unit.tokens⟩] := by
    decide +kernel
  have hmem : (⟨unit, Station.noTokenReason unit.tokens⟩ : Notice) ∈
      Session.notices some course.1 := by
    rw [hnotices]
    exact List.mem_cons_self
  have hreason : Station.noTokenReason unit.tokens ≠ "" := by decide +kernel
  obtain ⟨-, hrest⟩ := no_token_reason_sound hexplains hserials hplay hsteady _ hmem hreason
  exact ⟨hexplains, hserials, course.1, course.2, hplay, hsteady, hnotices, hrest⟩

/-- The first device has turned two units down and is done. The second one holds the token they
require; it is lost while it runs the first of them, and the second one is told that no device holds
the token. -/
theorem no_token_reason_although_lost_device_holds :
    let registry := TokenRegistry.register {} "sim" (some (.external 0))
    let holds : Device → String → Bool := fun device token => device.serial = "d2" && token = "sim"
    let failing : TestUnit := .plain 0 "a" ["sim"]
    let waiting : TestUnit :=
      { TestUnit.plain 1 "b" ["sim"] with capabilities := { notExecutedReport := true } }
    let plan : InvocationPlan := { registry := some registry, recovery := none }
    let context : Context :=
      { allocated := [("a", some ⟨"d1", .physical⟩), ("b", some ⟨"d2", .physical⟩)] }
    let conducts : Conducts .noticeboard :=
      .explaining (.ok (.error (.deviceNotAvailable "gone" "d2")))
    let schedule := List.replicate 5 0 ++ List.replicate 7 1
    (∀ unit, (conducts unit).Explains some unit) ∧
    ((plan.resources context).map (·.device.serial)).Nodup ∧
    ∃ (trace : List (Session.Exchange (World .noticeboard))) (last : Invocation),
      ((plan.start context [some failing, some waiting]).play conducts schedule).Path trace last ∧
      last.Over ∧ Steady plan.registry holds trace ∧
      Session.notices some trace = [⟨waiting, Station.noTokenReason waiting.tokens⟩] ∧
      ∃ seat ∈ last.seats,
        Satisfies plan.registry holds seat.poller.resources.device waiting.tokens := by
  intro registry holds failing waiting plan context conducts schedule
  let session : Work .noticeboard Invocation :=
    (plan.start context [some failing, some waiting]).play conducts schedule
  let answer := Session.obligingWorld (E := .noticeboard) holds fun _ => ()
  let course := session.converse answer
  have hplay : session.Path course.1 course.2 := Session.path_converse answer session
  have hexternal : ∀ known ∈ plan.registry, ∀ token provider,
      known.providerFor token ≠ some (.property provider) :=
    TokenRegistry.external_of_register
  have hsteady : Steady plan.registry holds course.1 :=
    steady_converse_obligingWorld hexternal _ session
  have hnotices : Session.notices some course.1 =
      [⟨waiting, Station.noTokenReason waiting.tokens⟩] := by decide +kernel
  have hover : ∀ seat ∈ course.2.seats, seat.closed = true := by decide +kernel
  have hseat : ∃ seat ∈ course.2.seats, seat.poller.resources.device = ⟨"d2", .physical⟩ := by
    decide +kernel
  obtain ⟨seat, hmem, hdevice⟩ := hseat
  refine ⟨fun _ => Conduct.explains_explaining, by decide, course.1, course.2, hplay, hover,
    hsteady, hnotices, seat, hmem, ?_⟩
  rw [hdevice]
  exact .inr ⟨registry, rfl, by decide⟩

end Invocation

end Fleet
