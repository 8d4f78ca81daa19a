import Fleet.Proofs.Pool.Exhaustion
import Fleet.Proofs.Schedule
import Fleet.Proofs.Tokens
import Mathlib.Data.List.Nodup

/-!
# Dispatch does not depend on the schedule

Several devices call for units of one pool. A call is made in two steps, since the buckets are
looked into one after the other, and the steps of different devices interleave as a schedule says.
When every device has been told that there is nothing left for it, the units handed out are those
some device may take, whatever the schedule was.
-/

namespace Fleet

/-- How far a device has come with its calls for units. -/
inductive CallStage where
  /-- It has made no call yet. -/
  | fresh
  /-- The call found no gated unit and goes on to the generic ones. -/
  | halfway
  /-- The last call has returned. -/
  | answered (found : Option TestUnit)
  deriving DecidableEq

/-- A device that calls for units. -/
structure Desk where
  device : Device
  stage : CallStage := .fresh
  deriving DecidableEq

/-- Devices at work on one pool. -/
structure Dispatch where
  pool : WorkPool
  desks : List Desk
  /-- The units handed out so far, each with the device that got it. -/
  handed : List (Device × TestUnit) := []

namespace Dispatch

variable {E : Interface}

/-- A step of a device leads to this pool and stage. -/
def advance (dispatch : Dispatch) (index : Nat) (device : Device) (found : Option TestUnit)
    (pool : WorkPool) (stage : CallStage) : Dispatch where
  pool
  desks := dispatch.desks.set index { device, stage }
  handed := dispatch.handed ++ found.toList.map (device, ·)

/-- One step of the call of a desk; a desk whose call has returned makes another one. -/
def step (index : Nat) (dispatch : Dispatch) : Work E Dispatch :=
  match dispatch.desks[index]? with
  | none => return dispatch
  | some { device, stage := .halfway } =>
    let (found, pool) := dispatch.pool.pollGeneric
    return dispatch.advance index device found pool (.answered found)
  | some { device, .. } => do
    match ← dispatch.pool.pollGated device with
    | (some unit, pool) =>
      return dispatch.advance index device (some unit) pool (.answered (some unit))
    | (none, pool) => return dispatch.advance index device none pool .halfway

/-- Take steps as a schedule says. -/
def play (schedule : List Nat) (dispatch : Dispatch) : Work E Dispatch :=
  Session.follow step schedule dispatch

/-- The devices before their first calls. -/
def start (pool : WorkPool) (devices : List Device) : Dispatch where
  pool
  desks := devices.map ({ device := · })

/-- A step is half a call for gated units, half a call for generic ones, or nothing. -/
theorem step_cases {index : Nat} {dispatch next : Dispatch}
    {trace : List (Session.Exchange (World E))} (h : (dispatch.step index).Path trace next) :
    next = dispatch ∨ ∃ desk, dispatch.desks[index]? = some desk ∧
      ((∃ found pool, (dispatch.pool.pollGated desk.device).Path trace (found, pool) ∧
        next = dispatch.advance index desk.device found pool
          (found.elim .halfway fun unit => .answered (some unit))) ∨
      (desk.stage = .halfway ∧
        next = dispatch.advance index desk.device dispatch.pool.pollGeneric.1
          dispatch.pool.pollGeneric.2 (.answered dispatch.pool.pollGeneric.1))) := by
  rw [step] at h
  split at h
  · exact .inl (Session.path_pure.mp h).2
  · rename_i device hdesk
    exact .inr ⟨_, hdesk, .inr ⟨rfl, (Session.path_pure.mp h).2⟩⟩
  · rename_i device stage hstage hdesk
    obtain ⟨⟨found, pool⟩, before, after, rfl, hpoll, h⟩ := Session.path_seq.mp h
    refine .inr ⟨_, hdesk, .inl ⟨found, pool, ?_, ?_⟩⟩
    · cases found <;> obtain ⟨rfl, -⟩ := Session.path_pure.mp h <;> rwa [List.append_nil]
    · cases found with
      | some unit => exact (Session.path_pure.mp h).2
      | none => exact (Session.path_pure.mp h).2

section Undisturbed

variable {index : Nat} {dispatch : Dispatch} {desk : Desk} {found : Option TestUnit}
  {pool : WorkPool} {trace : List (Session.Exchange (World E))}

private theorem step_of_pollGated (hdesk : dispatch.desks[index]? = some desk)
    (hready : desk.stage ≠ .halfway)
    (hpoll : (dispatch.pool.pollGated desk.device).Path trace (found, pool)) :
    (dispatch.step index).Path trace (dispatch.advance index desk.device found pool
      (found.elim .halfway fun unit => .answered (some unit))) := by
  obtain ⟨device, stage⟩ := desk
  have hstep : (dispatch.step index : Work E Dispatch) = do
      match ← dispatch.pool.pollGated device with
      | (some unit, pool) =>
        return dispatch.advance index device (some unit) pool (.answered (some unit))
      | (none, pool) => return dispatch.advance index device none pool .halfway := by
    rw [step, hdesk]
    cases stage with
    | halfway => exact absurd rfl hready
    | fresh => rfl
    | answered answer => rfl
  rw [hstep]
  refine Session.path_seq.mpr ⟨_, trace, [], (List.append_nil trace).symm, hpoll, ?_⟩
  cases found <;> exact Session.path_pure.mpr ⟨rfl, rfl⟩

private theorem step_of_halfway (hdesk : dispatch.desks[index]? = some desk)
    (hhalfway : desk.stage = .halfway) :
    (dispatch.step index : Work E Dispatch) =
      return dispatch.advance index desk.device dispatch.pool.pollGeneric.1
        dispatch.pool.pollGeneric.2 (.answered dispatch.pool.pollGeneric.1) := by
  obtain ⟨device, stage⟩ := desk
  cases hhalfway
  rw [step, hdesk]

/-- A call that no other device disturbs is a poll of the pool. -/
theorem play_of_poll (hdesk : dispatch.desks[index]? = some desk)
    (hready : desk.stage ≠ .halfway)
    (hpoll : (dispatch.pool.poll desk.device).Path trace (found, pool)) :
    ∃ count, (dispatch.play (List.replicate count index)).Path trace
      (dispatch.advance index desk.device found pool (.answered found)) := by
  rw [WorkPool.poll] at hpoll
  obtain ⟨⟨taken, mid⟩, before, after, rfl, hgated, hpoll⟩ := Session.path_seq.mp hpoll
  have hfirst := step_of_pollGated hdesk hready hgated
  cases taken with
  | some unit =>
    obtain ⟨rfl, hanswer⟩ := Session.path_pure.mp hpoll
    obtain ⟨rfl, rfl⟩ := Prod.mk.inj hanswer
    exact ⟨1, Session.path_seq.mpr ⟨_, before, [], rfl, hfirst, Session.path_pure.mpr ⟨rfl, rfl⟩⟩⟩
  | none =>
    obtain ⟨rfl, hanswer⟩ := Session.path_pure.mp hpoll
    obtain rfl : found = mid.pollGeneric.1 := congrArg Prod.fst hanswer
    obtain rfl : pool = mid.pollGeneric.2 := congrArg Prod.snd hanswer
    refine ⟨2, Session.path_seq.mpr ⟨_, before, [], rfl, hfirst, ?_⟩⟩
    have hindex : index < dispatch.desks.length := (List.getElem?_eq_some_iff.mp hdesk).1
    have hhalfway : (dispatch.advance index desk.device none mid .halfway).desks[index]? =
        some { device := desk.device, stage := .halfway } := List.getElem?_set_self hindex
    refine Session.path_seq.mpr ⟨_, [], [], rfl, ?_, Session.path_pure.mpr ⟨rfl, rfl⟩⟩
    rw [Option.elim_none, step_of_halfway hhalfway rfl]
    refine Session.path_pure.mpr ⟨rfl, ?_⟩
    simp [advance, List.set_set]

end Undisturbed

end Dispatch

namespace WorkPool

variable {E : Interface} {pool rest : WorkPool} {found : Option TestUnit} {device : Device}
  {holds : Device → String → Bool} {trace : List (Session.Exchange (World E))}

/-- A device is served: what it takes it may take, and it turns down only what it may not. -/
structure ServesDevice (holds : Device → String → Bool) (device : Device) (pool : WorkPool)
    (found : Option TestUnit) (rest : WorkPool) : Prop extends pool.Serves found.toList rest where
  taken : ∀ unit ∈ found, unit ∈ pool.generic ∨
    unit ∈ pool.gated ∧ Satisfies pool.registry holds device unit.tokens
  turned : ∀ unit ∈ rest.gated, ∀ serial, (rest.rejectedBy unit).contains serial →
    (pool.rejectedBy unit).contains serial ∨
      serial = device.serial ∧ ¬Satisfies pool.registry holds device unit.tokens

namespace WellFormed

private theorem servesDevice_pollGeneric (h : pool.WellFormed) :
    pool.ServesDevice holds device pool.pollGeneric.1 pool.pollGeneric.2 := by
  refine ⟨h.withdraws_pollGeneric, fun unit hunit => .inl (mem_generic_of_pollGeneric hunit), ?_⟩
  rw [pollGeneric]
  split <;> exact fun unit _ serial hserial => .inl hserial

/-- To poll for a device takes at most one unit out, whose tokens are held there. -/
theorem servesDevice_pollGated (h : pool.WellFormed)
    (hpoll : (pool.pollGated device).Path trace (found, rest))
    (hsteady : Steady pool.registry holds trace) : pool.ServesDevice holds device found rest := by
  have hwithdraws := h.withdraws_pollGated hpoll
  obtain ⟨marked, hseek, rfl⟩ := path_pollGated.mp hpoll
  obtain ⟨⟨turned, rfl, hturned⟩, htaken, -⟩ := sought_of_path hseek
  have hmarked : ∀ unit serial,
      ((pool.rejections.markAll device.serial turned).serialsOf unit).contains serial ↔
        (pool.rejectedBy unit).contains serial ∨ serial = device.serial ∧ unit ∈ turned :=
    fun unit serial => Rejections.contains_serialsOf_markAll
  have hrefused : ∀ unit ∈ turned, ¬Satisfies pool.registry holds device unit.tokens := by
    intro unit hunit hsatisfies
    obtain ⟨-, part, hpart, hpath⟩ := hturned unit hunit
    have hanswer := (admits_iff_satisfies hpath (hsteady.subset hpart)).mpr hsatisfies
    cases hanswer
  refine ⟨hwithdraws, fun unit hunit => .inr ?_, fun unit hunit serial hserial => ?_⟩
  · obtain ⟨hgated, -, part, hpart, hpath⟩ := htaken unit hunit
    exact ⟨hgated, (admits_iff_satisfies hpath (hsteady.subset hpart)).mp rfl⟩
  · rw [rejectedBy_withdrawn hunit] at hserial
    exact ((hmarked unit serial).mp hserial).imp_right fun ⟨hserial, hmem⟩ =>
      ⟨hserial, hrefused unit hmem⟩

end WellFormed

end WorkPool

namespace Dispatch

variable {E : Interface} {registry : Option TokenRegistry} {holds : Device → String → Bool}
  {devices : List Device} {filled pool : WorkPool} {dispatch next last : Dispatch}
  {trace : List (Session.Exchange (World E))}

/-- What holds at every point of a dispatch that began with a filled pool: the units handed out
went to devices that may take them, a device on record with a unit does not satisfy it, and a
device that found no gated unit is on record with all that are left. -/
structure Faithful (registry : Option TokenRegistry) (holds : Device → String → Bool)
    (devices : List Device) (filled : WorkPool) (dispatch : Dispatch) : Prop where
  wellFormed : dispatch.pool.WellFormed
  registry_eq : dispatch.pool.registry = registry
  devices_eq : dispatch.desks.map (·.device) = devices
  units : filled.units.Perm (dispatch.handed.map Prod.snd ++ dispatch.pool.units)
  generic : dispatch.pool.generic ⊆ filled.generic
  gated : dispatch.pool.gated ⊆ filled.gated
  handed : ∀ entry ∈ dispatch.handed, entry.1 ∈ devices ∧
    (entry.2 ∈ filled.generic ∨
      entry.2 ∈ filled.gated ∧ Satisfies registry holds entry.1 entry.2.tokens)
  turned : ∀ unit ∈ dispatch.pool.gated, ∀ serial,
    (dispatch.pool.rejectedBy unit).contains serial →
      ∃ device ∈ devices, device.serial = serial ∧ ¬Satisfies registry holds device unit.tokens
  exhausted : ∀ desk ∈ dispatch.desks, desk.stage = .halfway ∨ desk.stage = .answered none →
    dispatch.pool.TurnedDown desk.device.serial
  drained : ∀ desk ∈ dispatch.desks, desk.stage = .answered none → dispatch.pool.generic = []

/-- Serving a desk does not change which device it serves. -/
theorem map_device_set {desks : List Desk} {index : Nat} {desk : Desk}
    (h : desks[index]? = some desk) (stage : CallStage) :
    (desks.set index { device := desk.device, stage }).map (·.device) = desks.map (·.device) :=
  map_set_of_eq h rfl

namespace Faithful

/-- Serving a device keeps a dispatch faithful, if the stage the device reaches is justified. -/
theorem advance (h : dispatch.Faithful registry holds devices filled) {index : Nat} {desk : Desk}
    {found : Option TestUnit} {stage : CallStage} (hdesk : dispatch.desks[index]? = some desk)
    (hserves : dispatch.pool.ServesDevice holds desk.device found pool)
    (hexhausted : stage = .halfway ∨ stage = .answered none → pool.TurnedDown desk.device.serial)
    (hdrained : stage = .answered none → pool.generic = []) :
    (dispatch.advance index desk.device found pool stage).Faithful registry holds devices
      filled := by
  have hdevice : desk.device ∈ devices :=
    h.devices_eq ▸ List.mem_map_of_mem (List.mem_of_getElem? hdesk)
  have hregistry := h.registry_eq
  -- Every desk but the one served stood there before.
  have hdesks : ∀ other ∈ (dispatch.advance index desk.device found pool stage).desks,
      other ∈ dispatch.desks ∨ other = { device := desk.device, stage } :=
    fun other hother => List.mem_or_eq_of_mem_set hother
  constructor
  case wellFormed => exact hserves.wellFormed
  case registry_eq => exact hserves.registry.trans hregistry
  case devices_eq =>
    rw [← h.devices_eq]
    exact map_device_set hdesk stage
  case units =>
    have hhanded : (dispatch.handed ++ found.toList.map (desk.device, ·)).map Prod.snd =
        dispatch.handed.map Prod.snd ++ found.toList := by
      cases found <;> simp
    change filled.units.Perm (List.map _ (dispatch.handed ++ _) ++ pool.units)
    rw [hhanded, List.append_assoc]
    exact h.units.trans (hserves.units.append_left _)
  case generic =>
    intro unit hunit
    exact h.generic (hserves.generic.subset hunit)
  case gated =>
    intro unit hunit
    exact h.gated (hserves.gated.subset hunit)
  case handed =>
    intro entry hentry
    rcases List.mem_append.mp hentry with hold | hnew
    · exact h.handed entry hold
    · obtain ⟨unit, hunit, rfl⟩ := List.mem_map.mp hnew
      refine ⟨hdevice, ?_⟩
      rcases hserves.taken unit (Option.mem_toList.mp hunit) with hgeneric | ⟨hgated, hsatisfies⟩
      · exact .inl (h.generic hgeneric)
      · exact .inr ⟨h.gated hgated, hregistry ▸ hsatisfies⟩
  case turned =>
    intro unit hunit serial hserial
    rcases hserves.turned unit hunit serial hserial with hold | ⟨rfl, hnot⟩
    · exact h.turned unit (hserves.gated.subset hunit) serial hold
    · exact ⟨desk.device, hdevice, rfl, hregistry ▸ hnot⟩
  case exhausted =>
    intro other hother hstage
    rcases hdesks other hother with hold | rfl
    · exact hserves.turnedDown (h.exhausted other hold hstage)
    · exact hexhausted hstage
  case drained =>
    intro other hother hstage
    rcases hdesks other hother with hold | rfl
    · exact List.sublist_nil.mp (h.drained other hold hstage ▸ hserves.generic)
    · exact hdrained hstage

private theorem step (h : dispatch.Faithful registry holds devices filled) {index : Nat}
    (hstep : (dispatch.step index).Path trace next) (hsteady : Steady registry holds trace) :
    next.Faithful registry holds devices filled := by
  rcases step_cases hstep with
    rfl | ⟨desk, hdesk, ⟨found, pool, hpoll, rfl⟩ | ⟨hhalfway, rfl⟩⟩
  · exact h
  · have hserves := h.wellFormed.servesDevice_pollGated hpoll (h.registry_eq ▸ hsteady)
    cases found with
    | none => exact h.advance hdesk hserves (fun _ => WorkPool.turnedDown_of_pollGated hpoll) nofun
    | some unit => exact h.advance hdesk hserves nofun nofun
  · have hserves : dispatch.pool.ServesDevice holds desk.device _ _ :=
      h.wellFormed.servesDevice_pollGeneric
    have hturned := h.exhausted desk (List.mem_of_getElem? hdesk) (.inl hhalfway)
    exact h.advance hdesk hserves (fun _ => hserves.turnedDown hturned)
      fun hstage => WorkPool.generic_of_pollGeneric_eq_none (CallStage.answered.inj hstage)

private theorem play (h : dispatch.Faithful registry holds devices filled) {schedule : List Nat}
    (hplay : (dispatch.play schedule).Path trace last) (hsteady : Steady registry holds trace) :
    last.Faithful registry holds devices filled := by
  have hinv := Session.invariant_follow
    (fun past dispatch => Steady registry holds past →
      dispatch.Faithful registry holds devices filled)
    (fun hpast hstep hsteady => (hpast (hsteady.subset (List.subset_append_left _ _))).step hstep
      (hsteady.subset (List.subset_append_right _ _)))
    (fun _ => h) hplay
  exact hinv hsteady

/-- When all calls have come back empty, a gated unit left is turned down by every device. -/
theorem rejectedBy_of_done (h : dispatch.Faithful registry holds devices filled)
    (hdone : ∀ desk ∈ dispatch.desks, desk.stage = .answered none) {unit : TestUnit}
    (hunit : unit ∈ dispatch.pool.gated) :
    dispatch.pool.rejectedBy unit = .ofList (devices.map (·.serial)) := by
  apply Names.ext_contains
  intro serial
  rw [Names.contains_ofList, List.mem_map]
  constructor
  · intro hserial
    obtain ⟨device, hdevice, rfl, -⟩ := h.turned unit hunit serial hserial
    exact ⟨device, hdevice, rfl⟩
  · rintro ⟨device, hdevice, rfl⟩
    rw [← h.devices_eq] at hdevice
    obtain ⟨desk, hdesk, rfl⟩ := List.mem_map.mp hdevice
    exact h.exhausted desk hdesk (.inr (hdone desk hdesk)) unit hunit

/-- A unit all devices of distinct serials turned down is satisfied by none of them. -/
theorem not_satisfies_of_done (h : dispatch.Faithful registry holds devices filled)
    (hserials : (devices.map (·.serial)).Nodup)
    (hdone : ∀ desk ∈ dispatch.desks, desk.stage = .answered none) {unit : TestUnit}
    (hunit : unit ∈ dispatch.pool.gated) {device : Device} (hdevice : device ∈ devices) :
    ¬Satisfies registry holds device unit.tokens := by
  have hrejected : (dispatch.pool.rejectedBy unit).contains device.serial := by
    rw [h.rejectedBy_of_done hdone hunit, Names.contains_ofList]
    exact List.mem_map_of_mem hdevice
  obtain ⟨other, hother, hserial, hnot⟩ := h.turned unit hunit _ hrejected
  have hsame : other = device :=
    List.inj_on_of_nodup_map hserials hother hdevice hserial
  exact hsame ▸ hnot

/-- When all calls have come back empty, no generic unit is left. -/
theorem generic_of_done (h : dispatch.Faithful registry holds devices filled)
    (hdone : ∀ desk ∈ dispatch.desks, desk.stage = .answered none) (hsome : devices ≠ []) :
    dispatch.pool.generic = [] := by
  obtain ⟨device, hdevice⟩ := List.exists_mem_of_ne_nil _ hsome
  rw [← h.devices_eq] at hdevice
  obtain ⟨desk, hdesk, -⟩ := List.mem_map.mp hdevice
  exact h.drained desk hdesk (hdone desk hdesk)

/-- No unit gets lost: it has been handed out or is left. -/
theorem mem_handed_or_left (h : dispatch.Faithful registry holds devices filled) {unit : TestUnit}
    (hunit : unit ∈ filled.generic ∨ unit ∈ filled.gated) :
    unit ∈ dispatch.handed.map Prod.snd ∨ unit ∈ dispatch.pool.generic ∨
      unit ∈ dispatch.pool.gated := by
  have hfilled := h.units.mem_iff.mp (List.mem_append.mpr hunit)
  rwa [List.mem_append, WorkPool.units, List.mem_append] at hfilled

/-- Handed out are the generic units and the gated units some device satisfies. -/
theorem mem_handed_iff (h : dispatch.Faithful registry holds devices filled)
    (hfilled : filled.WellFormed) (hserials : (devices.map (·.serial)).Nodup)
    (hdone : ∀ desk ∈ dispatch.desks, desk.stage = .answered none) {unit : TestUnit} :
    unit ∈ dispatch.handed.map Prod.snd ↔
      unit ∈ filled.generic ∧ devices ≠ [] ∨
      unit ∈ filled.gated ∧ ∃ device ∈ devices, Satisfies registry holds device unit.tokens := by
  constructor
  · intro hunit
    obtain ⟨⟨device, _⟩, hentry, rfl⟩ := List.mem_map.mp hunit
    obtain ⟨hdevice, hgeneric | ⟨hgated, hsatisfies⟩⟩ := h.handed _ hentry
    · exact .inl ⟨hgeneric, List.ne_nil_of_mem hdevice⟩
    · exact .inr ⟨hgated, device, hdevice, hsatisfies⟩
  · rintro (⟨hgeneric, hsome⟩ | ⟨hgated, device, hdevice, hsatisfies⟩)
    · rcases h.mem_handed_or_left (.inl hgeneric) with hhanded | hleft | hleft
      · exact hhanded
      · rw [h.generic_of_done hdone hsome] at hleft
        cases hleft
      · exact absurd (h.gated hleft) (hfilled.not_mem_gated hgeneric)
    · rcases h.mem_handed_or_left (.inr hgated) with hhanded | hleft | hleft
      · exact hhanded
      · exact absurd hgated (hfilled.not_mem_gated (h.generic hleft))
      · exact absurd hsatisfies (h.not_satisfies_of_done hserials hdone hleft hdevice)

/-- Left are the gated units no device satisfies. -/
theorem mem_gated_iff (h : dispatch.Faithful registry holds devices filled)
    (hfilled : filled.WellFormed) (hserials : (devices.map (·.serial)).Nodup)
    (hdone : ∀ desk ∈ dispatch.desks, desk.stage = .answered none) {unit : TestUnit} :
    unit ∈ dispatch.pool.gated ↔
      unit ∈ filled.gated ∧ ∀ device ∈ devices, ¬Satisfies registry holds device unit.tokens := by
  constructor
  · intro hunit
    refine ⟨h.gated hunit, ?_⟩
    intro device hdevice
    exact h.not_satisfies_of_done hserials hdone hunit hdevice
  · rintro ⟨hgated, hunsatisfied⟩
    rcases h.mem_handed_or_left (.inr hgated) with hhanded | hleft | hleft
    · obtain ⟨⟨device, _⟩, hentry, rfl⟩ := List.mem_map.mp hhanded
      obtain ⟨hdevice, hgeneric | ⟨-, hsatisfies⟩⟩ := h.handed _ hentry
      · exact absurd hgated (hfilled.not_mem_gated hgeneric)
      · exact absurd hsatisfies (hunsatisfied device hdevice)
    · exact absurd hgated (hfilled.not_mem_gated (h.generic hleft))
    · exact hleft

end Faithful

private theorem faithful_start (h : pool.WellFormed) (hfresh : pool.rejections = []) :
    (start pool devices).Faithful pool.registry holds devices pool where
  wellFormed := h
  registry_eq := rfl
  devices_eq := by simp [start, Function.comp_def]
  units := .refl _
  generic := List.Subset.refl _
  gated := List.Subset.refl _
  handed := by simp [start]
  turned unit _ serial hserial := by
    simp [start, WorkPool.rejectedBy, hfresh, Rejections.serialsOf, Names.contains,
      Names.empty] at hserial
  exhausted desk hdesk hstage := by
    obtain ⟨device, -, rfl⟩ := List.mem_map.mp hdesk
    simp at hstage
  drained desk hdesk hstage := by
    obtain ⟨device, -, rfl⟩ := List.mem_map.mp hdesk
    cases hstage

/-- When every device has been told that there is nothing left for it, and the providers were
steady, the schedule has had no influence: handed out, each once, are the generic units and the
gated units some device satisfies, the latter each to a device that satisfies it; left are the
gated units no device satisfies, each turned down by all devices. -/
theorem handed_out_whatever_schedule {generic gated : List (Option TestUnit)}
    {rank : TestUnit → Nat} {schedule : List Nat}
    (hserials : (devices.map (·.serial)).Nodup)
    (hplay : ((start (.ofUnits rank generic gated registry) devices).play schedule).Path trace last)
    (hsteady : Steady registry holds trace)
    (hdone : ∀ desk ∈ last.desks, desk.stage = .answered none) :
    (∀ unit, unit ∈ last.handed.map Prod.snd ↔
      some unit ∈ generic ∧ devices ≠ [] ∨
      some unit ∉ generic ∧ some unit ∈ gated ∧
        ∃ device ∈ devices, Satisfies registry holds device unit.tokens) ∧
    (last.handed.map Prod.snd).Nodup ∧
    (∀ device unit, (device, unit) ∈ last.handed → device ∈ devices ∧
      (some unit ∉ generic → Satisfies registry holds device unit.tokens)) ∧
    (devices ≠ [] → last.pool.generic = []) ∧
    (∀ unit, unit ∈ last.pool.gated ↔
      some unit ∉ generic ∧ some unit ∈ gated ∧
        ∀ device ∈ devices, ¬Satisfies registry holds device unit.tokens) ∧
    ∀ unit ∈ last.pool.gated, last.pool.rejectedBy unit = .ofList (devices.map (·.serial)) := by
  have hformed : (WorkPool.ofUnits rank generic gated registry).WellFormed :=
    WorkPool.wellFormed_ofUnits
  have hlast : last.Faithful registry holds devices (.ofUnits rank generic gated registry) :=
    (faithful_start hformed rfl).play hplay hsteady
  have hnodup := hlast.units.nodup_iff.mp hformed.units_nodup
  refine ⟨?_, (List.nodup_append.mp hnodup).1, ?_, hlast.generic_of_done hdone, ?_, ?_⟩
  · intro unit
    rw [hlast.mem_handed_iff hformed hserials hdone, WorkPool.mem_generic_ofUnits,
      WorkPool.mem_gated_ofUnits, and_assoc]
  · intro device unit hentry
    obtain ⟨hdevice, hgeneric | ⟨-, hsatisfies⟩⟩ := hlast.handed _ hentry
    · exact ⟨hdevice, fun hnot => absurd (WorkPool.mem_generic_ofUnits.mp hgeneric) hnot⟩
    · exact ⟨hdevice, fun _ => hsatisfies⟩
  · intro unit
    rw [hlast.mem_gated_iff hformed hserials hdone, WorkPool.mem_gated_ofUnits, and_assoc]
  · intro unit hunit
    exact hlast.rejectedBy_of_done hdone hunit

/-- Two devices take turns in the middle of each other's calls. -/
theorem handed_out_two_devices :
    let registry := TokenRegistry.register {} "sim" (some (.external 0))
    let holds : Device → String → Bool := fun device token => device.serial = "two" && token = "sim"
    let devices : List Device := [⟨"one", .physical⟩, ⟨"two", .physical⟩]
    let generic : List (Option TestUnit) := [some (.plain 0 "a" []), none, some (.plain 1 "b" [])]
    let gated : List (Option TestUnit) := [some (.plain 2 "c" ["sim"]), some (.plain 3 "d" ["nfc"])]
    let returned : List (Device × TestUnit) :=
      [(⟨"two", .physical⟩, .plain 2 "c" ["sim"]), (⟨"one", .physical⟩, .plain 0 "a" []),
        (⟨"two", .physical⟩, .plain 1 "b" [])]
    ∃ trace last,
      (devices.map (·.serial)).Nodup ∧
      ((start (.ofUnits WorkPool.asGiven generic gated (some registry)) devices).play (E := .silent)
        [0, 1, 0, 1, 0, 1, 0, 1, 1]).Path trace last ∧
      Steady (some registry) holds trace ∧
      (∀ desk ∈ last.desks, desk.stage = .answered none) ∧
      last.handed = returned ∧
      last.pool.generic = [] ∧
      (∀ unit, unit ∈ last.pool.gated ↔ some unit ∉ generic ∧ some unit ∈ gated ∧
        ∀ device ∈ devices, ¬Satisfies (some registry) holds device unit.tokens) ∧
      ∀ unit ∈ last.pool.gated, last.pool.rejectedBy unit = .ofList ["one", "two"] := by
  intro registry holds devices generic gated returned
  have hserials : (devices.map (·.serial)).Nodup := by decide
  let session : Work .silent Dispatch :=
    (start (.ofUnits WorkPool.asGiven generic gated (some registry)) devices).play
      [0, 1, 0, 1, 0, 1, 0, 1, 1]
  let course := session.converse (Session.obligingWorld holds Interface.silence)
  have hplay : session.Path course.1 course.2 := Session.path_converse _ session
  have hsteady : Steady (some registry) holds course.1 :=
    steady_converse_obligingWorld TokenRegistry.external_of_register Interface.silence session
  have hdone : ∀ desk ∈ course.2.desks, desk.stage = .answered none := by decide
  obtain ⟨-, -, -, hgeneric, hgated, hrejected⟩ :=
    handed_out_whatever_schedule hserials hplay hsteady hdone
  exact ⟨_, _, hserials, hplay, hsteady, hdone, by decide, hgeneric (by decide), hgated, hrejected⟩

end Dispatch

end Fleet
