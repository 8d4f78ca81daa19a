import Fleet.Proofs.Allocation
import Fleet.Proofs.Invocation.Fates
import Fleet.Proofs.Sim.Steps
import Fleet.Sim.Program
import Mathlib.Data.List.Induction

/-!
# The setup of the simulator program

The program simulates devices with serials of their own, of which the last one is about to drop if
there is another, and pools numbered units with one module behind them. Each of these units runs
once, and nobody provides the token of the units that no device can take.
-/

namespace Fleet

namespace Sim

/-! ## The devices -/

private theorem serial_numbered_injective {number other : Nat}
    (h : (SimDevice.numbered number).serial = (SimDevice.numbered other).serial) :
    number = other := by
  have hdigits : Nat.toDigits 10 number = Nat.toDigits 10 other := by
    have hlists := congrArg String.toList h
    simpa [SimDevice.numbered, toString, Nat.repr] using hlists
  have hnumbers := congrArg (fun digits => Nat.ofDigitChars 10 digits 0) hdigits
  simpa [Nat.ofDigitChars_toDigits] using hnumbers

private theorem serials_modify {devices : List SimDevice} {place : Nat} :
    (devices.modify place ({ · with dropping := true })).map (·.serial) =
      devices.map (·.serial) := by
  induction devices generalizing place with
  | nil => cases place <;> rfl
  | cons sim rest ih =>
    cases place with
    | zero => rfl
    | succ place => exact congrArg (sim.serial :: ·) ih

private theorem countP_modify {devices : List SimDevice} {place : Nat}
    (hplace : place < devices.length)
    (hnone : ∀ sim ∈ devices, sim.dropping = false) :
    (devices.modify place ({ · with dropping := true })).countP (·.dropping) = 1 := by
  induction devices generalizing place with
  | nil => cases hplace
  | cons sim rest ih =>
    obtain ⟨hsim, hrest⟩ := List.forall_mem_cons.mp hnone
    cases place with
    | zero =>
      have hothers : rest.countP (·.dropping) = 0 :=
        List.countP_eq_zero.mpr fun other hother => by simp [hrest other hother]
      simp [hothers]
    | succ place =>
      have hlater := ih (Nat.lt_of_succ_lt_succ hplace) hrest
      simpa [List.countP_cons, hsim] using hlater

private theorem dropping_devices {count : Int} : ∀ sim ∈ devices count, sim.dropping = false := by
  intro sim hsim
  obtain ⟨number, -, rfl⟩ := List.mem_map.mp hsim
  rfl

/-- As many devices are simulated as are asked for. -/
theorem length_devices (count : Int) : (devices count).length = count.toNat := by
  rw [devices, List.length_map, List.length_range]

/-- Simulated devices have serial numbers of their own. -/
theorem serials_start (settings : Settings) :
    ((start settings).devices.map (·.serial)).Nodup := by
  have hdevices : ((devices settings.simDevices).map (·.serial)).Nodup := by
    rw [devices, List.map_map]
    exact List.nodup_range.map fun number other h => serial_numbered_injective h
  change ((withDrop (devices settings.simDevices)).map (·.serial)).Nodup
  rw [withDrop]
  split
  · rwa [serials_modify]
  · exact hdevices

/-- One device is about to drop if there is another that could take over. -/
theorem countP_start (settings : Settings) :
    (start settings).devices.countP (·.dropping) = if 1 < settings.simDevices then 1 else 0 := by
  change (withDrop (devices settings.simDevices)).countP (·.dropping) = _
  rw [withDrop, length_devices]
  split
  · rw [if_pos (by omega), countP_modify (by rw [length_devices]; omega) dropping_devices]
  · rw [if_neg (by omega)]
    exact List.countP_eq_zero.mpr fun sim hsim => by simp [dropping_devices sim hsim]

/-! ## The allocation -/

/-- A device is allocated behind those before it. -/
theorem allocated_context_append (devices : List SimDevice) (sim : SimDevice) :
    (context (devices ++ [sim])).allocated =
      Context.allocate sim.serial (some sim.device) (context devices).allocated := by
  rw [context, List.foldl_append]
  rfl

/-- No device is missing from the context of a simulation. -/
theorem present_context (devices : List SimDevice) :
    ∀ entry ∈ (context devices).allocation, entry.1.isSome = true := by
  suffices hall : ∀ entry ∈ (context devices).allocated, entry.2.isSome = true by
    intro entry hentry
    obtain ⟨held, hheld, rfl⟩ := List.mem_map.mp hentry
    exact hall held hheld
  induction devices using List.reverseRecOn with
  | nil => exact List.forall_mem_nil _
  | append_singleton devices sim ih =>
    rw [allocated_context_append]
    intro entry hentry
    rcases Context.mem_allocate hentry with rfl | hold
    · rfl
    · exact ih entry hold

/-- The context has no more entries than there are devices. -/
theorem length_context_le (devices : List SimDevice) :
    (context devices).allocation.length ≤ devices.length := by
  rw [Context.allocation, List.length_map]
  induction devices using List.reverseRecOn with
  | nil => exact Nat.le_refl _
  | append_singleton devices sim ih =>
    rw [allocated_context_append, List.length_append]
    exact Nat.le_trans Context.length_allocate.2 (Nat.succ_le_succ ih)

/-- Where there is a device, one is allocated. -/
theorem allocation_ne_nil {devices : List SimDevice} (h : devices ≠ []) :
    (context devices).allocation ≠ [] := by
  rw [Context.allocation]
  refine List.map_eq_nil_iff.not.mpr (List.ne_nil_of_length_pos ?_)
  rw [← List.dropLast_concat_getLast h, allocated_context_append]
  exact Context.length_allocate.1

/-! ## The units -/

/-- The simulated module as a unit, numbered behind the others. -/
def keeper (settings : Settings) : TestUnit :=
  moduleUnit (module settings.allowlist) (units settings.simUnits).length

/-- The units of the program: the simulated ones, and the module behind them. -/
def pooled (settings : Settings) : List TestUnit :=
  numberedUnits (units settings.simUnits) 0 ++ [keeper settings]

private theorem mem_numberedUnits {units : List SimUnit} {unit : TestUnit}
    (h : unit ∈ numberedUnits units 0) :
    ∃ sim, units[unit.id]? = some sim ∧ unit = sim.unit unit.id := by
  obtain ⟨⟨sim, id⟩, hmem, rfl⟩ := List.mem_map.mp h
  exact ⟨sim, List.mem_zipIdx_iff_getElem?.mp hmem, rfl⟩

/-- How the units of the program behave. -/
def pooledConducts (settings : Settings) : Conducts Backstage :=
  conductsWithModule (units settings.simUnits) (module settings.allowlist)

/-- Each unit runs once, and only the module is looked up and kept. -/
theorem runsOnce_pooled (settings : Settings) : ∀ unit ∈ pooled settings,
    RunsOnce (homeOf (keeper settings) (module settings.allowlist) unit) unit
      (pooledConducts settings unit) := by
  intro unit hunit
  rcases List.mem_append.mp hunit with hnumbered | hlast
  · obtain ⟨sim, hsim, hunit⟩ := mem_numberedUnits hnumbered
    have hid : unit.id < (units settings.simUnits).length := (List.getElem?_eq_some_iff.mp hsim).1
    have hother : unit ≠ keeper settings := fun hkeeper => Nat.ne_of_lt hid (congrArg _ hkeeper)
    have hconduct : pooledConducts settings unit = sim.conduct := by
      rw [pooledConducts, conductsWithModule, if_neg (Nat.ne_of_lt hid), conducts, hsim]
    rw [homeOf, if_neg hother, hconduct, hunit]
    exact sim.runsOnce unit.id
  · obtain rfl := List.mem_singleton.mp hlast
    have hid : (keeper settings).id = (units settings.simUnits).length := rfl
    rw [homeOf, if_pos rfl, pooledConducts, conductsWithModule, if_pos hid]
    exact runsOnce_module settings.allowlist _

/-- The pool of a simulation has one unit more than are asked for, the module. -/
theorem length_pooled (settings : Settings) :
    (pooled settings).length = settings.simUnits.toNat + 1 := by
  rw [pooled, List.length_append, numberedUnits, List.length_map, List.length_zipIdx, units,
    List.length_map, List.length_range, List.length_singleton]

/-- No unit is pooled twice. -/
theorem nodup_pooled (settings : Settings) : (pooled settings).Nodup := by
  have hids : (numberedUnits (units settings.simUnits) 0).map (·.id) =
      List.range' 0 (units settings.simUnits).length := by
    rw [numberedUnits, List.map_map]
    exact List.zipIdx_map_snd 0 _
  refine List.Nodup.of_map (·.id) ?_
  rw [pooled, List.map_append, hids, List.nodup_append]
  refine ⟨List.nodup_range', List.nodup_singleton _, ?_⟩
  rintro id hid other hother rfl
  obtain rfl := List.mem_singleton.mp hother
  have hlt := (List.mem_range'_1.mp hid).2
  change (units settings.simUnits).length < _ at hlt
  omega

/-- All units of a simulation can report that they were not executed. -/
theorem reports_pooled (settings : Settings) :
    ∀ unit ∈ pooled settings, unit.capabilities.notExecutedReport = true := by
  intro unit hunit
  rcases List.mem_append.mp hunit with hnumbered | hlast
  · obtain ⟨sim, -, hsim⟩ := mem_numberedUnits hnumbered
    rw [hsim]
    rfl
  · obtain rfl := List.mem_singleton.mp hlast
    rfl

end Sim

end Fleet
