import Fleet.Token

/-!
# The work pool

The units nobody has withdrawn yet, in two buckets: generic units, which any device may take, and
token-gated units, which a device may take if it holds all tokens the unit requires. A device that
does not is recorded in a side table and is never asked about the unit again; other devices still
are. The pool is filled once and only shrinks.

Gated units are looked through in the order in which they were given. In which order generic units
are taken, and rejected ones for the final report, is not settled by a pool: each pool has ranks of
its own, and a statement about all pools is one about all orders. Every unit is taken out once at
most, so whatever the order in which they come out, it is that of some ranks.
-/

namespace Fleet

/-- The serials of the devices that turned units down, unit by unit, in the order in which the
units were turned down first. -/
abbrev Rejections := List (TestUnit × Names)

namespace Rejections

/-- The serials recorded with a unit. -/
def serialsOf (unit : TestUnit) : Rejections → Names
  | [] => .empty
  | (other, serials) :: rest => if other = unit then serials else serialsOf unit rest

/-- Record that a device turned a unit down. -/
def mark (unit : TestUnit) (serial : String) : Rejections → Rejections
  | [] => [(unit, Names.empty.insert serial)]
  | (other, serials) :: rest =>
    if other = unit then (other, serials.insert serial) :: rest
    else (other, serials) :: mark unit serial rest

/-- Forget a unit. -/
def forget (unit : TestUnit) (rejections : Rejections) : Rejections :=
  rejections.filter (·.1 ≠ unit)

/-- The units some device turned down. -/
def units (rejections : Rejections) : List TestUnit :=
  rejections.map Prod.fst

end Rejections

/-- The units still to be withdrawn. -/
structure WorkPool where
  /-- Of the units that may be taken in any order, the one of least rank is taken first. -/
  rank : TestUnit → Nat
  /-- The units without required tokens, in ascending order of their ranks. -/
  generic : List TestUnit
  /-- The other units, in the order in which they were given. -/
  gated : List TestUnit
  /-- Who turned gated units down. -/
  rejections : Rejections := []
  /-- Who evaluates tokens; without a registry no token is held by any device. -/
  registry : Option TokenRegistry

namespace WorkPool

variable {E : Interface}

/-- Units come out in the order in which they were given, or turned down first. -/
def asGiven (_unit : TestUnit) : Nat := 0

/-- Put a unit behind the units of lesser or equal rank. -/
def placeByRank (rank : TestUnit → Nat) (unit : TestUnit) : List TestUnit → List TestUnit
  | [] => [unit]
  | head :: rest =>
    if rank unit < rank head then unit :: head :: rest else head :: placeByRank rank unit rest

/-- The units of a list in ascending order of their ranks, units of one rank as they were. -/
def sortByRank (rank : TestUnit → Nat) (units : List TestUnit) : List TestUnit :=
  units.foldl (fun sorted unit => placeByRank rank unit sorted) []

/-- The units of a list, each once, in the order of their first places. -/
def distinct (units : List TestUnit) : List TestUnit :=
  units.foldl (fun seen unit => if unit ∈ seen then seen else seen ++ [unit]) []

/-- A pool of the given units. Missing units are left out, and a unit given twice counts once, as
a generic one if it is given as both. -/
def ofUnits (rank : TestUnit → Nat) (generic gated : List (Option TestUnit))
    (registry : Option TokenRegistry) : WorkPool :=
  let generic := distinct (generic.filterMap id)
  let gated := distinct ((gated.filterMap id).filter (· ∉ generic))
  { rank, generic := sortByRank rank generic, gated, registry }

/-- How many units are left. -/
def size (pool : WorkPool) : Nat :=
  pool.generic.length + pool.gated.length

/-- Whether no unit is left. -/
def isEmpty (pool : WorkPool) : Bool :=
  pool.generic.isEmpty && pool.gated.isEmpty

/-- The gated units some device turned down. -/
def rejected (pool : WorkPool) : List TestUnit :=
  pool.rejections.units

/-- The devices that turned a unit down. -/
def rejectedBy (pool : WorkPool) (unit : TestUnit) : Names :=
  pool.rejections.serialsOf unit

/-- Take a gated unit out of the pool, with all that is recorded about it. -/
def eraseGated (pool : WorkPool) (unit : TestUnit) : WorkPool :=
  { pool with gated := pool.gated.filter (· ≠ unit), rejections := pool.rejections.forget unit }

/-- Withdraw a generic unit. -/
def pollGeneric (pool : WorkPool) : Option TestUnit × WorkPool :=
  match pool.generic with
  | [] => (none, pool)
  | unit :: rest => (some unit, { pool with generic := rest })

/-- Whether a device may take a unit with these required tokens. -/
def admits (registry : Option TokenRegistry) (device : Device) (tokens : Names) : Work E Bool :=
  if tokens.isEmpty then return true
  else
    match registry with
    | none => return false
    | some registry => registry.supports device tokens

/-- Look for the first unit of a list the device may take. The device is recorded with each unit
in front that it has not turned down before. -/
def seekAdmitted (registry : Option TokenRegistry) (device : Device) :
    List TestUnit → Rejections → Work E (Option TestUnit × Rejections)
  | [], rejections => return (none, rejections)
  | unit :: rest, rejections => do
    if (rejections.serialsOf unit).contains device.serial then
      seekAdmitted registry device rest rejections
    else if ← admits registry device unit.tokens then
      return (some unit, rejections)
    else
      logLine .debug device.serial "work_pool" "token_rejected"
        (unit.name ++ " requires [" ++ unit.tokens.joined ++ "], not satisfied by this device")
      seekAdmitted registry device rest (rejections.mark unit device.serial)

/-- Withdraw the first gated unit the device may take. -/
def pollGated (pool : WorkPool) (device : Device) : Work E (Option TestUnit × WorkPool) := do
  let (found, rejections) ← seekAdmitted pool.registry device pool.gated pool.rejections
  let pool := { pool with rejections }
  match found with
  | some unit => return (some unit, pool.eraseGated unit)
  | none => return (none, pool)

/-- Withdraw the first gated unit, whether or not any device may take it. -/
def pollAnyGated (pool : WorkPool) : Option TestUnit × WorkPool :=
  match pool.gated with
  | [] => (none, pool)
  | unit :: _ => (some unit, pool.eraseGated unit)

/-- Withdraw a unit for a device: a gated one it may take, else a generic one. -/
def poll (pool : WorkPool) (device : Device) : Work E (Option TestUnit × WorkPool) := do
  match ← pool.pollGated device with
  | (some unit, pool) => return (some unit, pool)
  | (none, pool) => return pool.pollGeneric

/-- The unit of least rank in a list, the first one of several. -/
def leastRanked (rank : TestUnit → Nat) : List TestUnit → Option TestUnit
  | [] => none
  | unit :: rest =>
    match leastRanked rank rest with
    | none => some unit
    | some least => some (if rank least < rank unit then least else unit)

/-- Take out the rejected unit of least rank, for the final report. -/
def drainRejected (pool : WorkPool) : Option TestUnit × WorkPool :=
  match leastRanked pool.rank pool.rejected with
  | none => (none, pool)
  | some unit => (some unit, pool.eraseGated unit)

/-- Take out any unit left, gated ones first, for the final report. -/
def drainRemaining (pool : WorkPool) : Option TestUnit × WorkPool :=
  match pool.pollAnyGated with
  | (some unit, pool) => (some unit, pool)
  | (none, pool) => pool.pollGeneric

/-- The unit that comes first by rank is one of the units. -/
theorem leastRanked_mem {rank : TestUnit → Nat} {units : List TestUnit} {unit : TestUnit}
    (h : leastRanked rank units = some unit) : unit ∈ units := by
  induction units generalizing unit with
  | nil => simp [leastRanked] at h
  | cons head rest ih =>
    rw [leastRanked] at h
    split at h
    · exact Option.some.inj h ▸ List.mem_cons_self
    · rename_i least hl
      split at h
      · exact Option.some.inj h ▸ List.mem_cons_of_mem _ (ih hl)
      · exact Option.some.inj h ▸ List.mem_cons_self

/-- Every drained rejected unit leaves the side table. -/
theorem length_rejections_drainRejected {pool rest : WorkPool} {unit : TestUnit}
    (h : pool.drainRejected = (some unit, rest)) :
    rest.rejections.length < pool.rejections.length := by
  rw [drainRejected] at h
  split at h
  · simp at h
  · rename_i least hl
    cases h
    obtain ⟨entry, hm, he⟩ := List.mem_map.mp (leastRanked_mem hl)
    exact List.length_filter_lt_length_iff_exists.mpr ⟨entry, hm, by simp [he]⟩

private theorem size_eraseGated_lt {pool : WorkPool} {unit : TestUnit} (h : unit ∈ pool.gated) :
    (pool.eraseGated unit).size < pool.size := by
  have hlt : (pool.gated.filter (· ≠ unit)).length < pool.gated.length :=
    List.length_filter_lt_length_iff_exists.mpr ⟨unit, h, by simp⟩
  simpa [size, eraseGated] using hlt

private theorem size_pollGeneric {pool rest : WorkPool} {unit : TestUnit}
    (h : pool.pollGeneric = (some unit, rest)) : rest.size < pool.size := by
  rw [pollGeneric] at h
  split at h
  · simp at h
  · rename_i hg
    cases h
    simp [size, hg]

/-- A pool that gives up a remaining unit gets smaller. -/
theorem size_drainRemaining {pool rest : WorkPool} {unit : TestUnit}
    (h : pool.drainRemaining = (some unit, rest)) : rest.size < pool.size := by
  rw [drainRemaining, pollAnyGated] at h
  cases hg : pool.gated with
  | nil =>
    simp only [hg] at h
    exact size_pollGeneric h
  | cons head tail =>
    simp only [hg] at h
    cases h
    exact size_eraseGated_lt (by simp [hg])

end WorkPool

end Fleet
