import Fleet.Proofs.Pool.Conservation

/-!
# Exhausted pools

A pool that had nothing for a device has nothing for it later. All units left are gated and on
record as turned down by the device; units are only taken out, and no refusal of a unit that is left
is forgotten, so this stays so whatever calls come later and whatever the providers say by then.
-/

namespace Fleet

namespace WorkPool

variable {E : Interface} {pool rest : WorkPool} {device : Device} {serial : String}
  {found : Option TestUnit} {returned : List TestUnit} {calls : List Call}
  {trace : List (Session.Exchange (World E))}

/-- Every gated unit is on record as turned down by a device of this serial. -/
def TurnedDown (serial : String) (pool : WorkPool) : Prop :=
  ∀ unit ∈ pool.gated, (pool.rejectedBy unit).contains serial

/-- Nothing is left for a device of this serial. -/
structure Exhausted (serial : String) (pool : WorkPool) : Prop where
  generic : pool.generic = []
  turnedDown : pool.TurnedDown serial

namespace Serves

/-- If a device was turned down for all gated units, it was for those that are left. -/
theorem turnedDown (h : pool.Serves returned rest) (hpool : pool.TurnedDown serial) :
    rest.TurnedDown serial := by
  intro unit hunit
  exact h.kept unit hunit serial (hpool unit (h.gated.subset hunit))

/-- Where nothing is left for a device, nothing is left for it later. -/
theorem exhausted (h : pool.Serves returned rest) (hpool : pool.Exhausted serial) :
    rest.Exhausted serial where
  generic := List.sublist_nil.mp (hpool.generic ▸ h.generic)
  turnedDown := h.turnedDown hpool.turnedDown

end Serves

/-- A device that found no gated unit has turned down all of them. -/
theorem turnedDown_of_pollGated (h : (pool.pollGated device).Path trace (none, rest)) :
    rest.TurnedDown device.serial := by
  obtain ⟨marked, hseek, rfl⟩ := path_pollGated.mp h
  exact (sought_of_path hseek).exhausted rfl

/-- A device that has turned down all gated units is given none of them. -/
theorem TurnedDown.pollGated_eq_none (hpool : pool.TurnedDown device.serial)
    (h : (pool.pollGated device).Path trace (found, rest)) : found = none := by
  obtain ⟨marked, hseek, -⟩ := path_pollGated.mp h
  cases found with
  | none => rfl
  | some unit =>
    obtain ⟨hgated, hfree, -⟩ := (sought_of_path hseek).taken unit rfl
    have hturned : (pool.rejections.serialsOf unit).contains device.serial := hpool unit hgated
    rw [hfree] at hturned
    cases hturned

/-- No generic unit is found only if there is none. -/
theorem generic_of_pollGeneric_eq_none (h : pool.pollGeneric.1 = none) :
    pool.pollGeneric.2.generic = [] := by
  rw [pollGeneric] at h ⊢
  split
  · assumption
  · rename_i hgeneric
    simp [hgeneric] at h

/-- A generic unit that is found was in the pool. -/
theorem mem_generic_of_pollGeneric {unit : TestUnit} (h : unit ∈ pool.pollGeneric.1) :
    unit ∈ pool.generic := by
  rw [pollGeneric] at h
  split at h
  · cases h
  · rename_i hgeneric
    obtain rfl := Option.some.inj h
    simp [hgeneric]

private theorem pollGeneric_eq_none (h : pool.generic = []) : pool.pollGeneric.1 = none := by
  rw [pollGeneric, h]

/-- Withdraw a unit for a device, with other calls answered between the look at the gated units and
the look at the generic ones. -/
def pollAround (device : Device) (between : List Call) (pool : WorkPool) :
    Work E (Option TestUnit × WorkPool) := do
  match ← pool.pollGated device with
  | (some unit, pool) => return (some unit, pool)
  | (none, pool) =>
    let (_, pool) ← answerAll between pool
    return pool.pollGeneric

/-- A poll is one that no other call comes in between. -/
theorem pollAround_nil : pool.pollAround device [] = (pool.poll device : Work E _) := by
  rw [pollAround, poll]
  refine bind_congr fun polled => ?_
  obtain ⟨found, pool⟩ := polled
  cases found <;> rfl

/-- A poll finds a gated unit, or goes on to the generic ones after the calls in between. -/
theorem path_pollAround (h : (pool.pollAround device calls).Path trace (found, rest)) :
    ∃ (gated : Option TestUnit) (mid : WorkPool) (before after : List (Session.Exchange (World E))),
      trace = before ++ after ∧ (pool.pollGated device).Path before (gated, mid) ∧
      ((∃ unit, gated = some unit ∧ found = some unit ∧ rest = mid ∧ after = []) ∨
        gated = none ∧ ∃ (returned : List TestUnit) (later : WorkPool),
          (answerAll calls mid).Path after (returned, later) ∧
            found = later.pollGeneric.1 ∧ rest = later.pollGeneric.2) := by
  obtain ⟨⟨gated, mid⟩, before, after, rfl, hgated, h⟩ := Session.path_seq.mp h
  refine ⟨gated, mid, before, after, rfl, hgated, ?_⟩
  cases gated with
  | some unit =>
    obtain ⟨rfl, hanswer⟩ := Session.path_pure.mp h
    obtain ⟨rfl, rfl⟩ := Prod.mk.inj hanswer
    exact .inl ⟨unit, rfl, rfl, rfl, rfl⟩
  | none =>
    obtain ⟨⟨returned, later⟩, asked, _, rfl, hcalls, h⟩ := Session.path_seq.mp h
    obtain ⟨rfl, hanswer⟩ := Session.path_pure.mp h
    rw [List.append_nil]
    exact .inr ⟨rfl, returned, later, hcalls, congrArg Prod.fst hanswer,
      congrArg Prod.snd hanswer⟩

namespace WellFormed

/-- A poll in vain exhausts the pool for the device. -/
theorem exhausted_of_pollAround (hformed : pool.WellFormed)
    (h : (pool.pollAround device calls).Path trace (none, rest)) :
    rest.WellFormed ∧ rest.Exhausted device.serial := by
  obtain ⟨_, mid, _, _, -, hgated,
    ⟨_, -, hnone, -⟩ | ⟨rfl, returned, later, hcalls, hnone, rfl⟩⟩ := path_pollAround h
  · cases hnone
  have hturned : mid.TurnedDown device.serial := turnedDown_of_pollGated hgated
  have hlater := (hformed.withdraws_pollGated hgated).wellFormed.serves_answerAll hcalls
  have hlast := hlater.wellFormed.withdraws_pollGeneric
  exact ⟨hlast.wellFormed, generic_of_pollGeneric_eq_none hnone.symm,
    hlast.turnedDown (hlater.turnedDown hturned)⟩

/-- A pool exhausted for a device returns nothing to it. -/
theorem found_of_pollAround (hformed : pool.WellFormed) (hpool : pool.Exhausted device.serial)
    (h : (pool.pollAround device calls).Path trace (found, rest)) : found = none := by
  obtain ⟨gated, mid, _, _, -, hgated,
    ⟨unit, rfl, rfl, -⟩ | ⟨rfl, returned, later, hcalls, rfl, -⟩⟩ := path_pollAround h
  · exact hpool.turnedDown.pollGated_eq_none hgated
  · have hmid := hformed.withdraws_pollGated hgated
    have hlater := hmid.trans (hmid.wellFormed.serves_answerAll hcalls)
    exact pollGeneric_eq_none (hlater.exhausted hpool).generic

end WellFormed

/-- A device that has polled in vain polls in vain again, whatever was called before, in between and
since. -/
theorem found_of_poll_again {generic gated : List (Option TestUnit)}
    {registry : Option TokenRegistry} {rank : TestUnit → Nat}
    {earlier between later meanwhile : List Call} {other : Device} {taken : List TestUnit}
    {mid last : WorkPool}
    {past polled since again : List (Session.Exchange (World E))}
    (hpast : (answerAll earlier (ofUnits rank generic gated registry)).Path past (taken, pool))
    (hpolled : (pool.pollAround device between).Path polled (none, mid))
    (hsince : (answerAll later mid).Path since (returned, last))
    (hserial : other.serial = device.serial)
    (hagain : (last.pollAround other meanwhile).Path again (found, rest)) : found = none := by
  have hformed := (wellFormed_ofUnits.serves_answerAll hpast).wellFormed
  obtain ⟨hmid, hexhausted⟩ := hformed.exhausted_of_pollAround hpolled
  have hlater := hmid.serves_answerAll hsince
  exact hlater.wellFormed.found_of_pollAround (hserial ▸ hlater.exhausted hexhausted) hagain

end WorkPool

end Fleet
