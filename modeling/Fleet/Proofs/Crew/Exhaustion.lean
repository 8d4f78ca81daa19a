import Fleet.Proofs.Crew.SignOut

/-!
# What the phases of pollers say about the pool

A poller that looks for generic units has turned down all gated ones, and one that leaves because
there is nothing more for it leaves an exhausted pool. Both stay true whatever the other pollers do.
When the last poller out reports what is left, all the others have decided how they leave, so each
unit it reports was turned down by the device of every poller that found nothing more.
-/

namespace Fleet

variable {E : Interface} {conducts : Conducts E} {trace : List (Session.Exchange (World E))}

namespace Poller

/-- The units the poller asked to report that they did not run, or complained about. -/
def reported (poller : Poller) : List TestUnit :=
  poller.asked ++ poller.unreportable

/-- What the poller's phase says about the pool is true. -/
structure Informed (pool : WorkPool) (poller : Poller) : Prop where
  halfway : poller.phase = .seekingGeneric → pool.TurnedDown poller.resources.device.serial
  drained : poller.phase.decided? = some (.ok (.ok ())) →
    pool.Exhausted poller.resources.device.serial

variable {pool rest : WorkPool} {returned : List TestUnit} {poller : Poller}

/-- It stays true when units are taken out. -/
theorem Informed.serves (h : poller.Informed pool) (hserves : pool.Serves returned rest) :
    poller.Informed rest where
  halfway hphase := hserves.turnedDown (h.halfway hphase)
  drained hdecided := hserves.exhausted (h.drained hdecided)

/-- The first phase of a poller says nothing about the pool. -/
theorem informed_ofResources {resources : Resources} : (ofResources resources).Informed pool where
  halfway hphase := nomatch hphase
  drained hdecided := nomatch hdecided

end Poller

/-- What is done with a unit never makes a poller find that nothing is left. -/
theorem Phase.Handles.next_ne {phase next : Phase} {dropped : List TestUnit}
    (h : phase.Handles conducts trace next dropped) :
    next ≠ .seekingGeneric ∧ next.decided? ≠ some (.ok (.ok ())) := by
  cases h with
  | executed honce hnext =>
    rcases hnext with rfl | ⟨error, rfl⟩ | ⟨error, rfl⟩ <;> exact ⟨nofun, nofun⟩
  | _ => exact ⟨nofun, nofun⟩

namespace Station

variable {station last : Station}

/-- A move takes units out of the pool as the pool gives them up. -/
theorem Move.serves (h : station.Move conducts trace last)
    (hformed : station.floor.pool.WellFormed) :
    ∃ returned, station.floor.pool.Serves returned last.floor.pool := by
  cases h with
  | seek hphase hwithdraws hvain huneventful => exact ⟨_, hwithdraws⟩
  | report hphase hdrained hreported hemptied => exact ⟨_, hdrained⟩
  | _ => exact ⟨[], hformed.withdraws_none⟩

/-- No move changes what a poller is equipped with. -/
theorem Move.resources_eq (h : station.Move conducts trace last) :
    last.poller.resources = station.poller.resources := by
  cases h <;> rfl

/-- Only the final report reports units, which it takes out of the pool. -/
theorem Move.mem_reported (h : station.Move conducts trace last) {unit : TestUnit}
    (hunit : unit ∈ last.poller.reported) :
    unit ∈ station.poller.reported ∨
      (∃ exit, station.poller.phase = .reporting exit) ∧ unit ∈ station.floor.pool.units := by
  cases h with
  | report hphase hdrained hreported hemptied =>
    rename_i exit drained network pool
    have hmem : unit ∈ station.poller.asked ++ reporters drained ++
        (station.poller.unreportable ++ nonReporters drained) := hunit
    simp only [List.mem_append] at hmem
    rcases hmem with (hold | hnew) | (hold | hnew)
    · exact .inl (List.mem_append_left _ hold)
    · exact .inr ⟨⟨exit, hphase⟩, hdrained.mem_of_mem_returned (List.mem_filter.mp hnew).1⟩
    · exact .inl (List.mem_append_right _ hold)
    · exact .inr ⟨⟨exit, hphase⟩, hdrained.mem_of_mem_returned (List.mem_filter.mp hnew).1⟩
  | _ => exact .inl hunit

/-- A move to the next look, or out because nothing is left, is justified by the look before. -/
theorem Move.informed (h : station.Move conducts trace last)
    (hformed : station.floor.pool.WellFormed)
    (hbefore : station.poller.Informed station.floor.pool) :
    last.poller.Informed last.floor.pool := by
  obtain ⟨returned, hserves⟩ := h.serves hformed
  cases h with
  | seek hphase hwithdraws hvain huneventful =>
    rename_i fallback found pool lifecycle network entry
    cases found with
    | some unit => exact ⟨nofun, nofun⟩
    | none =>
      have hpool := hvain rfl
      generalize hstation : station.poller.phase = phase at hphase hpool
      cases hphase with
      | gated => exact ⟨fun _ => hpool, nofun⟩
      | generic => exact ⟨nofun, fun _ => ⟨hpool, hwithdraws.turnedDown (hbefore.halfway hstation)⟩⟩
  | handle hhandles =>
    obtain ⟨hhalfway, hdrained⟩ := hhandles.next_ne
    exact ⟨fun hphase => absurd hphase hhalfway, fun hdecided => absurd hdecided hdrained⟩
  | signOut hphase huneventful =>
    refine ⟨fun hnext => ?_, fun hdecided => hserves.exhausted (hbefore.drained ?_)⟩
    · dsimp only at hnext
      split at hnext <;> cases hnext
    · rw [hphase]
      dsimp only at hdecided
      split at hdecided <;> exact hdecided
  | report hphase hdrained hreported hemptied =>
    refine ⟨nofun, fun hdecided => hserves.exhausted (hbefore.drained ?_)⟩
    rw [hphase]
    exact hdecided
  | rest hphase huneventful => exact hbefore.serves hserves

end Station

namespace Crew

variable {crew next last : Crew} {turn : Turn} {index : Nat} {schedule : List Nat}

/-- The units the pollers of a crew reported as never run. -/
def reported (crew : Crew) : List TestUnit :=
  crew.pollers.flatMap (·.reported)

/-- What holds at every point of a play of pollers that share a pool which was as `given`: the
phases of the pollers say what is true of the pool, and a poller does the final report only after
all of them have decided how they leave. -/
structure Aware (given : WorkPool) (crew : Crew) : Prop where
  formed : crew.floor.pool.WellFormed
  gated : crew.floor.pool.gated ⊆ given.gated
  informed : ∀ poller ∈ crew.pollers, poller.Informed crew.floor.pool
  -- Not an equation, since a device that is missing is counted as well.
  counted : (crew.total (·.phase.counted) : Int) ≤ crew.floor.running
  alone : ∀ poller ∈ crew.pollers, ∀ exit, poller.phase = .reporting exit →
    crew.total (·.phase.counted) = 0

/-- A turn takes at most the poller that signs out from the count, and a poller that goes on to the
final report was the last one counted. -/
theorem Takes.counted_after (h : crew.Takes conducts trace turn)
    (hcounted : (crew.total (·.phase.counted) : Int) ≤ crew.floor.running) :
    (crew.after turn).total (·.phase.counted) ≤ crew.total (·.phase.counted) ∧
      ((crew.after turn).total (·.phase.counted) : Int) ≤ (crew.after turn).floor.running ∧
      ∀ exit, turn.after.poller.phase = .reporting exit →
        (crew.after turn).total (·.phase.counted) = 0 := by
  have htotal := h.total_after (·.phase.counted)
  have hfloor : (crew.after turn).floor.running = turn.after.floor.running := rfl
  rcases h.move.course with
    ⟨hbefore, hafter, -, hrunning, -⟩ | ⟨exit, hphase, hlast, hrunning, -⟩ |
      ⟨exit, hphase, hlast, hrunning, -⟩ | ⟨⟨exit, hphase⟩, hsame⟩
  · rw [hfloor, hrunning, h.floor]
    refine ⟨by omega, by omega, fun exit hreporting => ?_⟩
    rw [hreporting] at hafter
    cases hafter
  · have hbefore : turn.before.poller.phase.counted = 1 := by rw [hphase]; rfl
    have hafter : turn.after.poller.phase.counted = 0 := by rw [hlast]; split <;> rfl
    rw [hfloor, hrunning, h.floor, countBefore]
    -- The poller itself is still counted, so the count does not wrap.
    refine ⟨by omega, by split <;> omega, fun exit hreporting => ?_⟩
    rw [hlast] at hreporting
    split at hreporting
    · rename_i hone
      rw [h.floor] at hone
      omega
    · cases hreporting
  · have hbefore : turn.before.poller.phase.counted = 0 := by rw [hphase]; rfl
    have hafter : turn.after.poller.phase.counted = 0 := by rw [hlast]; rfl
    rw [hfloor, hrunning, h.floor]
    refine ⟨by omega, by omega, fun exit hreporting => ?_⟩
    rw [hlast] at hreporting
    cases hreporting
  · rw [hfloor, hsame, h.floor]
    rw [hsame] at htotal
    refine ⟨by omega, by omega, fun exit hreporting => ?_⟩
    rw [hphase] at hreporting
    cases hreporting

namespace Aware

variable {given : WorkPool}

private theorem after (h : crew.Aware given) (hturn : crew.Takes conducts trace turn) :
    (crew.after turn).Aware given := by
  have hformed := hturn.floor ▸ h.formed
  obtain ⟨returned, hserves⟩ := hturn.move.serves hformed
  obtain ⟨hle, hcounted, hlast⟩ := hturn.counted_after h.counted
  refine ⟨hturn.move.formed hformed, ?_, ?_, hcounted, ?_⟩
  · intro unit hunit
    exact h.gated (hturn.floor ▸ hserves.gated.subset hunit)
  · intro poller hpoller
    rcases List.mem_or_eq_of_mem_set hpoller with hpoller | rfl
    · exact (h.informed poller hpoller).serves (hturn.floor ▸ hserves)
    · have hbefore := h.informed _ (List.mem_of_getElem? hturn.poller)
      exact hturn.move.informed hformed (hturn.floor ▸ hbefore)
  · intro poller hpoller exit hreporting
    rcases List.mem_or_eq_of_mem_set hpoller with hpoller | rfl
    · have hzero := h.alone poller hpoller exit hreporting
      omega
    · exact hlast exit hreporting

/-- A step leaves what the phases say about the pool true. -/
theorem step (h : crew.Aware given) (hstep : (crew.step conducts index).Path trace next) :
    next.Aware given := by
  rcases takes_of_step h.formed hstep with ⟨-, -, rfl⟩ | ⟨turn, -, hturn, rfl⟩
  · exact h
  · exact h.after hturn

/-- So does every schedule. -/
theorem play (h : crew.Aware given) (hplay : (crew.play conducts schedule).Path trace last) :
    last.Aware given :=
  Session.invariant_follow (fun _ crew => crew.Aware given) (fun h hstep => h.step hstep) h hplay

/-- A poller does the final report only after every poller has decided how it leaves. -/
theorem decided_of_reporting (h : crew.Aware given) {poller : Poller}
    (hpoller : poller ∈ crew.pollers) {exit : Exit} (hreporting : poller.phase = .reporting exit) :
    ∀ other ∈ crew.pollers, ∃ exit, other.phase.decided? = some exit := by
  intro other hother
  have hzero := total_eq_zero.mp (h.alone poller hpoller exit hreporting) other hother
  rcases Phase.counted_eq_zero.mp hzero with ⟨exit, hphase⟩ | ⟨exit, hphase⟩ <;>
    exact ⟨exit, by rw [hphase]; rfl⟩

/-- A unit is reported by a turn only if it was still in the pool, and only after every poller has
decided how it leaves. -/
theorem decided_of_reported (h : crew.Aware given)
    (hstep : (crew.step conducts index).Path trace next) {unit : TestUnit}
    (hunit : unit ∉ crew.reported ∧ unit ∈ next.reported) :
    unit ∈ crew.floor.pool.units ∧
      ∀ poller ∈ crew.pollers, ∃ exit, poller.phase.decided? = some exit := by
  obtain ⟨hbefore, hafter⟩ := hunit
  rcases takes_of_step h.formed hstep with ⟨-, -, rfl⟩ | ⟨turn, -, hturn, rfl⟩
  · exact absurd hafter hbefore
  have hold : ∀ poller ∈ crew.pollers, unit ∉ poller.reported := fun poller hpoller hunit =>
    hbefore (List.mem_flatMap.mpr ⟨poller, hpoller, hunit⟩)
  obtain ⟨poller, hpoller, hunit⟩ := List.mem_flatMap.mp hafter
  rcases List.mem_or_eq_of_mem_set hpoller with hpoller | rfl
  · exact absurd hunit (hold poller hpoller)
  have hmem := List.mem_of_getElem? hturn.poller
  rcases hturn.move.mem_reported hunit with hunit | ⟨⟨exit, hreporting⟩, hunit⟩
  · exact absurd hunit (hold _ hmem)
  exact ⟨hturn.floor ▸ hunit, h.decided_of_reporting hmem hreporting⟩

end Aware

/-- In a play a poller keeps its device, and how its run ends once that is decided. -/
theorem earlier_of_play (hformed : crew.floor.pool.WellFormed)
    (hplay : (crew.play conducts schedule).Path trace last) :
    ∀ later ∈ last.pollers, ∃ poller ∈ crew.pollers, later.resources = poller.resources ∧
      ∀ exit, poller.phase.decided? = some exit → later.phase.decided? = some exit := by
  have hkept := Session.invariant_follow
    (fun _ (now : Crew) => now.floor.pool.WellFormed ∧
      ∀ later ∈ now.pollers, ∃ poller ∈ crew.pollers, later.resources = poller.resources ∧
        ∀ exit, poller.phase.decided? = some exit → later.phase.decided? = some exit)
    ?_ ⟨hformed, fun poller hpoller => ⟨poller, hpoller, rfl, fun _ => id⟩⟩ hplay
  · exact hkept.2
  rintro past index now trace next ⟨hnow, hkept⟩ hstep
  rcases takes_of_step hnow hstep with ⟨-, -, rfl⟩ | ⟨turn, -, hturn, rfl⟩
  · exact ⟨hnow, hkept⟩
  refine ⟨hturn.move.formed (hturn.floor ▸ hnow), fun later hlater => ?_⟩
  rcases List.mem_or_eq_of_mem_set hlater with hlater | rfl
  · exact hkept later hlater
  · obtain ⟨poller, hpoller, hresources, hdecided⟩ :=
      hkept _ (List.mem_of_getElem? hturn.poller)
    exact ⟨poller, hpoller, hturn.move.resources_eq.trans hresources,
      fun exit hexit => hturn.move.decided (hdecided exit hexit)⟩

/-- In a play the pollers keep their places and what they are equipped with. -/
theorem resources_of_play (hformed : crew.floor.pool.WellFormed)
    (hplay : (crew.play conducts schedule).Path trace last) :
    last.pollers.map (·.resources) = crew.pollers.map (·.resources) := by
  have hkept := Session.invariant_follow
    (fun _ (now : Crew) => now.floor.pool.WellFormed ∧
      now.pollers.map (·.resources) = crew.pollers.map (·.resources)) ?_ ⟨hformed, rfl⟩ hplay
  · exact hkept.2
  rintro past index now trace next ⟨hnow, hkept⟩ hstep
  rcases takes_of_step hnow hstep with ⟨-, -, rfl⟩ | ⟨turn, -, hturn, rfl⟩
  · exact ⟨hnow, hkept⟩
  · exact ⟨hturn.move.formed (hturn.floor ▸ hnow),
      (map_set_of_eq hturn.poller hturn.move.resources_eq).trans hkept⟩

/-- When a unit is reported, the pool is exhausted for the device of every poller that finds in the
end that nothing is left. -/
theorem Aware.exhausted_of_reported {given : WorkPool} {after : List (Session.Exchange (World E))}
    (h : crew.Aware given) (hstep : (crew.step conducts index).Path trace next)
    (hlater : (next.play conducts schedule).Path after last) {unit : TestUnit}
    (hunit : unit ∉ crew.reported ∧ unit ∈ next.reported) {poller : Poller}
    (hpoller : poller ∈ last.pollers)
    (hdrained : poller.phase.decided? = some (.ok (.ok ()))) :
    crew.floor.pool.Exhausted poller.resources.device.serial := by
  have hplay : (crew.play conducts (index :: schedule)).Path (trace ++ after) last :=
    Session.path_seq.mpr ⟨next, _, _, rfl, hstep, hlater⟩
  obtain ⟨earlier, hmem, hresources, hkept⟩ := earlier_of_play h.formed hplay poller hpoller
  obtain ⟨exit, hexit⟩ := (h.decided_of_reported hstep hunit).2 earlier hmem
  have hsame := hkept exit hexit
  rw [hdrained] at hsame
  obtain rfl := Option.some.inj hsame
  exact hresources ▸ (h.informed earlier hmem).drained hexit

end Crew

end Fleet
