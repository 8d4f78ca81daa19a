import Fleet.Proofs.Crew.Exhaustion
import Fleet.Proofs.Pool.Gating

/-!
# Tokens nobody provides

A poller withdraws a unit only if the unit requires no tokens or each of them has a provider. So
however the pollers of a crew interleave, a unit that requires a token without provider is never
withdrawn.
-/

namespace Fleet

variable {E : Interface}

/-- No tokens are required, or each has a provider. -/
def Providable (registry : Option TokenRegistry) (tokens : Names) : Prop :=
  tokens.isEmpty ∨ ∃ known ∈ registry, ∀ token ∈ tokens.toList, known.providerFor token ≠ none

private theorem providable_of_entitled {registry : Option TokenRegistry} {device : Device}
    {tokens : Names}
    {trace : List (Session.Exchange (World E))} (h : Entitled registry device tokens trace) :
    Providable registry tokens := by
  refine h.imp_right ?_
  rintro ⟨known, hknown, hall⟩
  refine ⟨known, hknown, fun token htoken => ?_⟩
  obtain ⟨provider, hprovider, -⟩ := hall token htoken
  rw [hprovider]
  nofun

namespace Station

variable {conducts : Conducts E} {first mid last : Station} {unit : TestUnit}
  {trace : List (Session.Exchange (World E))} {result : Except Thrown Phase}

/-- A gated unit is withdrawn only if each of its tokens has a provider. -/
theorem providable_of_seekGated (h : seekGated.Ends first trace result last) :
    ∀ unit ∈ last.poller.withdrawn, unit ∈ first.poller.withdrawn ∨
      Providable first.floor.pool.registry unit.tokens := by
  obtain ⟨found, pool, hpath, -, rfl⟩ := path_of_seekGated h
  intro unit hunit
  rcases List.mem_append.mp hunit with hold | hnew
  · exact .inl hold
  · obtain ⟨marked, hseek, -⟩ := WorkPool.path_pollGated.mp hpath
    obtain ⟨-, -, part, -, hadmits⟩ :=
      (WorkPool.sought_of_path hseek).taken unit (Option.mem_toList.mp hnew)
    exact .inr (providable_of_entitled (WorkPool.entitled_of_admits hadmits))

/-- What is withdrawn without asking for tokens is generic. -/
theorem generic_of_seekGeneric (h : seekGeneric.Ends first trace result last) :
    ∀ unit ∈ last.poller.withdrawn, unit ∈ first.poller.withdrawn ∨
      unit ∈ first.floor.pool.generic := by
  obtain ⟨-, -, _, _, _, rfl⟩ := afterSeek_of_seekGeneric h
  intro unit hunit
  exact (List.mem_append.mp hunit).imp_right fun hnew =>
    WorkPool.mem_generic_of_pollGeneric (Option.mem_toList.mp hnew)

/-- A step withdraws only generic units and units whose tokens all have providers. -/
theorem providable_of_step (hformed : first.floor.pool.WellFormed)
    (h : (first.step conducts).Path trace last) :
    ∀ unit ∈ last.poller.withdrawn, unit ∈ first.poller.withdrawn ∨
      unit ∈ first.floor.pool.generic ∨ Providable first.floor.pool.registry unit.tokens := by
  have hmove := move_of_step hformed h
  obtain ⟨result, mid, hact, rfl⟩ := ends_of_step h
  cases hphase : first.poller.phase with
  | seekingGated =>
    rw [hphase] at hact
    exact fun unit hunit => (providable_of_seekGated hact unit hunit).imp_right .inr
  | seekingGeneric =>
    rw [hphase] at hact
    exact fun unit hunit => (generic_of_seekGeneric hact unit hunit).imp_right .inl
  | _ =>
    have hsame := hmove.withdrawn_eq fun fallback hseeks => by rw [hphase] at hseeks; cases hseeks
    exact fun unit hunit => .inl (hsame ▸ hunit)

end Station

namespace Crew

variable {conducts : Conducts E} {known : Option TokenRegistry} {crew next last : Crew}
  {index : Nat} {schedule : List Nat} {trace : List (Session.Exchange (World E))}

/-- The tokens of all units withdrawn so far have providers, and the generic units in the pool
require none. -/
structure Providing (known : Option TokenRegistry) (crew : Crew) : Prop where
  formed : crew.floor.pool.WellFormed
  registry : crew.floor.pool.registry = known
  generic : ∀ unit ∈ crew.floor.pool.generic, unit.tokens.isEmpty = true
  withdrawn : ∀ poller ∈ crew.pollers, ∀ unit ∈ poller.withdrawn,
    Providable known unit.tokens

namespace Providing

private theorem step (h : crew.Providing known)
    (hstep : (crew.step conducts index).Path trace next) :
    next.Providing known := by
  rcases step_cases hstep with ⟨-, rfl, rfl⟩ | ⟨poller, last, hpoller, hlast, rfl⟩
  · exact h
  · obtain ⟨returned, hserves⟩ := (Station.move_of_step h.formed hlast).serves h.formed
    refine ⟨hserves.wellFormed, hserves.registry.trans h.registry,
      fun unit hunit => h.generic unit (hserves.generic.subset hunit), ?_⟩
    intro other hother unit hunit
    rcases List.mem_or_eq_of_mem_set hother with hold | rfl
    · exact h.withdrawn other hold unit hunit
    · rcases Station.providable_of_step h.formed hlast unit hunit with hbefore | hgeneric | hknown
      · exact h.withdrawn poller (List.mem_of_getElem? hpoller) unit hbefore
      · exact .inl (h.generic unit hgeneric)
      · exact h.registry ▸ hknown

/-- After every schedule, the tokens of all withdrawn units have providers. -/
theorem play (h : crew.Providing known) (hplay : (crew.play conducts schedule).Path trace last) :
    last.Providing known :=
  Session.invariant_follow (fun _ crew => crew.Providing known) (fun h hstep => h.step hstep) h
    hplay

end Providing

end Crew

end Fleet
