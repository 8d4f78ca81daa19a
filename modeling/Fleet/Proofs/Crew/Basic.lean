import Fleet.Proofs.Poller.Move
import Fleet.Proofs.Schedule
import Mathlib.Algebra.GroupWithZero.Nat

/-!
# Crews

A crew is several pollers on one floor. They take their steps in any order; every turn is on
record, with the poller and the floor as they were before and after it.
-/

namespace Fleet

/-- Replacing an entry of a list changes a sum over the list by what the entry weighs. -/
theorem sum_map_set {α : Type} {weight : α → Nat} {entries : List α} {index : Nat} {old new : α}
    (h : entries[index]? = some old) :
    ((entries.set index new).map weight).sum + weight old =
      (entries.map weight).sum + weight new := by
  induction entries generalizing index with
  | nil => cases h
  | cons head rest ih =>
    cases index with
    | zero =>
      obtain rfl := Option.some.inj h
      simp only [List.set_cons_zero, List.map_cons, List.sum_cons]
      omega
    | succ index =>
      have hrest := ih h
      simp only [List.set_cons_succ, List.map_cons, List.sum_cons]
      omega

/-- A step of one poller of a crew. -/
structure Turn where
  /-- Whose step it was. -/
  index : Nat
  before : Station
  after : Station

/-- Pollers that share a floor. -/
structure Crew where
  floor : Floor
  pollers : List Poller
  /-- The turns taken so far, in order. -/
  turns : List Turn := []

namespace Crew

variable {E : Interface} {conducts : Conducts E} {index : Nat} {crew next : Crew} {turn : Turn}
  {trace : List (Session.Exchange (World E))}

/-- The crew after one more turn. -/
def after (turn : Turn) (crew : Crew) : Crew where
  floor := turn.after.floor
  pollers := crew.pollers.set turn.index turn.after.poller
  turns := crew.turns ++ [turn]

/-- One step of the poller at the given place. -/
def step (conducts : Conducts E) (index : Nat) (crew : Crew) : Work E Crew :=
  match crew.pollers[index]? with
  | none => return crew
  | some poller => do
    let before : Station := { poller, floor := crew.floor }
    return crew.after { index, before, after := ← before.step conducts }

/-- Take steps as a schedule says. -/
def play (conducts : Conducts E) (schedule : List Nat) (crew : Crew) : Work E Crew :=
  Session.follow (step conducts) schedule crew

/-- The pollers before their first steps, all of them counted as running. -/
def start (pool : WorkPool) (resources : List Resources) : Crew where
  floor := { pool, running := resources.length }
  pollers := resources.map .ofResources

/-- Every poller has left. -/
def AllLeft (crew : Crew) : Prop :=
  ∀ poller ∈ crew.pollers, ∃ exit, poller.phase = .left exit

/-- What the pollers weigh together. -/
def total (weight : Poller → Nat) (crew : Crew) : Nat :=
  (crew.pollers.map weight).sum

/-- The turn begins with the crew as it stands, and is a move of its poller. -/
structure Takes (conducts : Conducts E) (trace : List (Session.Exchange (World E))) (crew : Crew)
    (turn : Turn) : Prop where
  poller : crew.pollers[turn.index]? = some turn.before.poller
  floor : turn.before.floor = crew.floor
  move : turn.before.Move conducts trace turn.after

/-- A step is the step of the poller it names on the floor of the crew. -/
theorem path_step {poller : Poller} (hpoller : crew.pollers[index]? = some poller)
    (h : (crew.step conducts index).Path trace next) :
    ∃ last : Station, (Station.step conducts { poller, floor := crew.floor }).Path trace last ∧
      next = crew.after { index, before := { poller, floor := crew.floor }, after := last } := by
  rw [step, hpoller] at h
  obtain ⟨last, before, after, rfl, hstep, hrest⟩ := Session.path_seq.mp h
  obtain ⟨rfl, rfl⟩ := Session.path_pure.mp hrest
  rw [List.append_nil]
  exact ⟨last, hstep, rfl⟩

/-- A step is one of the poller at the given place; where there is none, nothing happens. -/
theorem step_cases (h : (crew.step conducts index).Path trace next) :
    (crew.pollers.length ≤ index ∧ trace = [] ∧ next = crew) ∨
      ∃ (poller : Poller) (last : Station), crew.pollers[index]? = some poller ∧
        (Station.step conducts { poller, floor := crew.floor }).Path trace last ∧
        next = crew.after { index, before := { poller, floor := crew.floor }, after := last } := by
  cases hpoller : crew.pollers[index]? with
  | none =>
    rw [step, hpoller] at h
    obtain ⟨rfl, rfl⟩ := Session.path_pure.mp h
    exact .inl ⟨List.getElem?_eq_none_iff.mp hpoller, rfl, rfl⟩
  | some poller =>
    obtain ⟨last, hlast, hnext⟩ := path_step hpoller h
    exact .inr ⟨poller, last, rfl, hlast, hnext⟩

/-- A step is a turn of the poller it names, if there is one. -/
theorem takes_of_step (hformed : crew.floor.pool.WellFormed)
    (h : (crew.step conducts index).Path trace next) :
    (crew.pollers.length ≤ index ∧ trace = [] ∧ next = crew) ∨
      ∃ turn, turn.index = index ∧ crew.Takes conducts trace turn ∧ next = crew.after turn := by
  rcases step_cases h with hnone | ⟨poller, last, hpoller, hstep, rfl⟩
  · exact .inl hnone
  · exact .inr ⟨_, rfl, ⟨hpoller, rfl, Station.move_of_step hformed hstep⟩, rfl⟩

/-- The pool stays well-formed, whatever is played. -/
theorem wellFormed_play {schedule : List Nat} (hformed : crew.floor.pool.WellFormed)
    (hplay : (crew.play conducts schedule).Path trace next) : next.floor.pool.WellFormed := by
  refine Session.invariant_follow (fun _ crew => crew.floor.pool.WellFormed) ?_ hformed hplay
  intro past index crew trace next hformed hstep
  rcases takes_of_step hformed hstep with ⟨-, -, rfl⟩ | ⟨turn, -, hturn, rfl⟩
  · exact hformed
  · exact hturn.move.formed (hturn.floor ▸ hformed)

/-- Every turn on record is a step on a well-formed pool, made in some part of the conversation. -/
theorem exists_step_of_turn {schedule : List Nat} (hformed : crew.floor.pool.WellFormed)
    (hturns : crew.turns = []) (hplay : (crew.play conducts schedule).Path trace next) :
    ∀ turn ∈ next.turns, turn.before.floor.pool.WellFormed ∧
      ∃ said, said <:+: trace ∧ (turn.before.step conducts).Path said turn.after := by
  let Recorded (past : List (Session.Exchange (World E))) (turn : Turn) : Prop :=
    turn.before.floor.pool.WellFormed ∧
      ∃ said, said <:+: past ∧ (turn.before.step conducts).Path said turn.after
  have hlater {past trace turn} (h : Recorded past turn) : Recorded (past ++ trace) turn := by
    obtain ⟨hbefore, said, hsaid, hstep⟩ := h
    exact ⟨hbefore, said, hsaid.trans (List.prefix_append past trace).isInfix, hstep⟩
  refine (Session.invariant_follow (fun past crew => crew.floor.pool.WellFormed ∧
    ∀ turn ∈ crew.turns, Recorded past turn) ?_ ⟨hformed, by simp [hturns]⟩ hplay).2
  rintro past index crew trace next ⟨hformed, hturns⟩ hstep
  rcases step_cases hstep with ⟨-, rfl, rfl⟩ | ⟨poller, last, hpoller, hlast, rfl⟩
  · exact ⟨hformed, fun turn hturn => hlater (hturns turn hturn)⟩
  · refine ⟨(Station.move_of_step hformed hlast).formed hformed, fun turn hturn => ?_⟩
    rcases List.mem_append.mp hturn with hold | hnew
    · exact hlater (hturns turn hold)
    · obtain rfl := List.mem_singleton.mp hnew
      exact ⟨hformed, trace, (List.suffix_append past trace).isInfix, hlast⟩

/-- Only a poller of the crew takes a turn. -/
theorem Takes.index_lt (h : crew.Takes conducts trace turn) : turn.index < crew.pollers.length :=
  (List.getElem?_eq_some_iff.mp h.poller).1

/-- Whose turn it was is now as the turn left it; the others are as they were. -/
theorem Takes.getElem?_after (h : crew.Takes conducts trace turn) (index : Nat) :
    (crew.after turn).pollers[index]? =
      if index = turn.index then some turn.after.poller else crew.pollers[index]? := by
  by_cases hindex : index = turn.index
  · rw [if_pos hindex, hindex]
    exact List.getElem?_set_self h.index_lt
  · rw [if_neg hindex]
    exact List.getElem?_set_ne (Ne.symm hindex)

/-- A poller of the crew after a turn is the one whose turn it was, or stood there before. -/
theorem Takes.cases_after {poller : Poller} (h : crew.Takes conducts trace turn)
    (hpoller : (crew.after turn).pollers[index]? = some poller) :
    (index = turn.index ∧ poller = turn.after.poller) ∨
      (index ≠ turn.index ∧ crew.pollers[index]? = some poller) := by
  rw [h.getElem?_after] at hpoller
  split at hpoller
  · exact .inl ⟨‹_›, (Option.some.inj hpoller).symm⟩
  · exact .inr ⟨‹_›, hpoller⟩

/-- A turn changes what the pollers weigh by the weight of the poller that took it. -/
theorem Takes.total_after (h : crew.Takes conducts trace turn) (weight : Poller → Nat) :
    (crew.after turn).total weight + weight turn.before.poller =
      crew.total weight + weight turn.after.poller :=
  sum_map_set h.poller

/-- The weights come to nothing exactly if no poller has any. -/
theorem total_eq_zero {weight : Poller → Nat} :
    crew.total weight = 0 ↔ ∀ poller ∈ crew.pollers, weight poller = 0 := by
  rw [total, List.sum_eq_zero_iff_forall_eq_nat, List.forall_mem_map]

end Crew

end Fleet
