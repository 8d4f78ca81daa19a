/-!
# Calls made in turn

Setting devices up and running units have one shape: calls are made one after the other as planned,
and the first one that gives a reason to stop is the last one made. `InTurn` says that a list of
calls is such a one, whatever the calls came to.
-/

namespace Fleet

variable {Plan Call Reason : Type}

/-- The calls are those planned, in the planned order, up to the first one that gives a reason to
stop. -/
inductive InTurn (planned : Call → Plan) (stops : Call → Option Reason) :
    List Plan → List Call → Prop where
  | finished : InTurn planned stops [] []
  | stopped {call : Call} {rest : List Plan} {reason : Reason} (h : stops call = some reason) :
      InTurn planned stops (planned call :: rest) [call]
  | goesOn {call : Call} {rest : List Plan} {calls : List Call} (h : stops call = none)
      (later : InTurn planned stops rest calls) :
      InTurn planned stops (planned call :: rest) (call :: calls)

namespace InTurn

variable {planned : Call → Plan} {stops : Call → Option Reason} {plan more : List Plan}
  {calls others : List Call}

/-- Where nothing is planned, nothing is called. -/
theorem eq_nil (h : InTurn planned stops [] calls) : calls = [] := by
  cases h
  rfl

/-- If no call gives a reason to stop, all planned ones are made. -/
theorem map_eq (h : InTurn planned stops plan calls) (hgoesOn : calls.findSome? stops = none) :
    calls.map planned = plan := by
  induction h with
  | finished => rfl
  | stopped h => simp [h] at hgoesOn
  | goesOn h _ ih =>
    rw [List.findSome?_cons_of_isNone (by simp [h])] at hgoesOn
    rw [List.map_cons, ih hgoesOn]

/-- The calls stopped for the reason that any of them gave: it was the last one. -/
theorem findSome?_eq (h : InTurn planned stops plan calls) {call : Call} (hcall : call ∈ calls)
    {reason : Reason} (hstops : stops call = some reason) :
    calls.findSome? stops = some reason := by
  induction h with
  | finished => simp at hcall
  | stopped h =>
    obtain rfl := List.mem_singleton.mp hcall
    simpa using hstops
  | goesOn h _ ih =>
    rcases List.mem_cons.mp hcall with rfl | hcall
    · rw [h] at hstops
      cases hstops
    · rw [List.findSome?_cons_of_isNone (by simp [h])]
      exact ih hcall

/-- The call that gave a reason to stop is the last one, and what was planned after it is left. -/
theorem eq_concat (h : InTurn planned stops plan calls) {call : Call} (hcall : call ∈ calls)
    {reason : Reason} (hstops : stops call = some reason) :
    ∃ earlier rest, calls = earlier ++ [call] ∧ plan = calls.map planned ++ rest ∧
      ∀ other ∈ earlier, stops other = none := by
  induction h with
  | finished => simp at hcall
  | stopped =>
    obtain rfl := List.mem_singleton.mp hcall
    exact ⟨[], _, rfl, rfl, by simp⟩
  | @goesOn first _ _ hgoesOn _ ih =>
    rcases List.mem_cons.mp hcall with rfl | hcall
    · rw [hgoesOn] at hstops
      cases hstops
    · obtain ⟨earlier, rest, rfl, rfl, hearlier⟩ := ih hcall
      exact ⟨first :: earlier, rest, rfl, rfl, List.forall_mem_cons.mpr ⟨hgoesOn, hearlier⟩⟩

/-- A single call is made in turn, whatever it comes to. -/
theorem single (planned : Call → Plan) (stops : Call → Option Reason) (call : Call) :
    InTurn planned stops [planned call] [call] := by
  cases h : stops call with
  | none => exact .goesOn h .finished
  | some reason => exact .stopped h

/-- Calls that give no reason to stop are followed by those planned next. -/
theorem append (h : InTurn planned stops plan calls) (hgoesOn : calls.findSome? stops = none)
    (hmore : InTurn planned stops more others) :
    InTurn planned stops (plan ++ more) (calls ++ others) := by
  induction h with
  | finished => exact hmore
  | stopped h => simp [h] at hgoesOn
  | goesOn h _ ih =>
    rw [List.findSome?_cons_of_isNone (by simp [h])] at hgoesOn
    exact .goesOn h (ih hgoesOn)

/-- After a reason to stop nothing else that was planned is done. -/
theorem append_of_stopped (h : InTurn planned stops plan calls) {reason : Reason}
    (hstops : calls.findSome? stops = some reason) (more : List Plan) :
    InTurn planned stops (plan ++ more) calls := by
  induction h with
  | finished => simp at hstops
  | stopped h => exact .stopped h
  | goesOn h _ ih =>
    rw [List.findSome?_cons_of_isNone (by simp [h])] at hstops
    exact .goesOn h (ih hstops)

/-- Nothing but planned calls is made. -/
theorem planned_mem (h : InTurn planned stops plan calls) {call : Call} (hcall : call ∈ calls) :
    planned call ∈ plan := by
  induction h with
  | finished => simp at hcall
  | stopped => simp [List.mem_singleton.mp hcall]
  | goesOn _ _ ih =>
    rcases List.mem_cons.mp hcall with rfl | hcall
    · exact List.mem_cons_self
    · exact List.mem_cons_of_mem _ (ih hcall)

end InTurn

end Fleet
