import Fleet.Proofs.Conversation

/-!
# Schedules

Several parties take their steps on one state in the order a schedule gives. What one step
preserves, the whole run preserves, and a party that is given enough steps uses up its measure.
-/

namespace Fleet.Session

variable {Q : Interface} {σ : Type}

/-- Take steps as a schedule says, each of the party it names. -/
def follow (step : Nat → σ → Session Q σ) : List Nat → σ → Session Q σ
  | [], state => return state
  | index :: schedule, state => do follow step schedule (← step index state)

variable {step : Nat → σ → Session Q σ} {schedule : List Nat} {state last : σ}
  {past trace : List (Exchange Q)}

/-- What holds of a state and the conversation that led to it holds after a run if each step keeps
it. -/
theorem invariant_follow (Inv : List (Exchange Q) → σ → Prop)
    (hstep : ∀ {past index state trace next}, Inv past state →
      (step index state).Path trace next → Inv (past ++ trace) next)
    (h : Inv [] state) (hfollow : (follow step schedule state).Path trace last) :
    Inv trace last := by
  suffices hrun : ∀ past, Inv past state → Inv (past ++ trace) last from hrun [] h
  clear h
  intro past h
  induction schedule generalizing past trace state with
  | nil =>
    obtain ⟨rfl, rfl⟩ := path_pure.mp hfollow
    rwa [List.append_nil]
  | cons index schedule ih =>
    obtain ⟨next, before, after, rfl, hfirst, hrest⟩ := path_seq.mp hfollow
    rw [← List.append_assoc]
    exact ih hrest _ (hstep h hfirst)

/-- A measure that no step raises, and that each step of one party lowers until it is zero, falls
with every step the schedule gives to that party. -/
theorem measure_follow (Inv : σ → Prop) (measure : σ → Nat) {party : Nat}
    (hstep : ∀ {index state trace next}, Inv state → (step index state).Path trace next →
      Inv next ∧ measure next ≤ measure state - if index = party then 1 else 0)
    (h : Inv state) (hfollow : (follow step schedule state).Path trace last) :
    measure last ≤ measure state - schedule.count party := by
  induction schedule generalizing trace state with
  | nil =>
    obtain ⟨-, rfl⟩ := path_pure.mp hfollow
    simp
  | cons index schedule ih =>
    obtain ⟨next, before, after, rfl, hfirst, hrest⟩ := path_seq.mp hfollow
    obtain ⟨hnext, hle⟩ := hstep h hfirst
    have hlast := ih hnext hrest
    rw [List.count_cons]
    by_cases hparty : index = party
    · simp only [hparty, if_true, beq_self_eq_true] at hle ⊢
      omega
    · simp only [hparty, if_false, beq_iff_eq] at hle ⊢
      omega

/-- What does not hold before a run but holds after it begins to hold with one of the steps. -/
theorem turning_point_follow (P : σ → Prop) (hfirst : ¬P state) (hlast : P last)
    (hfollow : (follow step schedule state).Path trace last) :
    ∃ earlier index later before during after mid next, schedule = earlier ++ index :: later ∧
      trace = before ++ (during ++ after) ∧ (follow step earlier state).Path before mid ∧
      (step index mid).Path during next ∧ (follow step later next).Path after last ∧
      ¬P mid ∧ P next := by
  induction schedule generalizing trace state with
  | nil =>
    obtain ⟨-, rfl⟩ := path_pure.mp hfollow
    exact absurd hlast hfirst
  | cons index schedule ih =>
    obtain ⟨next, during, after, rfl, hstep, hrest⟩ := path_seq.mp hfollow
    by_cases hnext : P next
    · exact ⟨[], index, schedule, [], during, after, state, next, rfl, rfl,
        path_pure.mpr ⟨rfl, rfl⟩, hstep, hrest, hfirst, hnext⟩
    · obtain ⟨earlier, turn, later, before, between, rest, mid, turned, rfl, rfl, hearlier, hturn,
        hlater, hmid, hturned⟩ := ih hnext hrest
      exact ⟨index :: earlier, turn, later, during ++ before, between, rest, mid, turned, rfl,
        (List.append_assoc ..).symm, path_seq.mpr ⟨next, _, _, rfl, hstep, hearlier⟩, hturn, hlater,
        hmid, hturned⟩

end Fleet.Session

namespace Fleet

/-- Replacing an entry of a list by one that looks the same to `f` changes nothing to `f`. -/
theorem map_set_of_eq {α β : Type} {f : α → β} {entries : List α} {index : Nat} {old new : α}
    (h : entries[index]? = some old) (hsame : f new = f old) :
    (entries.set index new).map f = entries.map f := by
  induction entries generalizing index with
  | nil => rfl
  | cons head rest ih =>
    cases index with
    | zero =>
      obtain rfl := Option.some.inj h
      rw [List.set_cons_zero, List.map_cons, hsame, List.map_cons]
    | succ index => exact congrArg (f head :: ·) (ih h)

end Fleet
