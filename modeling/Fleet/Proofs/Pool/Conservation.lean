import Fleet.Proofs.Calm
import Fleet.Proofs.Pool.WellFormed

/-!
# Conservation of units

A pool is filled once from two lists of units and then only answers calls. However the calls are
mixed, every unit of the lists is either still in one of the buckets or was returned exactly once,
and the three containers stay in step.
-/

namespace Fleet

namespace WorkPool

section Filling

variable {units seen : List TestUnit} {unit : TestUnit} {generic gated : List (Option TestUnit)}
  {registry : Option TokenRegistry} {rank : TestUnit → Nat}

/-- The units of a list that are not seen yet, each once, behind those seen. -/
def distinctFrom (seen units : List TestUnit) : List TestUnit :=
  units.foldl (fun seen unit => if unit ∈ seen then seen else seen ++ [unit]) seen

private theorem mem_distinctFrom : unit ∈ distinctFrom seen units ↔ unit ∈ seen ∨ unit ∈ units := by
  induction units generalizing seen with
  | nil => simp [distinctFrom]
  | cons head rest ih =>
    have hstep : distinctFrom seen (head :: rest) =
        distinctFrom (if head ∈ seen then seen else seen ++ [head]) rest := rfl
    rw [hstep, ih]
    by_cases hhead : head ∈ seen
    · simp only [hhead, if_true, List.mem_cons]
      constructor
      · exact Or.imp_right .inr
      · rintro (h | rfl | h)
        · exact .inl h
        · exact .inl hhead
        · exact .inr h
    · simp [hhead, or_assoc]

private theorem nodup_distinctFrom (h : seen.Nodup) : (distinctFrom seen units).Nodup := by
  induction units generalizing seen with
  | nil => exact h
  | cons head rest ih =>
    change (distinctFrom (if head ∈ seen then seen else seen ++ [head]) rest).Nodup
    apply ih
    split
    · exact h
    · rename_i hnew
      refine List.nodup_append.mpr ⟨h, by simp, ?_⟩
      rintro a ha b hb rfl
      exact hnew (List.mem_singleton.mp hb ▸ ha)

/-- Leaving units out before or after the others are listed once makes no difference. -/
theorem distinctFrom_filter (keep : TestUnit → Bool) :
    distinctFrom (seen.filter keep) (units.filter keep) =
      (distinctFrom seen units).filter keep := by
  induction units generalizing seen with
  | nil => rfl
  | cons head rest ih =>
    have hstep : distinctFrom seen (head :: rest) =
        distinctFrom (if head ∈ seen then seen else seen ++ [head]) rest := rfl
    rw [hstep, ← ih]
    by_cases hkeep : keep head
    · rw [List.filter_cons_of_pos hkeep]
      change distinctFrom (if head ∈ seen.filter keep then _ else _) (rest.filter keep) = _
      by_cases hseen : head ∈ seen
      · simp [hseen, hkeep]
      · simp [hseen, hkeep]
    · rw [List.filter_cons_of_neg hkeep]
      by_cases hseen : head ∈ seen
      · simp [hseen]
      · simp [hseen, hkeep]

private theorem mem_distinct : unit ∈ distinct units ↔ unit ∈ units := by
  change unit ∈ distinctFrom [] units ↔ _
  simp [mem_distinctFrom]

private theorem nodup_distinct : (distinct units).Nodup :=
  nodup_distinctFrom .nil

private theorem distinct_filter (keep : TestUnit → Bool) :
    distinct (units.filter keep) = (distinct units).filter keep := by
  have h : distinctFrom ([].filter keep) (units.filter keep) = _ := distinctFrom_filter keep
  exact h

private theorem placeByRank_perm : (placeByRank rank unit units).Perm (unit :: units) := by
  induction units with
  | nil => rfl
  | cons head rest ih =>
    rw [placeByRank]
    split
    · rfl
    · exact (ih.cons head).trans (.swap _ _ _)

private theorem sortByRank_perm : (sortByRank rank units).Perm units := by
  have hfold : ∀ sorted : List TestUnit,
      (units.foldl (fun sorted unit => placeByRank rank unit sorted) sorted).Perm
        (units ++ sorted) := by
    induction units with
    | nil => exact fun sorted => .refl _
    | cons head rest ih =>
      intro sorted
      exact (ih _).trans ((placeByRank_perm.append_left rest).trans List.perm_middle)
  have hsorted := hfold []
  rwa [List.append_nil] at hsorted

/-- The gated bucket is filled in the order of the list, without what is generic. -/
theorem gated_ofUnits :
    (ofUnits rank generic gated registry).gated =
      (distinct (gated.filterMap id)).filter (· ∉ distinct (generic.filterMap id)) :=
  distinct_filter _

/-- The generic units of a new pool are those it is given. -/
theorem mem_generic_ofUnits :
    unit ∈ (ofUnits rank generic gated registry).generic ↔ some unit ∈ generic := by
  rw [ofUnits, sortByRank_perm.mem_iff, mem_distinct]
  simp

/-- A unit given as both is generic. -/
theorem mem_gated_ofUnits :
    unit ∈ (ofUnits rank generic gated registry).gated ↔
      some unit ∉ generic ∧ some unit ∈ gated := by
  rw [gated_ofUnits, List.mem_filter]
  simp only [mem_distinct, List.mem_filterMap, id_eq, exists_eq_right, decide_not,
    Bool.not_eq_true', decide_eq_false_iff_not]
  exact and_comm

/-- A unit is in the pool at first if and only if it was given. -/
theorem mem_units_ofUnits :
    unit ∈ (ofUnits rank generic gated registry).units ↔
      some unit ∈ generic ∨ some unit ∈ gated := by
  rw [units, List.mem_append, mem_generic_ofUnits, mem_gated_ofUnits]
  by_cases h : some unit ∈ generic <;> simp [h]

/-- A pool that has just been filled is well-formed. -/
theorem wellFormed_ofUnits : (ofUnits rank generic gated registry).WellFormed where
  units_nodup := by
    refine List.nodup_append.mpr ⟨sortByRank_perm.nodup_iff.mpr nodup_distinct, nodup_distinct, ?_⟩
    rintro a ha b hb rfl
    rw [gated_ofUnits, List.mem_filter] at hb
    rw [ofUnits, sortByRank_perm.mem_iff] at ha
    exact of_decide_eq_true hb.2 ha
  rejections_fit := ⟨.nil, by simp [ofUnits, Rejections.units], by simp [ofUnits]⟩

end Filling

section Ranks

variable {rank : TestUnit → Nat} {units order : List TestUnit} {unit least : TestUnit}

private theorem pairwise_placeByRank (h : units.Pairwise (rank · ≤ rank ·)) :
    (placeByRank rank unit units).Pairwise (rank · ≤ rank ·) := by
  induction units with
  | nil => exact List.pairwise_singleton _ _
  | cons head rest ih =>
    obtain ⟨hhead, hrest⟩ := List.pairwise_cons.mp h
    rw [placeByRank]
    split
    · rename_i hlt
      refine List.pairwise_cons.mpr ⟨fun other hother => ?_, h⟩
      rcases List.mem_cons.mp hother with rfl | hother
      · exact Nat.le_of_lt hlt
      · exact Nat.le_trans (Nat.le_of_lt hlt) (hhead other hother)
    · rename_i hle
      refine List.pairwise_cons.mpr ⟨fun other hother => ?_, ih hrest⟩
      rcases List.mem_cons.mp (placeByRank_perm.mem_iff.mp hother) with rfl | hother
      · exact Nat.le_of_not_lt hle
      · exact hhead other hother

private theorem pairwise_sortByRank : (sortByRank rank units).Pairwise (rank · ≤ rank ·) := by
  have hfold : ∀ sorted : List TestUnit, sorted.Pairwise (rank · ≤ rank ·) →
      (units.foldl (fun sorted unit => placeByRank rank unit sorted) sorted).Pairwise
        (rank · ≤ rank ·) := by
    induction units with
    | nil => exact fun _ hsorted => hsorted
    | cons head rest ih => exact fun _ hsorted => ih _ (pairwise_placeByRank hsorted)
  exact hfold [] .nil

/-- Every order in which the generic units could come out is that of some ranks. -/
theorem exists_sortByRank_eq (horder : order.Perm units) (hnodup : order.Nodup) :
    ∃ rank, sortByRank rank units = order := by
  let rank : TestUnit → Nat := order.idxOf
  have hperm : (sortByRank rank units).Perm order := sortByRank_perm.trans horder.symm
  refine ⟨rank, hperm.eq_of_pairwise ?_ pairwise_sortByRank ?_⟩
  · intro unit other hunit hother hle hge
    have hplace := List.getElem_idxOf (List.idxOf_lt_length_iff.mpr (hperm.mem_iff.mp hunit))
    have hother := List.getElem_idxOf (List.idxOf_lt_length_iff.mpr hother)
    rw [← hplace, ← hother]
    exact getElem_congr_idx (Nat.le_antisymm hle hge)
  · refine List.pairwise_iff_getElem.mpr fun i j hi hj hij => ?_
    simpa only [rank, hnodup.idxOf_getElem] using Nat.le_of_lt hij

private theorem leastRanked_eq_none : leastRanked rank units = none ↔ units = [] := by
  cases units with
  | nil => simp [leastRanked]
  | cons head rest =>
    rw [leastRanked]
    split <;> simp

private theorem le_of_leastRanked (h : leastRanked rank units = some least) :
    ∀ unit ∈ units, rank least ≤ rank unit := by
  induction units generalizing least with
  | nil => exact List.forall_mem_nil _
  | cons head rest ih =>
    rw [leastRanked] at h
    split at h
    · rename_i hnone
      cases h
      rw [leastRanked_eq_none.mp hnone]
      exact List.forall_mem_singleton.mpr (Nat.le_refl _)
    · rename_i other hother
      cases h
      refine List.forall_mem_cons.mpr ⟨?_, fun unit hunit => Nat.le_trans ?_ (ih hother unit hunit)⟩
      all_goals split <;> omega

/-- Any of several units is the first one to come out for some ranks. -/
theorem exists_leastRanked_eq (hunit : unit ∈ units) :
    ∃ rank, leastRanked rank units = some unit := by
  refine ⟨(if · = unit then 0 else 1), ?_⟩
  cases hleast : leastRanked (if · = unit then 0 else 1) units with
  | none => exact absurd hunit (leastRanked_eq_none.mp hleast ▸ List.not_mem_nil)
  | some least =>
    have hle := le_of_leastRanked hleast unit hunit
    by_cases heq : least = unit
    · rw [heq]
    · simp [heq] at hle

end Ranks

/-- A call to a pool. -/
inductive Call where
  | poll (device : Device)
  | pollGeneric
  /-- Ask for a gated unit: one the device may take, or without `skipRejected` the first one. -/
  | pollGated (device : Device) (skipRejected : Bool)
  | drainRejected
  | drainRemaining
  deriving DecidableEq

section Answers

variable {E : Interface}

/-- Answer one call. -/
def answer (pool : WorkPool) : Call → Work E (Option TestUnit × WorkPool)
  | .poll device => pool.poll device
  | .pollGeneric => return pool.pollGeneric
  | .pollGated device true => pool.pollGated device
  | .pollGated _ false => return pool.pollAnyGated
  | .drainRejected => return pool.drainRejected
  | .drainRemaining => return pool.drainRemaining

/-- Answer calls one after the other; the result lists the units returned. -/
def answerAll : List Call → WorkPool → Work E (List TestUnit × WorkPool)
  | [], pool => return ([], pool)
  | call :: calls, pool => do
    let (found, pool) ← pool.answer call
    let (returned, pool) ← answerAll calls pool
    return (found.toList ++ returned, pool)

variable {pool rest : WorkPool} {found : Option TestUnit} {returned : List TestUnit}
  {device : Device} {call : Call} {calls : List Call} {rank : TestUnit → Nat}
  {trace : List (Session.Exchange (World E))}

namespace WellFormed

private theorem withdraws_poll (h : pool.WellFormed)
    (hpoll : (pool.poll device).Path trace (found, rest)) : pool.Withdraws found rest := by
  rw [poll] at hpoll
  obtain ⟨⟨taken, mid⟩, before, after, rfl, hgated, hpoll⟩ := Session.path_seq.mp hpoll
  have hfirst := h.withdraws_pollGated hgated
  cases taken with
  | some unit =>
    simp only [Session.path_pure, Prod.mk.injEq] at hpoll
    obtain ⟨-, rfl, rfl⟩ := hpoll
    exact hfirst
  | none =>
    obtain ⟨-, hgeneric⟩ := Session.path_pure.mp hpoll
    obtain ⟨rfl, rfl⟩ := Prod.mk.inj hgeneric
    have hsecond := hfirst.wellFormed.withdraws_pollGeneric
    exact hfirst.trans hsecond

/-- Every call is a withdrawal. -/
theorem withdraws_answer (h : pool.WellFormed)
    (hcall : (pool.answer call).Path trace (found, rest)) : pool.Withdraws found rest := by
  have hpure {answer : Option TestUnit × WorkPool} (hanswer : pool.Withdraws answer.1 answer.2)
      (hpath : (pure answer : Work E _).Path trace (found, rest)) :
      pool.Withdraws found rest := by
    obtain ⟨-, rfl⟩ := Session.path_pure.mp hpath
    exact hanswer
  cases call with
  | poll device => exact h.withdraws_poll hcall
  | pollGeneric => exact hpure h.withdraws_pollGeneric hcall
  | pollGated device skipRejected =>
    cases skipRejected with
    | true => exact h.withdraws_pollGated hcall
    | false => exact hpure h.withdraws_pollAnyGated hcall
  | drainRejected => exact hpure h.withdraws_drainRejected hcall
  | drainRemaining => exact hpure h.withdraws_drainRemaining hcall

end WellFormed

/-- All calls together take units out of a well-formed pool, each one once. -/
theorem WellFormed.serves_answerAll (h : pool.WellFormed)
    (hcalls : (answerAll calls pool).Path trace (returned, rest)) : pool.Serves returned rest := by
  induction calls generalizing pool trace returned with
  | nil =>
    simp only [answerAll, Session.path_pure, Prod.mk.injEq] at hcalls
    obtain ⟨-, rfl, rfl⟩ := hcalls
    exact h.withdraws_none
  | cons call calls ih =>
    rw [answerAll] at hcalls
    obtain ⟨⟨found, mid⟩, before, after, rfl, hcall, hcalls⟩ := Session.path_seq.mp hcalls
    obtain ⟨⟨later, last⟩, middle, done, rfl, hlater, hdone⟩ := Session.path_seq.mp hcalls
    simp only [Session.path_pure, Prod.mk.injEq] at hdone
    obtain ⟨-, rfl, rfl⟩ := hdone
    have hfirst := h.withdraws_answer hcall
    exact hfirst.trans (ih hfirst.wellFormed hlater)

/-- Nothing is drained of the rejected units only if there are none. -/
theorem drainRejected_eq_none : pool.drainRejected.1 = none ↔ pool.rejections = [] := by
  rw [drainRejected]
  split
  · rename_i hleast
    simpa [rejected, Rejections.units] using leastRanked_eq_none.mp hleast
  · rename_i unit hleast
    refine ⟨by simp, ?_⟩
    intro hnil
    simp [rejected, Rejections.units, hnil, leastRanked] at hleast

/-- Nothing is drained at all only if both buckets are empty. -/
theorem drainRemaining_eq_none :
    pool.drainRemaining.1 = none ↔ pool.generic = [] ∧ pool.gated = [] := by
  rw [drainRemaining, pollAnyGated]
  cases hgated : pool.gated with
  | nil =>
    simp only [pollGeneric]
    cases pool.generic <;> simp
  | cons head tail => simp

/-- Whatever calls a pool has answered, and whatever was said to it: the buckets are disjoint and
hold each unit once, the side table is about gated units and has a serial for each of its units,
the gated units stand in the order in which they were given, and the units returned are distinct
and together with those left exactly the units given. The drains end only when there is nothing
left to drain. -/
theorem answerAll_conserves {generic gated : List (Option TestUnit)}
    {registry : Option TokenRegistry}
    (hcalls : (answerAll calls (ofUnits rank generic gated registry)).Path trace (returned, rest)) :
    (rest.generic.Nodup ∧ rest.gated.Nodup ∧ ∀ unit ∈ rest.generic, unit ∉ rest.gated) ∧
    (rest.rejected.Nodup ∧
      ∀ unit ∈ rest.rejected, unit ∈ rest.gated ∧ (rest.rejectedBy unit).isEmpty = false) ∧
    rest.gated.Sublist (distinct (gated.filterMap id)) ∧
    (returned.Nodup ∧ ∀ unit ∈ returned, unit ∉ rest.generic ∧ unit ∉ rest.gated) ∧
    (∀ unit, unit ∈ returned ∨ unit ∈ rest.generic ∨ unit ∈ rest.gated ↔
      some unit ∈ generic ∨ some unit ∈ gated) ∧
    (rest.drainRejected.1 = none → rest.rejections = []) ∧
    (rest.drainRemaining.1 = none → rest.generic = [] ∧ rest.gated = []) := by
  obtain ⟨-, hgated, hunits, -, -, hrest⟩ := wellFormed_ofUnits.serves_answerAll hcalls
  have hnodup : (returned ++ rest.units).Nodup := hunits.nodup_iff.mp wellFormed_ofUnits.units_nodup
  obtain ⟨hreturnedNodup, -, hapart⟩ := List.nodup_append.mp hnodup
  have hgenericNodup : rest.generic.Nodup := (List.nodup_append.mp hrest.units_nodup).1
  refine ⟨⟨hgenericNodup, hrest.gated_nodup, fun unit => hrest.not_mem_gated⟩,
    ⟨hrest.rejections_fit.units_nodup, ?_⟩, ?_, ⟨hreturnedNodup, ?_⟩, ?_,
    drainRejected_eq_none.mp, drainRemaining_eq_none.mp⟩
  · intro unit hunit
    exact ⟨hrest.rejections_fit.units_gated unit hunit,
      hrest.rejections_fit.nonempty _ (Rejections.mem_of_mem_units hunit)⟩
  · exact hgated.trans (gated_ofUnits ▸ List.filter_sublist)
  · intro unit hunit
    have hleft : unit ∉ rest.units := by
      intro hunits
      exact hapart unit hunit unit hunits rfl
    rwa [units, List.mem_append, not_or] at hleft
  · intro unit
    have hgiven : unit ∈ (ofUnits rank generic gated registry).units ↔ _ := mem_units_ofUnits
    rw [← hgiven, hunits.mem_iff, List.mem_append, units, List.mem_append]

/-- A unit given as both counts as generic; one device turns two units down and takes a generic
one, the other takes the first of the two. -/
theorem answerAll_conserves_two_devices :
    let registry := TokenRegistry.register {} "sim" (some (.external 0))
    let generic : List (Option TestUnit) := [some (.plain 0 "a" []), none, some (.plain 0 "a" []),
      some (.plain 1 "b" ["sim"])]
    let gated : List (Option TestUnit) := [some (.plain 2 "c" ["sim"]), some (.plain 1 "b" ["sim"]),
      none, some (.plain 3 "d" ["nfc"]), some (.plain 2 "c" ["sim"])]
    let returned : List TestUnit := [.plain 0 "a" [], .plain 2 "c" ["sim"]]
    ∃ trace rest,
      (answerAll (E := .silent) [.poll ⟨"one", .physical⟩, .pollGated ⟨"two", .physical⟩ true]
        (ofUnits asGiven generic gated (some registry))).Path trace (returned, rest) ∧
      rest.gated = [.plain 3 "d" ["nfc"]] ∧
      rest.rejectedBy (.plain 3 "d" ["nfc"]) = .ofList ["one"] ∧
      rest.gated.Sublist (distinct (gated.filterMap id)) ∧
      ∀ unit, unit ∈ returned ∨ unit ∈ rest.generic ∨ unit ∈ rest.gated ↔
        some unit ∈ generic ∨ some unit ∈ gated := by
  intro registry generic gated returned
  have hpath := Session.path_converse
    (Session.obligingWorld (fun device _ => device.serial = "two") Interface.silence)
    (answerAll [.poll ⟨"one", .physical⟩, .pollGated ⟨"two", .physical⟩ true]
      (ofUnits asGiven generic gated (some registry)))
  obtain ⟨-, -, hgated, -, hunits, -, -⟩ := answerAll_conserves hpath
  exact ⟨_, _, hpath, by decide, by decide, hgated, hunits⟩

end Answers

end WorkPool

end Fleet
