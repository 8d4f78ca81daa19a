import Fleet.Proofs.Conversation
import Fleet.WorkPool

/-!
# Well-formed pools

A pool keeps three containers in step: the generic bucket, the gated bucket and the side table of
rejections. Every way to withdraw a unit takes exactly that unit out of the buckets, keeps the
order of the others and leaves no trace of it in the side table. A poll for a gated unit looks at
one unit after another: `Looks` says what is asked about which unit, and has exactly the
conversations of the pool.
-/

namespace Fleet

/-- Adding a name to a set leaves no empty set. -/
@[simp] theorem Names.isEmpty_insert (names : Names) (name : String) :
    (names.insert name).isEmpty = false := by
  have h : name ∈ (names.insert name).toList := Names.mem_place.mpr (.inl rfl)
  rw [Names.isEmpty, List.isEmpty_eq_false_iff]
  exact List.ne_nil_of_mem h

namespace Rejections

variable {rejections : Rejections} {unit other : TestUnit} {serial : String}

/-- Marking a unit records exactly this device with exactly this unit. -/
theorem serialsOf_mark :
    (rejections.mark unit serial).serialsOf other =
      if other = unit then (rejections.serialsOf unit).insert serial
      else rejections.serialsOf other := by
  induction rejections with
  | nil =>
    simp only [mark, serialsOf, eq_comm]
  | cons entry rest ih =>
    obtain ⟨first, serials⟩ := entry
    rw [mark]
    by_cases hfirst : first = unit
    · subst hfirst
      simp only [if_true, serialsOf, eq_comm]
      split <;> rfl
    · simp only [hfirst, if_false, serialsOf, ih]
      split
      · rename_i hother
        subst hother
        simp [hfirst]
      · rfl

/-- A unit that was not turned down before goes to the end of the table. -/
theorem units_mark :
    (rejections.mark unit serial).units =
      if unit ∈ rejections.units then rejections.units else rejections.units ++ [unit] := by
  induction rejections with
  | nil => simp [mark, units]
  | cons entry rest ih =>
    obtain ⟨first, serials⟩ := entry
    rw [mark]
    by_cases hfirst : first = unit
    · simp [hfirst, units]
    · simp only [units, List.map_cons, hfirst, if_false] at ih ⊢
      rw [ih]
      by_cases hold : unit ∈ rest.map Prod.fst
      · simp [hold]
      · simp [hold, Ne.symm hfirst]

/-- A recorded set of serials after marking is an old one or has just been added to. -/
theorem mem_mark {entry : TestUnit × Names} (h : entry ∈ rejections.mark unit serial) :
    entry ∈ rejections ∨ entry.1 = unit ∧ ∃ serials : Names, entry.2 = serials.insert serial := by
  induction rejections with
  | nil =>
    obtain rfl := List.mem_singleton.mp h
    exact .inr ⟨rfl, _, rfl⟩
  | cons first rest ih =>
    rw [mark] at h
    split at h
    · rename_i hfirst
      rcases List.mem_cons.mp h with rfl | h
      · exact .inr ⟨hfirst, _, rfl⟩
      · exact .inl (List.mem_cons_of_mem _ h)
    · rcases List.mem_cons.mp h with rfl | h
      · exact .inl List.mem_cons_self
      · rcases ih h with h | h
        · exact .inl (List.mem_cons_of_mem _ h)
        · exact .inr h

/-- Forgetting a unit loses nothing about the others. -/
theorem serialsOf_forget (h : other ≠ unit) :
    (rejections.forget unit).serialsOf other = rejections.serialsOf other := by
  induction rejections with
  | nil => rfl
  | cons entry rest ih =>
    obtain ⟨first, serials⟩ := entry
    simp only [forget, List.filter_cons] at ih ⊢
    by_cases hfirst : first = unit
    · have hne : first ≠ other := fun he => h (he.symm.trans hfirst)
      simp only [hfirst, ne_eq, not_true_eq_false, decide_false, Bool.false_eq_true, if_false, ih,
        serialsOf]
      rw [if_neg (hfirst ▸ hne)]
    · simp only [ne_eq, hfirst, not_false_eq_true, decide_true, if_true, serialsOf, ih]

/-- To forget a unit leaves the other rejected units. -/
theorem units_forget : (rejections.forget unit).units = rejections.units.filter (· ≠ unit) := by
  simp only [units, forget, List.filter_map]
  rfl

/-- What is on record about a unit of the table is one of its entries. -/
theorem mem_of_mem_units (h : unit ∈ rejections.units) :
    (unit, rejections.serialsOf unit) ∈ rejections := by
  induction rejections with
  | nil => simp [units] at h
  | cons entry rest ih =>
    obtain ⟨first, serials⟩ := entry
    rw [serialsOf]
    by_cases hfirst : first = unit
    · simp [hfirst]
    · have hrest : unit ∈ units rest := by simpa [units, Ne.symm hfirst] using h
      simpa [hfirst] using .inr (ih hrest)

/-- Each of these units is turned down by the device, one after the other. -/
def markAll (serial : String) (turned : List TestUnit) (rejections : Rejections) : Rejections :=
  turned.foldl (fun rejections unit => rejections.mark unit serial) rejections

/-- What is on record after a device has turned some units down. -/
theorem contains_serialsOf_markAll {turned : List TestUnit} {name : String} :
    ((rejections.markAll serial turned).serialsOf other).contains name ↔
      (rejections.serialsOf other).contains name ∨ name = serial ∧ other ∈ turned := by
  induction turned generalizing rejections with
  | nil => simp [markAll]
  | cons head rest ih =>
    have hstep : rejections.markAll serial (head :: rest) =
        (rejections.mark head serial).markAll serial rest := rfl
    rw [hstep, ih, serialsOf_mark]
    by_cases hother : other = head
    · subst hother
      simp only [if_true, Names.contains_insert, Bool.or_eq_true, beq_iff_eq, List.mem_cons,
        true_or, and_true]
      grind
    · simp [hother]

/-- The side table fits a gated bucket: it has at most one entry for each unit of the bucket, and
no entry without a serial. -/
structure Fits (gated : List TestUnit) (rejections : Rejections) : Prop where
  units_nodup : rejections.units.Nodup
  units_gated : ∀ unit ∈ rejections.units, unit ∈ gated
  nonempty : ∀ entry ∈ rejections, entry.2.isEmpty = false

namespace Fits

variable {gated : List TestUnit}

private theorem mark (h : rejections.Fits gated) (hunit : unit ∈ gated) :
    (rejections.mark unit serial).Fits gated where
  units_nodup := by
    rw [units_mark]
    split
    · exact h.units_nodup
    · rename_i hnew
      refine List.nodup_append.mpr ⟨h.units_nodup, by simp, ?_⟩
      rintro a ha b hb rfl
      exact hnew (List.mem_singleton.mp hb ▸ ha)
  units_gated := by
    rw [units_mark]
    split
    · exact h.units_gated
    · intro a ha
      rcases List.mem_append.mp ha with ha | ha
      · exact h.units_gated a ha
      · exact List.mem_singleton.mp ha ▸ hunit
  nonempty entry hentry := by
    rcases mem_mark hentry with hold | ⟨-, serials, hnew⟩
    · exact h.nonempty entry hold
    · rw [hnew, Names.isEmpty_insert]

private theorem markAll {turned : List TestUnit} (h : rejections.Fits gated)
    (hturned : ∀ unit ∈ turned, unit ∈ gated) : (rejections.markAll serial turned).Fits gated := by
  induction turned generalizing rejections with
  | nil => exact h
  | cons head rest ih =>
    obtain ⟨hhead, hrest⟩ := List.forall_mem_cons.mp hturned
    exact ih (h.mark hhead) hrest

private theorem forget (h : rejections.Fits gated) :
    (rejections.forget unit).Fits (gated.filter (· ≠ unit)) where
  units_nodup := by
    rw [units_forget]
    exact h.units_nodup.filter _
  units_gated other hother := by
    rw [units_forget, List.mem_filter] at hother
    exact List.mem_filter.mpr ⟨h.units_gated other hother.1, hother.2⟩
  nonempty entry hentry := h.nonempty entry (List.mem_filter.mp hentry).1

end Fits

end Rejections

namespace WorkPool

variable {E : Interface} {pool rest : WorkPool} {device : Device} {registry : Option TokenRegistry}
  {rejections marked : Rejections} {found : Option TestUnit}
  {trace : List (Session.Exchange (World E))}

/-- All units of a pool. -/
def units (pool : WorkPool) : List TestUnit :=
  pool.generic ++ pool.gated

/-- One look at a gated unit for a device. -/
structure Look where
  unit : TestUnit
  /-- The serial of the device. -/
  serial : String
  /-- Whether the device was found to be admitted. -/
  admitted : Bool
  deriving DecidableEq

/-- A look in vain. -/
def Look.vain (serial : String) (unit : TestUnit) : Look :=
  { unit, serial, admitted := false }

/-- What is logged about a unit that was turned down. -/
def turnedDownEntry (device : Device) (unit : TestUnit) : LogEntry where
  level := .debug
  trace := device.serial
  component := "work_pool"
  event := "token_rejected"
  message := unit.name ++ " requires [" ++ unit.tokens.joined ++ "], not satisfied by this device"

/-- In the conversation, these looks at units of a list end with the unit found, if any, and with
what is on record then. -/
inductive Looks (registry : Option TokenRegistry) (device : Device) :
    List TestUnit → Rejections → List (Session.Exchange (World E)) → List Look →
      Option TestUnit → Rejections → Prop where
  | nothing {rejections : Rejections} :
      Looks registry device [] rejections [] [] none rejections
  /-- A unit the device has turned down before is passed over in silence. -/
  | known {unit : TestUnit} {rest : List TestUnit} {rejections marked : Rejections}
      {trace : List (Session.Exchange (World E))} {looks : List Look} {found : Option TestUnit}
      (hknown : (rejections.serialsOf unit).contains device.serial = true)
      (later : Looks registry device rest rejections trace looks found marked) :
      Looks registry device (unit :: rest) rejections trace looks found marked
  | admitted {unit : TestUnit} {rest : List TestUnit} {rejections : Rejections}
      {asked : List (Session.Exchange (World E))}
      (hunknown : (rejections.serialsOf unit).contains device.serial = false)
      (hasked : (admits registry device unit.tokens).Path asked true) :
      Looks registry device (unit :: rest) rejections asked [⟨unit, device.serial, true⟩]
        (some unit) rejections
  | refused {unit : TestUnit} {rest : List TestUnit} {rejections marked : Rejections}
      {asked trace : List (Session.Exchange (World E))} {looks : List Look}
      {found : Option TestUnit}
      (hunknown : (rejections.serialsOf unit).contains device.serial = false)
      (hasked : (admits registry device unit.tokens).Path asked false)
      (later : Looks registry device rest (rejections.mark unit device.serial) trace looks found
        marked) :
      Looks registry device (unit :: rest) rejections
        (asked ++ ⟨.inl (.log (turnedDownEntry device unit)), ()⟩ :: trace)
        (.vain device.serial unit :: looks) found marked

/-- The pool has exactly the conversations that consist of such looks. -/
theorem path_seekAdmitted {units : List TestUnit} {rejections marked : Rejections}
    {found : Option TestUnit} :
    (seekAdmitted registry device units rejections).Path trace (found, marked) ↔
      ∃ looks, Looks registry device units rejections trace looks found marked := by
  constructor
  · intro h
    induction units generalizing rejections trace with
    | nil =>
      simp only [seekAdmitted, Session.path_pure, Prod.mk.injEq] at h
      obtain ⟨rfl, rfl, rfl⟩ := h
      exact ⟨[], .nothing⟩
    | cons unit rest ih =>
      rw [seekAdmitted] at h
      split at h
      · rename_i hknown
        obtain ⟨looks, hlooks⟩ := ih h
        exact ⟨looks, .known hknown hlooks⟩
      · rename_i hunknown
        obtain ⟨admitted, asked, after, rfl, hasked, h⟩ := Session.path_seq.mp h
        cases admitted with
        | true =>
          simp only [if_true, Session.path_pure, Prod.mk.injEq] at h
          obtain ⟨rfl, rfl, rfl⟩ := h
          rw [List.append_nil]
          exact ⟨_, .admitted (by simpa using hunknown) hasked⟩
        | false =>
          simp only [Bool.false_eq_true, if_false] at h
          obtain ⟨⟨⟩, logged, later, rfl, hlogged, hlater⟩ := Session.path_seq.mp h
          obtain rfl := Flow.path_request.mp hlogged
          obtain ⟨looks, hlooks⟩ := ih hlater
          exact ⟨_, .refused (by simpa using hunknown) hasked hlooks⟩
  · rintro ⟨looks, h⟩
    induction h with
    | nothing => exact Session.path_pure.mpr ⟨rfl, rfl⟩
    | known hknown _ ih =>
      rw [seekAdmitted, if_pos hknown]
      exact ih
    | admitted hunknown hasked =>
      rw [seekAdmitted, if_neg (by simp [hunknown])]
      exact Session.path_seq.mpr ⟨true, _, [], (List.append_nil _).symm, hasked,
        Session.path_pure.mpr ⟨rfl, rfl⟩⟩
    | refused hunknown hasked _ ih =>
      rw [seekAdmitted, if_neg (by simp [hunknown])]
      refine Session.path_seq.mpr ⟨false, _, _, rfl, hasked, ?_⟩
      exact Session.path_seq.mpr ⟨(), [_], _, rfl, Flow.path_request.mpr rfl, ih⟩

/-- What a look through a list of gated units comes to: some of the units are turned down, each
after the device was found not to be admitted, and the look ends at a unit the device is admitted
to or when the device has turned down all units. -/
structure Sought (registry : Option TokenRegistry) (device : Device) (units : List TestUnit)
    (rejections : Rejections) (trace : List (Session.Exchange (World E)))
    (found : Option TestUnit) (marked : Rejections) : Prop where
  turned : ∃ turned : List TestUnit, marked = rejections.markAll device.serial turned ∧
    ∀ unit ∈ turned, unit ∈ units ∧
      ∃ part, part ⊆ trace ∧ (admits registry device unit.tokens).Path part false
  taken : ∀ unit, found = some unit → unit ∈ units ∧
    (rejections.serialsOf unit).contains device.serial = false ∧
      ∃ part, part ⊆ trace ∧ (admits registry device unit.tokens).Path part true
  exhausted : found = none → ∀ unit ∈ units, (marked.serialsOf unit).contains device.serial

/-- A look through a list of gated units comes to what it should. -/
theorem Looks.sought {units : List TestUnit} {looks : List Look}
    (h : Looks registry device units rejections trace looks found marked) :
    Sought registry device units rejections trace found marked := by
  induction h with
  | nothing => exact ⟨⟨[], rfl, by simp⟩, by simp, by simp⟩
  | known hknown _ ih =>
    obtain ⟨⟨turned, rfl, hturned⟩, htaken, hexhausted⟩ := ih
    refine ⟨⟨turned, rfl, ?_⟩, ?_, ?_⟩
    · intro u hu
      exact ⟨List.mem_cons_of_mem _ (hturned u hu).1, (hturned u hu).2⟩
    · intro u hu
      exact ⟨List.mem_cons_of_mem _ (htaken u hu).1, (htaken u hu).2⟩
    · intro hnone u hu
      rcases List.mem_cons.mp hu with rfl | hu
      · exact Rejections.contains_serialsOf_markAll.mpr (.inl hknown)
      · exact hexhausted hnone u hu
  | admitted hunknown hasked =>
    refine ⟨⟨[], rfl, by simp⟩, fun u hu => ?_, by simp⟩
    obtain rfl := Option.some.inj hu
    exact ⟨List.mem_cons_self, hunknown, _, List.Subset.refl _, hasked⟩
  | @refused unit rest rejections marked asked trace looks found hunknown hasked _ ih =>
    obtain ⟨⟨turned, rfl, hturned⟩, htaken, hexhausted⟩ := ih
    refine ⟨⟨unit :: turned, rfl, ?_⟩, ?_, ?_⟩
    · intro u hu
      rcases List.mem_cons.mp hu with rfl | hu
      · exact ⟨List.mem_cons_self, asked, by simp, hasked⟩
      · obtain ⟨hmem, part, hpart, hpath⟩ := hturned u hu
        exact ⟨List.mem_cons_of_mem _ hmem, part, fun x hx => by simp [hpart hx], hpath⟩
    · intro u hu
      obtain ⟨hmem, hfree, part, hpart, hpath⟩ := htaken u hu
      refine ⟨List.mem_cons_of_mem _ hmem, ?_, part, fun x hx => by simp [hpart hx], hpath⟩
      rw [Rejections.serialsOf_mark] at hfree
      split at hfree
      · simp at hfree
      · exact hfree
    · intro hnone u hu
      rcases List.mem_cons.mp hu with rfl | hu
      · refine Rejections.contains_serialsOf_markAll.mpr (.inl ?_)
        simp [Rejections.serialsOf_mark]
      · exact hexhausted hnone u hu

/-- A search goes through the units in order, as it should. -/
theorem sought_of_path {units : List TestUnit}
    (h : (seekAdmitted registry device units rejections).Path trace (found, marked)) :
    Sought registry device units rejections trace found marked := by
  obtain ⟨looks, hlooks⟩ := path_seekAdmitted.mp h
  exact hlooks.sought

/-- Polling for a gated unit looks through the gated bucket; only a unit found leaves it. -/
theorem path_pollGated :
    (pool.pollGated device).Path trace (found, rest) ↔
      ∃ marked, (seekAdmitted pool.registry device pool.gated pool.rejections).Path trace
          (found, marked) ∧
        rest = found.elim { pool with rejections := marked }
          { pool with rejections := marked }.eraseGated := by
  rw [pollGated, Session.path_seq]
  constructor
  · rintro ⟨⟨seen, marked⟩, before, after, rfl, hseek, h⟩
    cases seen with
    | none =>
      simp only [Session.path_pure, Prod.mk.injEq] at h
      obtain ⟨rfl, rfl, rfl⟩ := h
      exact ⟨marked, by rwa [List.append_nil], rfl⟩
    | some unit =>
      simp only [Session.path_pure, Prod.mk.injEq] at h
      obtain ⟨rfl, rfl, rfl⟩ := h
      exact ⟨marked, by rwa [List.append_nil], rfl⟩
  · rintro ⟨marked, hseek, rfl⟩
    refine ⟨(found, marked), trace, [], (List.append_nil trace).symm, hseek, ?_⟩
    cases found with
    | none => exact Session.path_pure.mpr ⟨rfl, rfl⟩
    | some unit => exact Session.path_pure.mpr ⟨rfl, rfl⟩

/-- The three containers are in step. -/
structure WellFormed (pool : WorkPool) : Prop where
  /-- The buckets are disjoint and hold each unit once. -/
  units_nodup : pool.units.Nodup
  /-- The side table is about gated units only. -/
  rejections_fit : pool.rejections.Fits pool.gated

namespace WellFormed

/-- No gated unit is in a well-formed pool twice. -/
theorem gated_nodup (h : pool.WellFormed) : pool.gated.Nodup :=
  (List.nodup_append.mp h.units_nodup).2.1

/-- No unit is in both buckets. -/
theorem not_mem_gated (h : pool.WellFormed) {unit : TestUnit} (hunit : unit ∈ pool.generic) :
    unit ∉ pool.gated := by
  intro hgated
  obtain ⟨-, -, hdisjoint⟩ := List.nodup_append.mp h.units_nodup
  exact hdisjoint unit hunit unit hgated rfl

/-- Turning gated units down keeps the containers in step. -/
theorem markAll (h : pool.WellFormed) (serial : String) {turned : List TestUnit}
    (hturned : ∀ unit ∈ turned, unit ∈ pool.gated) :
    { pool with rejections := pool.rejections.markAll serial turned }.WellFormed :=
  ⟨h.units_nodup, h.rejections_fit.markAll hturned⟩

end WellFormed

/-- What calls to a pool come to: the units returned are those missing from the buckets, and no
refusal of a unit that is left is forgotten. -/
structure Serves (pool : WorkPool) (returned : List TestUnit) (rest : WorkPool) : Prop where
  generic : rest.generic.Sublist pool.generic
  gated : rest.gated.Sublist pool.gated
  units : pool.units.Perm (returned ++ rest.units)
  registry : rest.registry = pool.registry
  kept : ∀ unit ∈ rest.gated, ∀ serial,
    (pool.rejectedBy unit).contains serial → (rest.rejectedBy unit).contains serial
  wellFormed : rest.WellFormed

/-- A withdrawal takes out the unit found, if any, and nothing else. -/
abbrev Withdraws (pool : WorkPool) (found : Option TestUnit) (rest : WorkPool) : Prop :=
  pool.Serves found.toList rest

namespace Serves

variable {mid : WorkPool} {returned more : List TestUnit} {unit : TestUnit}

/-- What is given up in two parts is given up in one. -/
theorem trans (h : pool.Serves returned mid) (hmid : mid.Serves more rest) :
    pool.Serves (returned ++ more) rest where
  generic := hmid.generic.trans h.generic
  gated := hmid.gated.trans h.gated
  units := by
    rw [List.append_assoc]
    exact h.units.trans (hmid.units.append_left returned)
  registry := hmid.registry.trans h.registry
  kept unit hunit serial hserial :=
    hmid.kept unit hunit serial (h.kept unit (hmid.gated.subset hunit) serial hserial)
  wellFormed := hmid.wellFormed

/-- A unit that is given up was in the pool. -/
theorem mem_of_mem_returned (h : pool.Serves returned rest) (hunit : unit ∈ returned) :
    unit ∈ pool.units :=
  h.units.mem_iff.mpr (List.mem_append_left _ hunit)

end Serves

/-- A unit that is drained was turned down, and so were those that are turned down still. -/
theorem mem_rejected_of_drainRejected {unit : TestUnit}
    (h : pool.drainRejected = (some unit, rest)) :
    unit ∈ pool.rejected ∧ rest.rejected ⊆ pool.rejected := by
  rw [drainRejected] at h
  split at h
  · cases h
  · rename_i least hleast
    cases h
    refine ⟨leastRanked_mem hleast, ?_⟩
    intro other hother
    rw [rejected, eraseGated, Rejections.units_forget] at hother
    exact (List.mem_filter.mp hother).1

/-- Erasing a gated unit changes nothing about the others. -/
theorem rejectedBy_eraseGated {unit other : TestUnit} (h : other ∈ (pool.eraseGated unit).gated) :
    (pool.eraseGated unit).rejectedBy other = pool.rejectedBy other := by
  obtain ⟨-, hne⟩ := List.mem_filter.mp h
  exact Rejections.serialsOf_forget (of_decide_eq_true hne)

/-- A gated unit still in the pool after a withdrawal is recorded as before. -/
theorem rejectedBy_withdrawn {unit : TestUnit}
    (h : unit ∈ (found.elim pool pool.eraseGated).gated) :
    (found.elim pool pool.eraseGated).rejectedBy unit = pool.rejectedBy unit := by
  cases found with
  | none => rfl
  | some taken => exact rejectedBy_eraseGated h

namespace WellFormed

/-- A well-formed pool that gives up nothing stays as it is. -/
theorem withdraws_none (h : pool.WellFormed) : pool.Withdraws none pool :=
  ⟨.refl _, .refl _, .refl _, rfl, fun _ _ _ hserial => hserial, h⟩

/-- Erasing a gated unit is a withdrawal of it. -/
theorem withdraws_eraseGated (h : pool.WellFormed) {unit : TestUnit} (hunit : unit ∈ pool.gated) :
    pool.Withdraws (some unit) (pool.eraseGated unit) where
  generic := .refl _
  gated := List.filter_sublist
  units := by
    have herase : pool.gated.Perm (unit :: pool.gated.filter (· ≠ unit)) := by
      have hfilter : pool.gated.erase unit = pool.gated.filter (· ≠ unit) := by
        rw [h.gated_nodup.erase_eq_filter]
        exact List.filter_congr fun other _ => by by_cases hother : other = unit <;> simp [hother]
      exact hfilter ▸ List.perm_cons_erase hunit
    exact (herase.append_left _).trans List.perm_middle
  registry := rfl
  kept other hother serial hserial := by
    rwa [rejectedBy_eraseGated hother]
  wellFormed :=
    ⟨(List.filter_sublist.append_left _).nodup h.units_nodup, h.rejections_fit.forget⟩

/-- To poll for a generic unit withdraws what is found. -/
theorem withdraws_pollGeneric (h : pool.WellFormed) :
    pool.Withdraws pool.pollGeneric.1 pool.pollGeneric.2 := by
  rw [pollGeneric]
  split
  · exact h.withdraws_none
  · rename_i unit rest hgeneric
    refine ⟨?_, .refl _, ?_, rfl, fun _ _ _ hserial => hserial, ?_, h.rejections_fit⟩
    · rw [hgeneric]
      exact List.sublist_cons_self _ _
    · simp [WorkPool.units, hgeneric]
    · have hnodup := h.units_nodup
      rw [WorkPool.units, hgeneric, List.cons_append] at hnodup
      exact (List.nodup_cons.mp hnodup).2

/-- To poll for any gated unit withdraws what is found. -/
theorem withdraws_pollAnyGated (h : pool.WellFormed) :
    pool.Withdraws pool.pollAnyGated.1 pool.pollAnyGated.2 := by
  rw [pollAnyGated]
  split
  · exact h.withdraws_none
  · rename_i unit rest hgated
    exact h.withdraws_eraseGated (by simp [hgated])

/-- To poll for a gated unit withdraws what is found. -/
theorem withdraws_pollGated (h : pool.WellFormed)
    (hpoll : (pool.pollGated device).Path trace (found, rest)) : pool.Withdraws found rest := by
  obtain ⟨marked, hseek, rfl⟩ := path_pollGated.mp hpoll
  obtain ⟨⟨turned, rfl, hturned⟩, htaken, -⟩ := sought_of_path hseek
  have hmarked := h.markAll device.serial fun unit hunit => (hturned unit hunit).1
  have hkept : ∀ (unit : TestUnit) (serial : String), (pool.rejectedBy unit).contains serial →
      ((pool.rejections.markAll device.serial turned).serialsOf unit).contains serial :=
    fun unit serial hserial => Rejections.contains_serialsOf_markAll.mpr (.inl hserial)
  cases found with
  | none => exact ⟨.refl _, .refl _, .refl _, rfl, fun unit _ => hkept unit, hmarked⟩
  | some unit =>
    obtain ⟨hgeneric, hgated, hunits, hregistry, herased, hrest⟩ :=
      hmarked.withdraws_eraseGated (htaken unit rfl).1
    exact ⟨hgeneric, hgated, hunits, hregistry,
      fun unit hunit serial hserial => herased unit hunit serial (hkept unit serial hserial), hrest⟩

/-- To drain a rejected unit withdraws it. -/
theorem withdraws_drainRejected (h : pool.WellFormed) :
    pool.Withdraws pool.drainRejected.1 pool.drainRejected.2 := by
  rw [drainRejected]
  split
  · exact h.withdraws_none
  · rename_i unit hleast
    exact h.withdraws_eraseGated (h.rejections_fit.units_gated _ (leastRanked_mem hleast))

/-- To drain a remaining unit withdraws it. -/
theorem withdraws_drainRemaining (h : pool.WellFormed) :
    pool.Withdraws pool.drainRemaining.1 pool.drainRemaining.2 := by
  have hgated := h.withdraws_pollAnyGated
  rw [drainRemaining]
  split
  · rename_i hany
    rwa [hany] at hgated
  · rename_i rest hany
    rw [pollAnyGated] at hany
    split at hany
    · cases hany
      exact h.withdraws_pollGeneric
    · cases hany

end WellFormed

end WorkPool

end Fleet
