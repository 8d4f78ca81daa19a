import Fleet.Proofs.Invocation.Fates
import Fleet.Proofs.Invocation.OpenRuns

/-!
# Nothing is held back in the end

At every point of a play, what has been sent to the common listener and what the buffers hold back
make up what the pollers have told. A closed seat holds nothing back, so when all seats are closed,
everything has been sent.
-/

namespace Fleet

variable {E : Interface} {conducts : Conducts E}
  {trace inner outer : List (Session.Exchange (World E))}

namespace ShardBuffer

variable {buffer : ShardBuffer}

private theorem Tidy.flush_eq (h : buffer.Tidy) : buffer.flush = (buffer.pending, {}) := by
  have hanswer : buffer.answer .flush = (buffer.pending ++ [], {}) := h.answer_of_closed rfl rfl
  rwa [List.append_nil] at hanswer

open scoped List in
/-- What passes of some events and what is held back after them is what was held back before and
the events. -/
theorem Tidy.perm_reports (h : buffer.Tidy) (events : List Event) :
    (buffer.passed (ShardCall.reports events) ++
      (buffer.after (ShardCall.reports events)).pending).Perm (buffer.pending ++ events) := by
  let calls := ShardCall.reports events
  have hlogs : (buffer.passed calls).filter (·.isLog) = events.filter (·.isLog) :=
    (h.logs_passed calls).trans ShardCall.logs_reports
  have hordinary := h.ordinary_passed calls
  rw [ShardCall.ordinary_reports] at hordinary
  calc buffer.passed calls ++ (buffer.after calls).pending
    _ ~ (buffer.passed calls).filter (·.isLog) ++ (buffer.passed calls).filter (!·.isLog) ++
          (buffer.after calls).pending :=
      (List.filter_append_perm _ _).symm.append_right _
    _ = events.filter (·.isLog) ++ (buffer.pending ++ events.filter (!·.isLog)) := by
      rw [List.append_assoc, hlogs, hordinary]
    _ ~ buffer.pending ++ (events.filter (·.isLog) ++ events.filter (!·.isLog)) :=
      List.perm_append_comm_assoc ..
    _ ~ buffer.pending ++ events := (List.filter_append_perm _ _).append_left _

end ShardBuffer

namespace Seat

variable {seat last : Seat}

/-- A closed seat holds nothing back, and it is noted how the run of its poller ended. -/
structure Shut (seat : Seat) : Prop where
  buffer : seat.buffer = {}
  noted : ∃ exit, seat.poller.exit? = some exit ∧ seat.error = exit.shardError? ∧
    (exit ≠ .error .other → seat.escaped = none)

/-- The buffer of the seat is tidy, and if the seat is closed, it is properly shut. -/
structure Sound (seat : Seat) : Prop where
  tidy : seat.buffer.Tidy
  shut : seat.closed = true → seat.Shut

private theorem Tends.sound (h : seat.Tends inner outer last) (hsound : seat.Sound)
    (hheeded : Session.Heeded outer) : last.Sound := by
  cases h with
  | relayed running buffered kept =>
    refine ⟨buffered.tidy_last hsound.tidy, fun hclosed => ?_⟩
    rw [kept] at hclosed
    obtain ⟨exit, hexit, -⟩ := (hsound.shut hclosed).noted
    rw [running] at hexit
    cases hexit
  | closed left closes =>
    obtain ⟨logged, passing, flushed, escaped, rfl, -, hpassing, rfl, hescaped⟩ :=
      path_close closes
    have hflushed := (uneventful_sendAll hpassing).2 (Session.heeded_append.mp hheeded).2
    have hidle : seat.buffer.flush.2 = {} := congrArg Prod.snd hsound.tidy.flush_eq
    exact ⟨hidle ▸ ShardBuffer.tidy_empty, fun _ =>
      ⟨hidle, _, left, rfl, fun hexit => hescaped hexit hflushed⟩⟩
  | rested => exact hsound

/-- What a seat sends in a step and holds back after it is what it held back before and what its
poller told. -/
theorem Tends.forwarded (h : seat.Tends inner outer last) (hsound : seat.Sound)
    (hheeded : Session.Heeded outer) :
    (Session.sent outer ++ last.buffer.pending).Perm
      (seat.buffer.pending ++ Session.sent inner) := by
  cases h with
  | relayed running buffered kept =>
    rw [buffered.sent_eq hheeded, buffered.last_eq]
    exact hsound.tidy.perm_reports _
  | closed left closes =>
    obtain ⟨logged, passing, flushed, escaped, rfl, hlogged, hpassing, rfl, -⟩ :=
      path_close closes
    have hquiet := Session.sent_of_deeds_nil (quiet_errorOf.deeds hlogged)
    have hsent := sent_sendAll hpassing (Session.heeded_append.mp hheeded).2
    rw [Session.sent_append, hquiet, hsent, hsound.tidy.flush_eq]
    exact .refl _
  | rested => exact List.perm_append_comm

end Seat

namespace Invocation

variable {invocation first last : Invocation}

/-- What the buffers of an invocation hold back. -/
def held (invocation : Invocation) : List Event :=
  invocation.seats.flatMap (·.buffer.pending)

private theorem count_held (event : Event) : invocation.held.count event =
    (invocation.seats.map fun seat => seat.buffer.pending.count event).sum :=
  List.count_flatMap

namespace Conveys

private theorem sound (h : Conveys first inner trace last)
    (hsound : ∀ seat ∈ first.seats, seat.Sound)
    (hheeded : Session.Heeded trace) : ∀ seat ∈ last.seats, seat.Sound := by
  induction h with
  | rested => exact hsound
  | turned hseat htends _ ih =>
    obtain ⟨hnow, hlater⟩ := Session.heeded_append.mp hheeded
    have hafter := htends.sound (hsound _ (List.mem_of_getElem? hseat)) hnow
    refine ih (fun other hother => ?_) hlater
    rcases List.mem_or_eq_of_mem_set hother with hold | rfl
    · exact hsound other hold
    · exact hafter

/-- What has been sent and what is held back is what was held back before and what the pollers have
told since. -/
theorem forwarded (h : Conveys first inner trace last)
    (hsound : ∀ seat ∈ first.seats, seat.Sound) (hheeded : Session.Heeded trace) :
    (Session.sent trace ++ last.held).Perm (first.held ++ Session.sent inner) := by
  induction h with
  | rested => exact List.perm_append_comm
  | @turned first last index floor seat after inner outer innerMore more hseat htends hrest ih =>
    obtain ⟨hnow, hlater⟩ := Session.heeded_append.mp hheeded
    have hbefore := hsound _ (List.mem_of_getElem? hseat)
    have hafter : ∀ other ∈ first.seats.set index after, other.Sound := by
      intro other hother
      rcases List.mem_or_eq_of_mem_set hother with hold | rfl
      · exact hsound other hold
      · exact htends.sound hbefore hnow
    have hsent := List.perm_iff_count.mp (htends.forwarded hbefore hnow)
    have hmore := List.perm_iff_count.mp (ih hafter hlater)
    refine List.perm_iff_count.mpr fun event => ?_
    have hseatSent := hsent event
    have hmoreSent := hmore event
    have hset := @sum_map_set _ (fun seat : Seat => seat.buffer.pending.count event) _ _ _ after
      hseat
    simp only [Session.sent_append, List.count_append, count_held] at hseatSent hmoreSent hset ⊢
    omega

end Conveys

variable {plan : InvocationPlan} {context : Context} {units : List (Option TestUnit)}

private theorem sound_start : ∀ seat ∈ (plan.start context units).seats, seat.Sound := by
  intro seat hseat
  have hidle := (InvocationPlan.wiring_of_mem_seats hseat).1
  have hopen := (InvocationPlan.mem_seats hseat).2
  exact ⟨hidle ▸ ShardBuffer.tidy_empty, fun hclosed => absurd hclosed (hopen ▸ nofun)⟩

private theorem held_eq_nil (h : ∀ seat ∈ invocation.seats, seat.buffer = {}) :
    invocation.held = [] :=
  List.flatMap_eq_nil_iff.mpr fun seat hseat => by rw [h seat hseat]

/-- When all seats are closed, all that the pollers have told has been sent. -/
theorem Conveys.sent_of_over (h : Conveys (plan.start context units) inner trace last)
    (hheeded : Session.Heeded trace) (hover : last.Over) :
    (∀ seat ∈ last.seats, seat.Shut) ∧ (Session.sent trace).Perm (Session.sent inner) := by
  have hshut : ∀ seat ∈ last.seats, seat.Shut := fun seat hseat =>
    (h.sound sound_start hheeded seat hseat).shut (hover seat hseat)
  have hstart : (plan.start context units).held = [] :=
    held_eq_nil fun seat hseat => (InvocationPlan.wiring_of_mem_seats hseat).1
  have hlast : last.held = [] := held_eq_nil fun seat hseat => (hshut seat hseat).buffer
  have hall := h.forwarded sound_start hheeded
  rw [hstart, hlast, List.append_nil, List.nil_append] at hall
  exact ⟨hshut, hall⟩

end Invocation

end Fleet
