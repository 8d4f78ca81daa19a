import Fleet.Listener.OpenRuns
import Fleet.Listener.ShardBuffer

/-!
# One shard buffer

A buffer answers calls: events are reported to it, and it is flushed. Between two calls it holds
something back exactly while a run is open. A log passes in answer to its own call; everything else
passes in the order in which it was reported, and a run passes whole, in answer to the call that
closes it.
-/

namespace Fleet

/-- A call of a shard buffer. -/
inductive ShardCall where
  /-- An event is reported. -/
  | report (event : Event)
  /-- What is held back is let through. -/
  | flush
  deriving DecidableEq

namespace ShardCall

/-- The log a call reports, if it reports one. -/
def log? : ShardCall → Option Event
  | report event => if event.isLog then some event else none
  | flush => none

/-- What else a call reports. -/
def ordinary? : ShardCall → Option Event
  | report event => if event.isLog then none else some event
  | flush => none

/-- How many runs are open after one more call. No run is left open by a flush. -/
def openRuns (before : Nat) : ShardCall → Nat
  | report event => openRunsAfter before event
  | flush => 0

/-- How many runs are open after calls made from the start. -/
def depth (calls : List ShardCall) : Nat :=
  calls.foldl openRuns 0

/-- The ordinary events that calls report, in order. -/
def ordinary (calls : List ShardCall) : List Event :=
  calls.filterMap ordinary?

/-- After some earlier calls, a run is opened from outside of any run, stays open during the inner
calls and is closed, by its end or by a flush. -/
structure Block (earlier inner : List ShardCall) (opening closing : ShardCall) : Prop where
  outermost : depth earlier = 0
  opens : ∃ run count, opening = .report (.runStarted run count)
  inside : ∀ part, part <+: inner → depth (earlier ++ opening :: part) ≠ 0
  closes : depth (earlier ++ opening :: inner ++ [closing]) = 0

variable {call : ShardCall} {event : Event} {calls more : List ShardCall}

private theorem ordinary_append : ordinary (calls ++ more) = ordinary calls ++ ordinary more :=
  List.filterMap_append

/-- What is no log entry passes in the order of the calls. -/
theorem ordinary_cons : ordinary (call :: calls) = call.ordinary?.toList ++ ordinary calls := by
  cases h : call.ordinary? <;> simp [ordinary, h]

private theorem ordinary_concat :
    ordinary (calls ++ [call]) = ordinary calls ++ call.ordinary?.toList := by
  cases h : call.ordinary? <;> simp [ordinary, h]

/-- The last call opens or closes a run on top of those before it. -/
theorem depth_concat : depth (calls ++ [call]) = call.openRuns (depth calls) := by
  simp [depth, List.foldl_append]

private theorem isLog_of_ordinary? (h : call.ordinary? = some event) : event.isLog = false := by
  cases call with
  | flush => cases h
  | report reported =>
    rw [ordinary?] at h
    split at h
    · cases h
    · rename_i hnot
      obtain rfl := Option.some.inj h
      simpa using hnot

private theorem isLog_of_log? (h : call.log? = some event) : event.isLog = true := by
  cases call with
  | flush => cases h
  | report reported =>
    rw [log?] at h
    split at h
    · rename_i hlog
      obtain rfl := Option.some.inj h
      exact hlog
    · cases h

private theorem ordinary?_of_log? (h : call.log? = some event) : call.ordinary? = none := by
  cases call with
  | flush => cases h
  | report reported =>
    by_cases hlog : reported.isLog
    · simp [ordinary?, hlog]
    · simp [log?, hlog] at h

/-- What is called about no log is a flush or the report of something else. -/
theorem eq_flush_or_ordinary? (h : call.log? = none) :
    call = .flush ∨ ∃ event, call.ordinary? = some event := by
  cases call with
  | flush => exact .inl rfl
  | report reported =>
    refine .inr ⟨reported, ?_⟩
    by_cases hlog : reported.isLog
    · simp [log?, hlog] at h
    · simp [ordinary?, hlog]

/-- A log opens and closes no run. -/
theorem openRuns_of_log? (h : call.log? = some event) (before : Nat) :
    call.openRuns before = before := by
  cases call with
  | flush => cases h
  | report reported => cases reported <;> first | rfl | cases h

/-- The call that closes a block is about no log. -/
theorem Block.log?_closing {earlier inner : List ShardCall} {opening closing : ShardCall}
    (h : Block earlier inner opening closing) : closing.log? = none := by
  cases hlog : closing.log? with
  | none => rfl
  | some event =>
    have hopen := h.inside inner (List.prefix_refl inner)
    have hclosed := h.closes
    rw [depth_concat, openRuns_of_log? hlog] at hclosed
    exact absurd hclosed hopen

/-- Where no run is left open, there is a first call that leaves none open. -/
theorem exists_first_closed {later : List ShardCall} {runs : Nat} (hopen : runs ≠ 0)
    (hclosed : later.foldl openRuns runs = 0) :
    ∃ inner closing rest, later = inner ++ closing :: rest ∧
      (∀ part, part <+: inner → part.foldl openRuns runs ≠ 0) ∧
      (inner ++ [closing]).foldl openRuns runs = 0 := by
  induction later generalizing runs with
  | nil => exact absurd hclosed hopen
  | cons call rest ih =>
    by_cases hnow : call.openRuns runs = 0
    · refine ⟨[], call, rest, rfl, ?_, hnow⟩
      intro part hpart
      rwa [List.prefix_nil.mp hpart]
    · obtain ⟨inner, closing, rest, rfl, hinside, hcloses⟩ := ih hnow hclosed
      refine ⟨call :: inner, closing, rest, rfl, ?_, hcloses⟩
      intro part hpart
      obtain rfl | ⟨part, rfl, hprefix⟩ := List.prefix_cons_iff.mp hpart
      · exact hopen
      · exact hinside part hprefix

/-- A run that is opened from outside of any run begins a block, if no run is open in the end. -/
theorem exists_block {earlier later : List ShardCall} {opening : ShardCall}
    (houtermost : depth earlier = 0)
    (hopens : ∃ run count, opening = .report (.runStarted run count))
    (hclosed : depth (earlier ++ opening :: later) = 0) :
    ∃ inner closing rest, later = inner ++ closing :: rest ∧
      Block earlier inner opening closing := by
  have hopen : depth (earlier ++ [opening]) ≠ 0 := by
    obtain ⟨run, count, rfl⟩ := hopens
    rw [depth_concat]
    exact Nat.succ_ne_zero _
  have hfrom : ∀ part, part.foldl openRuns (depth (earlier ++ [opening])) =
      depth (earlier ++ opening :: part) := by
    intro part
    rw [depth, depth, ← List.foldl_append, List.append_assoc, List.singleton_append]
  obtain ⟨inner, closing, rest, hlater, hinside, hcloses⟩ :=
    exists_first_closed hopen ((hfrom later).trans hclosed)
  refine ⟨inner, closing, rest, hlater, houtermost, hopens, ?_, ?_⟩
  · intro part hpart
    rw [← hfrom]
    exact hinside part hpart
  · rw [hfrom] at hcloses
    rwa [List.append_assoc, List.cons_append]

end ShardCall

namespace ShardBuffer

/-- Answer a call: what passes now, and the buffer after it. -/
def answer (buffer : ShardBuffer) : ShardCall → List Event × ShardBuffer
  | .report event => buffer.receive event
  | .flush => buffer.flush

/-- The buffer after several calls. -/
def after (buffer : ShardBuffer) (calls : List ShardCall) : ShardBuffer :=
  calls.foldl (fun buffer call => (buffer.answer call).2) buffer

/-- What passes in answer to several calls. -/
def passed : ShardBuffer → List ShardCall → List Event
  | _, [] => []
  | buffer, call :: calls => (buffer.answer call).1 ++ passed (buffer.answer call).2 calls

/-- Something is held back exactly while a run is open, and it is no log. -/
structure Tidy (buffer : ShardBuffer) : Prop where
  held_iff : buffer.pending = [] ↔ buffer.openRuns = 0
  no_logs : ∀ event ∈ buffer.pending, event.isLog = false

variable {buffer : ShardBuffer} {call : ShardCall} {event : Event} {calls more : List ShardCall}

/-- An empty buffer is tidy. -/
theorem tidy_empty : ({} : ShardBuffer).Tidy :=
  ⟨by simp, by simp⟩

/-- Outside of any run nothing is held back. -/
theorem Tidy.eq_empty (h : buffer.Tidy) (hruns : buffer.openRuns = 0) : buffer = {} := by
  have hpending := h.held_iff.mpr hruns
  obtain ⟨pending, openRuns⟩ := buffer
  obtain ⟨rfl, rfl⟩ : pending = [] ∧ openRuns = 0 := ⟨hpending, hruns⟩
  rfl

/-- All a call does to a tidy buffer. A log passes at once. Everything else joins what is held back
already; if no run is open then, all of it passes. -/
theorem Tidy.answer_eq (h : buffer.Tidy) (call : ShardCall) :
    buffer.answer call =
      match call.log? with
      | some event => ([event], buffer)
      | none =>
        if call.openRuns buffer.openRuns = 0 then
          (buffer.pending ++ call.ordinary?.toList, {})
        else
          ([], { pending := buffer.pending ++ call.ordinary?.toList
                 openRuns := call.openRuns buffer.openRuns }) := by
  obtain ⟨pending, openRuns⟩ := buffer
  have hheld : pending = [] ↔ openRuns = 0 := h.held_iff
  cases call with
  | flush =>
    by_cases hopen : openRuns = 0
    · have hnil : pending = [] := hheld.mpr hopen
      simp [answer, flush, ShardCall.log?, ShardCall.openRuns, ShardCall.ordinary?, hopen, hnil]
    · have hsome : pending ≠ [] := fun hnil => hopen (hheld.mp hnil)
      simp [answer, flush, ShardCall.log?, ShardCall.openRuns, ShardCall.ordinary?, hsome]
  | report event =>
    cases event with
    | runStarted run count =>
      simp [answer, receive, ShardCall.log?, ShardCall.openRuns, ShardCall.ordinary?,
        openRunsAfter, Event.isLog]
    | runEnded elapsedMs metrics =>
      simp [answer, receive, flush, ShardCall.log?, ShardCall.openRuns, ShardCall.ordinary?,
        openRunsAfter, Event.isLog]
    | testLog log kind data => rfl
    | logSaved log kind data file => rfl
    | _ =>
      by_cases hopen : openRuns = 0
      · have hnil : pending = [] := hheld.mpr hopen
        simp [answer, receive, ShardCall.log?, ShardCall.openRuns, ShardCall.ordinary?,
          openRunsAfter, Event.isLog, hopen, hnil]
      · simp [answer, receive, ShardCall.log?, ShardCall.openRuns, ShardCall.ordinary?,
          openRunsAfter, Event.isLog, hopen]

/-- What a call reports can join what is held back. -/
theorem Tidy.no_logs_joined (h : buffer.Tidy) (call : ShardCall) :
    ∀ event ∈ buffer.pending ++ call.ordinary?.toList, event.isLog = false :=
  List.forall_mem_append.mpr ⟨h.no_logs, fun _ hevent =>
    ShardCall.isLog_of_ordinary? (Option.mem_toList.mp hevent)⟩

private theorem Tidy.answer_of_log (h : buffer.Tidy) (hlog : call.log? = some event) :
    buffer.answer call = ([event], buffer) := by
  simp [h.answer_eq, hlog]

/-- A call that leaves no run open lets through all that is held back. -/
theorem Tidy.answer_of_closed (h : buffer.Tidy) (hlog : call.log? = none)
    (hclosed : call.openRuns buffer.openRuns = 0) :
    buffer.answer call = (buffer.pending ++ call.ordinary?.toList, {}) := by
  simp [h.answer_eq, hlog, hclosed]

/-- A call within a run is held back. -/
theorem Tidy.answer_of_open (h : buffer.Tidy) (hlog : call.log? = none)
    (hopen : call.openRuns buffer.openRuns ≠ 0) :
    buffer.answer call = ([], { pending := buffer.pending ++ call.ordinary?.toList
                                openRuns := call.openRuns buffer.openRuns }) := by
  simp [h.answer_eq, hlog, hopen]

/-- A buffer counts the runs that are open. -/
theorem Tidy.openRuns_answer (h : buffer.Tidy) (call : ShardCall) :
    (buffer.answer call).2.openRuns = call.openRuns buffer.openRuns := by
  cases hlog : call.log? with
  | some event => rw [h.answer_of_log hlog, ShardCall.openRuns_of_log? hlog]
  | none =>
    by_cases hclosed : call.openRuns buffer.openRuns = 0
    · rw [h.answer_of_closed hlog hclosed, hclosed]
    · rw [h.answer_of_open hlog hclosed]

/-- A tidy buffer stays tidy. -/
theorem Tidy.tidy_answer (h : buffer.Tidy) (call : ShardCall) : (buffer.answer call).2.Tidy := by
  cases hlog : call.log? with
  | some event => rwa [h.answer_of_log hlog]
  | none =>
    by_cases hclosed : call.openRuns buffer.openRuns = 0
    · rw [h.answer_of_closed hlog hclosed]
      exact tidy_empty
    · rw [h.answer_of_open hlog hclosed]
      -- A call that leaves a run open is no flush, so it adds an event to what is held back.
      obtain rfl | ⟨event, hevent⟩ := ShardCall.eq_flush_or_ordinary? hlog
      · exact absurd rfl hclosed
      · exact ⟨by simp [hevent, hclosed], h.no_logs_joined call⟩

/-- A log passes in answer to its own call, and no other log does. -/
theorem Tidy.logs_answer (h : buffer.Tidy) (call : ShardCall) :
    (buffer.answer call).1.filter (·.isLog) = call.log?.toList := by
  cases hlog : call.log? with
  | some event => simp [h.answer_of_log hlog, ShardCall.isLog_of_log? hlog]
  | none =>
    by_cases hclosed : call.openRuns buffer.openRuns = 0
    · have hmem : ∀ event ∈ call.ordinary?.toList, event.isLog = false := fun event hevent =>
        ShardCall.isLog_of_ordinary? (Option.mem_toList.mp hevent)
      rw [h.answer_of_closed hlog hclosed, Option.toList_none, List.filter_eq_nil_iff]
      simpa only [Bool.not_eq_true] using h.no_logs_joined call
    · simp [h.answer_of_open hlog hclosed]

/-- Everything else that a call reports passes after what was held back, or is held back after
it. -/
theorem Tidy.ordinary_answer (h : buffer.Tidy) (call : ShardCall) :
    (buffer.answer call).1.filter (!·.isLog) ++ (buffer.answer call).2.pending =
      buffer.pending ++ call.ordinary?.toList := by
  cases hlog : call.log? with
  | some event =>
    simp [h.answer_of_log hlog, ShardCall.isLog_of_log? hlog, ShardCall.ordinary?_of_log? hlog]
  | none =>
    by_cases hclosed : call.openRuns buffer.openRuns = 0
    · have hmem : ∀ event ∈ call.ordinary?.toList, event.isLog = false := fun event hevent =>
        ShardCall.isLog_of_ordinary? (Option.mem_toList.mp hevent)
      rw [h.answer_of_closed hlog hclosed, List.append_nil, List.filter_eq_self]
      simpa only [Bool.not_eq_true'] using h.no_logs_joined call
    · simp [h.answer_of_open hlog hclosed]

private theorem after_append : buffer.after (calls ++ more) = (buffer.after calls).after more :=
  List.foldl_append

/-- So it does after several calls. -/
theorem Tidy.tidy_after (h : buffer.Tidy) (calls : List ShardCall) : (buffer.after calls).Tidy := by
  induction calls generalizing buffer with
  | nil => exact h
  | cons call rest ih => exact ih (h.tidy_answer call)

/-- The buffer counts the open runs. -/
theorem Tidy.openRuns_after (h : buffer.Tidy) (calls : List ShardCall) :
    (buffer.after calls).openRuns = calls.foldl ShardCall.openRuns buffer.openRuns := by
  induction calls generalizing buffer with
  | nil => rfl
  | cons call rest ih =>
    have hrest := ih (h.tidy_answer call)
    rwa [h.openRuns_answer] at hrest

/-- What passes and what is held back in the end is what was reported, in order. -/
theorem Tidy.ordinary_passed (h : buffer.Tidy) (calls : List ShardCall) :
    (buffer.passed calls).filter (!·.isLog) ++ (buffer.after calls).pending =
      buffer.pending ++ ShardCall.ordinary calls := by
  induction calls generalizing buffer with
  | nil => simp [passed, after, ShardCall.ordinary]
  | cons call rest ih =>
    have hrest := ih (h.tidy_answer call)
    calc ((buffer.answer call).1 ++ (buffer.answer call).2.passed rest).filter (!·.isLog) ++
          ((buffer.answer call).2.after rest).pending
      _ = (buffer.answer call).1.filter (!·.isLog) ++
          (((buffer.answer call).2.passed rest).filter (!·.isLog) ++
            ((buffer.answer call).2.after rest).pending) := by
        rw [List.filter_append, List.append_assoc]
      _ = buffer.pending ++ call.ordinary?.toList ++ ShardCall.ordinary rest := by
        rw [hrest, ← List.append_assoc, h.ordinary_answer]
      _ = buffer.pending ++ ShardCall.ordinary (call :: rest) := by
        rw [ShardCall.ordinary_cons, List.append_assoc]

/-- The logs pass in order. -/
theorem Tidy.logs_passed (h : buffer.Tidy) (calls : List ShardCall) :
    (buffer.passed calls).filter (·.isLog) = calls.filterMap ShardCall.log? := by
  induction calls generalizing buffer with
  | nil => rfl
  | cons call rest ih =>
    rw [passed, List.filter_append, h.logs_answer, ih (h.tidy_answer call)]
    cases hlog : call.log? <;> simp [hlog]

/-- While a run stays open, everything but the logs is held back. -/
theorem Tidy.pending_after_of_open (h : buffer.Tidy) {calls : List ShardCall}
    (hopen : ∀ part, part <+: calls → part.foldl ShardCall.openRuns buffer.openRuns ≠ 0) :
    (buffer.after calls).pending = buffer.pending ++ ShardCall.ordinary calls := by
  induction calls generalizing buffer with
  | nil => simp [after, ShardCall.ordinary]
  | cons call rest ih =>
    have hlater : ∀ part, part <+: rest →
        part.foldl ShardCall.openRuns (buffer.answer call).2.openRuns ≠ 0 := by
      intro part hpart
      rw [h.openRuns_answer]
      exact hopen (call :: part) (List.cons_prefix_cons.mpr ⟨rfl, hpart⟩)
    have hnow : call.openRuns buffer.openRuns ≠ 0 := hopen [call] (List.prefix_append [call] rest)
    have hheld : (buffer.answer call).2.pending = buffer.pending ++ call.ordinary?.toList := by
      cases hlog : call.log? with
      | some event => simp [h.answer_of_log hlog, ShardCall.ordinary?_of_log? hlog]
      | none => rw [h.answer_of_open hlog hnow]
    calc ((buffer.answer call).2.after rest).pending
      _ = buffer.pending ++ call.ordinary?.toList ++ ShardCall.ordinary rest := by
        rw [ih (h.tidy_answer call) hlater, hheld]
      _ = buffer.pending ++ ShardCall.ordinary (call :: rest) := by
        rw [ShardCall.ordinary_cons, List.append_assoc]

end ShardBuffer

namespace ShardCall.Block

variable {earlier inner : List ShardCall} {opening closing : ShardCall}

/-- A block is held back whole until it is closed. -/
theorem pending (h : Block earlier inner opening closing) :
    (({} : ShardBuffer).after (earlier ++ opening :: inner)).pending =
      ordinary (opening :: inner) := by
  have htidy : (({} : ShardBuffer).after earlier).Tidy := ShardBuffer.tidy_empty.tidy_after earlier
  have hruns : (({} : ShardBuffer).after earlier).openRuns = depth earlier :=
    ShardBuffer.tidy_empty.openRuns_after earlier
  have hnil : (({} : ShardBuffer).after earlier).pending = [] :=
    htidy.held_iff.mpr (hruns.trans h.outermost)
  obtain ⟨run, count, rfl⟩ := h.opens
  have hopen : ∀ part, part <+: inner →
      part.foldl openRuns (({} : ShardBuffer).after earlier |>.answer
        (.report (.runStarted run count))).2.openRuns ≠ 0 := by
    intro part hpart
    have hinside := h.inside part hpart
    rwa [htidy.openRuns_answer, hruns, depth, ← List.foldl_cons, ← List.foldl_append]
  rw [ShardBuffer.after_append]
  exact ((htidy.tidy_answer _).pending_after_of_open hopen).trans (by
    simp [ShardBuffer.answer, ShardBuffer.receive, hnil, ordinary_cons, ordinary?, Event.isLog])

/-- The call that closes a block lets the block through, and nothing else. -/
theorem answer_closing (h : Block earlier inner opening closing) :
    (({} : ShardBuffer).after (earlier ++ opening :: inner)).answer closing =
      (ordinary (opening :: inner ++ [closing]), {}) := by
  have htidy : (({} : ShardBuffer).after (earlier ++ opening :: inner)).Tidy :=
    ShardBuffer.tidy_empty.tidy_after _
  have hclosed : closing.openRuns
      (({} : ShardBuffer).after (earlier ++ opening :: inner)).openRuns = 0 := by
    have hcloses := h.closes
    rwa [ShardBuffer.tidy_empty.openRuns_after, ← depth, ← depth_concat]
  rw [htidy.answer_of_closed h.log?_closing hclosed, h.pending, ordinary_concat]

/-- When a block is closed, everything reported before it has passed, and nothing of the block. -/
theorem ordinary_passed (h : Block earlier inner opening closing) :
    (({} : ShardBuffer).passed (earlier ++ opening :: inner)).filter (!·.isLog) =
      ordinary earlier := by
  have hall := ShardBuffer.tidy_empty.ordinary_passed (earlier ++ opening :: inner)
  rw [h.pending, List.nil_append, ordinary_append] at hall
  exact List.append_cancel_right hall

end ShardCall.Block

end Fleet
