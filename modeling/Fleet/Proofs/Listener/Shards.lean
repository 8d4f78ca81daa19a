import Fleet.Listener.Network
import Fleet.Proofs.Calm
import Fleet.Proofs.Listener.ShardBuffer

/-!
# Shard buffers that share an outlet

Several buffers stand in front of one outlet, and their calls are made in any order, one at a time.
Whatever the order is, the outlet hears of each buffer what the buffer lets through by itself, and
all of it at once: the blocks of different buffers never overlap.
-/

namespace Fleet

/-- What is one party's, of things that are each some party's. -/
def share {count : Nat} {α : Type} (index : Fin count) (items : List (Fin count × α)) : List α :=
  items.filterMap fun item => if item.1 = index then some item.2 else none

section Share

variable {count : Nat} {α : Type} {index other : Fin count}

@[simp] theorem share_nil : share index ([] : List (Fin count × α)) = [] :=
  rfl

@[simp] theorem share_cons_self {item : α} {items : List (Fin count × α)} :
    share index ((index, item) :: items) = item :: share index items := by
  simp [share]

private theorem share_cons_of_ne (h : other ≠ index) {item : α} {items : List (Fin count × α)} :
    share index ((other, item) :: items) = share index items := by
  simp [share, h]

@[simp] theorem share_append {items more : List (Fin count × α)} :
    share index (items ++ more) = share index items ++ share index more :=
  List.filterMap_append

@[simp] theorem share_map_self {items : List α} :
    share index (items.map fun item => (index, item)) = items := by
  induction items with
  | nil => rfl
  | cons item rest ih => rw [List.map_cons, share_cons_self, ih]

private theorem share_map_of_ne (h : other ≠ index) {items : List α} :
    share index (items.map fun item => (other, item)) = [] := by
  induction items with
  | nil => rfl
  | cons item rest ih => rw [List.map_cons, share_cons_of_ne h, ih]

/-- A place in one party's share is a place in the whole. -/
theorem exists_of_share_eq {items : List (Fin count × α)} {before after : List α} {item : α}
    (h : share index items = before ++ item :: after) :
    ∃ first last, items = first ++ (index, item) :: last ∧ share index first = before := by
  obtain ⟨first, rest, rfl, hfirst, hrest⟩ := List.filterMap_eq_append_iff.mp h
  obtain ⟨skipped, ⟨owner, found⟩, last, rfl, hskipped, hfound, -⟩ :=
    List.filterMap_eq_cons_iff.mp hrest
  obtain ⟨rfl, hitem⟩ := Option.ite_none_right_eq_some.mp hfound
  obtain rfl := Option.some.inj hitem
  refine ⟨first ++ skipped, last, by simp, ?_⟩
  rw [share_append]
  have hnone : share owner skipped = [] := List.filterMap_eq_nil_iff.mpr hskipped
  rw [hnone, List.append_nil]
  exact hfirst

end Share

/-- What a call of one of several buffers lets through. -/
structure Passage (count : Nat) where
  /-- The buffer. -/
  index : Fin count
  /-- The call. -/
  call : ShardCall
  /-- The events, in order. -/
  passed : List Event

namespace Passage

variable {count : Nat}

/-- The call and its buffer. -/
def made (passage : Passage count) : Fin count × ShardCall :=
  (passage.index, passage.call)

/-- All events that are let through, each with the buffer it comes from. -/
def heard (passages : List (Passage count)) : List (Fin count × Event) :=
  passages.flatMap fun passage => passage.passed.map fun event => (passage.index, event)

end Passage

namespace Shards

variable {E : Interface} {count : Nat}

/-- Buffers in front of one outlet. -/
def fronting (outlet : Nat) (buffers : Fin count → ShardBuffer) : Network :=
  .outlet outlet :: List.ofFn fun index => .shard (buffers index) 0

/-- Call one of the buffers. -/
def make (index : Fin count) : ShardCall → Flow E Network Unit
  | .report event => Network.send (index + 1) event
  | .flush => Network.flush (index + 1)

/-- Make calls of several buffers, one after another. -/
def play (calls : List (Fin count × ShardCall)) : Flow E Network Unit :=
  calls.forM fun (index, call) => make index call

/-- The buffers with one of them replaced. -/
def replace (buffers : Fin count → ShardBuffer) (index : Fin count) (buffer : ShardBuffer) :
    Fin count → ShardBuffer :=
  fun other => if other = index then buffer else buffers other

/-- The buffers after one call. -/
def answered (buffers : Fin count → ShardBuffer) (index : Fin count) (call : ShardCall) :
    Fin count → ShardBuffer :=
  replace buffers index ((buffers index).answer call).2

/-- What calls let through, in turn. -/
def passages : (Fin count → ShardBuffer) → List (Fin count × ShardCall) → List (Passage count)
  | _, [] => []
  | buffers, (index, call) :: calls =>
    ⟨index, call, ((buffers index).answer call).1⟩ :: passages (answered buffers index call) calls

/-- An event that the outlet is sent and takes. -/
def taken (outlet : Nat) (event : Event) : Session.Exchange (World E) :=
  ⟨.inl (.send outlet event), .ok ()⟩

variable {outlet : Nat} {buffers : Fin count → ShardBuffer} {index : Fin count}
  {first last : Network} {trace : List (Session.Exchange (World E))} {result : Except Thrown Unit}

private theorem length_fronting : (fronting outlet buffers).length = count + 1 := by
  simp [fronting]

private theorem getElem?_fronting :
    (fronting outlet buffers)[(index : Nat) + 1]? = some (.shard (buffers index) 0) := by
  simp [fronting]

private theorem set_fronting {buffer : ShardBuffer} :
    (fronting outlet buffers).set (index + 1) (.shard buffer 0) =
      fronting outlet (replace buffers index buffer) := by
  simp only [fronting, List.set_cons_succ, List.cons.injEq, true_and]
  refine List.ext_getElem (by simp) ?_
  intro place hplace _
  by_cases h : (index : Nat) = place
  · simp [replace, h, Fin.ext_iff]
  · simp [replace, h, Fin.ext_iff, Ne.symm h]

/-- What is sent to the outlet reaches it, and no buffer notices. -/
theorem ends_deliver_outlet {reach : Nat} {event : Event}
    (h : (Network.deliver (reach + 1) 0 event).Ends (fronting outlet buffers) trace result last)
    (hcalm : Session.Calm trace) :
    trace = [taken outlet event] ∧ result = .ok () ∧ last = fronting outlet buffers := by
  rw [Network.deliver, Flow.ends_get_bind] at h
  have hsend : (Flow.send outlet event).Ends (fronting outlet buffers) trace result last := h
  obtain ⟨rfl, rfl⟩ := Flow.ends_send hsend
  obtain rfl : result = .ok () := (Session.calm_cons.mp hcalm).1
  exact ⟨rfl, rfl, rfl⟩

/-- Several events reach the outlet in turn. -/
theorem ends_forM_outlet {events : List Event} {deliver : Event → Flow E Network Unit}
    (hdeliver : ∀ ⦃event trace result last⦄,
      (deliver event).Ends (fronting outlet buffers) trace result last → Session.Calm trace →
        trace = [taken outlet event] ∧ result = .ok () ∧ last = fronting outlet buffers)
    (h : (events.forM deliver).Ends (fronting outlet buffers) trace result last)
    (hcalm : Session.Calm trace) :
    trace = events.map (taken outlet) ∧ result = .ok () ∧ last = fronting outlet buffers := by
  induction events generalizing trace with
  | nil =>
    obtain ⟨rfl, rfl, rfl⟩ := Flow.ends_pure.mp h
    exact ⟨rfl, rfl, rfl⟩
  | cons event rest ih =>
    rw [List.forM] at h
    rcases Flow.ends_bind.mp h with
      ⟨thrown, hthrown, rfl⟩ | ⟨⟨⟩, before, after, mid, rfl, hfirst, hrest⟩
    · obtain ⟨-, hnot, -⟩ := hdeliver hthrown hcalm
      cases hnot
    · obtain ⟨hbefore, hafter⟩ := Session.calm_append.mp hcalm
      obtain ⟨rfl, -, rfl⟩ := hdeliver hfirst hbefore
      obtain ⟨rfl, rfl, rfl⟩ := ih hrest hafter
      exact ⟨rfl, rfl, rfl⟩

/-- A call of one buffer lets through what that buffer answers it with, and touches no other. -/
theorem ends_make {call : ShardCall}
    (h : (make index call).Ends (fronting outlet buffers) trace result last)
    (hcalm : Session.Calm trace) :
    trace = ((buffers index).answer call).1.map (taken outlet) ∧ result = .ok () ∧
      last = fronting outlet (answered buffers index call) := by
  cases call with
  | report event =>
    rw [make, Network.send, Flow.ends_get_bind, length_fronting, Network.deliver,
      Flow.ends_get_bind, getElem?_fronting] at h
    have hpassing := Flow.ends_modify_bind.mp h
    rw [set_fronting] at hpassing
    exact ends_forM_outlet (fun _ _ _ _ => ends_deliver_outlet) hpassing hcalm
  | flush =>
    rw [make, Network.flush, Flow.ends_get_bind, getElem?_fronting] at h
    have hpassing := Flow.ends_modify_bind.mp h
    rw [set_fronting] at hpassing
    refine ends_forM_outlet (fun event _ _ _ hsent hcalm => ?_) hpassing hcalm
    rw [Network.send, Flow.ends_get_bind] at hsent
    exact ends_deliver_outlet hsent hcalm

/-- The buffers after several calls. -/
def after (buffers : Fin count → ShardBuffer) (calls : List (Fin count × ShardCall)) :
    Fin count → ShardBuffer :=
  fun index => (buffers index).after (share index calls)

private theorem after_answered {call : ShardCall} {calls : List (Fin count × ShardCall)} :
    after (answered buffers index call) calls = after buffers ((index, call) :: calls) := by
  funext other
  by_cases h : index = other
  · subst h
    simp [after, answered, replace, ShardBuffer.after]
  · simp [after, answered, replace, share_cons_of_ne h, Ne.symm h]

/-- While the outlet throws nothing, the calls make their passages, in turn. -/
theorem ends_play {calls : List (Fin count × ShardCall)}
    (h : (play calls).Ends (fronting outlet buffers) trace result last)
    (hcalm : Session.Calm trace) :
    trace = (Passage.heard (passages buffers calls)).map (fun item => taken outlet item.2) ∧
      result = .ok () ∧ last = fronting outlet (after buffers calls) := by
  induction calls generalizing buffers trace with
  | nil =>
    obtain ⟨rfl, rfl, rfl⟩ := Flow.ends_pure.mp h
    exact ⟨rfl, rfl, rfl⟩
  | cons made rest ih =>
    obtain ⟨index, call⟩ := made
    rw [play, List.forM] at h
    rcases Flow.ends_bind.mp h with
      ⟨thrown, hthrown, rfl⟩ | ⟨⟨⟩, before, later, mid, rfl, hfirst, hrest⟩
    · obtain ⟨-, hnot, -⟩ := ends_make hthrown hcalm
      cases hnot
    · obtain ⟨hbefore, hlater⟩ := Session.calm_append.mp hcalm
      obtain ⟨rfl, -, rfl⟩ := ends_make hfirst hbefore
      obtain ⟨rfl, rfl, rfl⟩ := ih hrest hlater
      refine ⟨?_, rfl, by rw [after_answered]⟩
      simp [passages, Passage.heard, List.map_map, Function.comp_def]

section Passages

variable {calls more : List (Fin count × ShardCall)}

private theorem map_made_passages : (passages buffers calls).map Passage.made = calls := by
  induction calls generalizing buffers with
  | nil => rfl
  | cons made rest ih => rw [passages, List.map_cons, ih, Passage.made]

private theorem passages_append :
    passages buffers (calls ++ more) =
      passages buffers calls ++ passages (after buffers calls) more := by
  induction calls generalizing buffers with
  | nil => rfl
  | cons made rest ih => rw [List.cons_append, passages, ih, passages, after_answered]; rfl

/-- What one call lets through is heard in one piece. -/
theorem heard_passages_split {made rest : List (Fin count × ShardCall)} {call : ShardCall} :
    Passage.heard (passages buffers (made ++ (index, call) :: rest)) =
      Passage.heard (passages buffers made) ++
        ((after buffers made index).answer call).1.map (fun event => (index, event)) ++
        Passage.heard (passages (answered (after buffers made) index call) rest) := by
  rw [passages_append, passages, Passage.heard, List.flatMap_append, List.flatMap_cons,
    List.append_assoc, Passage.heard, Passage.heard]

/-- Of one buffer is heard what it lets through by itself. -/
theorem share_heard_passages :
    share index (Passage.heard (passages buffers calls)) =
      (buffers index).passed (share index calls) := by
  induction calls generalizing buffers with
  | nil => rfl
  | cons made rest ih =>
    obtain ⟨owner, call⟩ := made
    rw [passages, Passage.heard, List.flatMap_cons, share_append, ← Passage.heard, ih]
    by_cases h : owner = index
    · subst h
      rw [share_map_self, share_cons_self]
      simp [answered, replace, ShardBuffer.passed]
    · rw [share_map_of_ne h, share_cons_of_ne h]
      simp [answered, replace, Ne.symm h]

/-- A log passes in answer to its own call. -/
theorem logs_of_mem_passages (htidy : ∀ index, (buffers index).Tidy) :
    ∀ passage ∈ passages buffers calls,
      passage.passed.filter (·.isLog) = passage.call.log?.toList := by
  induction calls generalizing buffers with
  | nil => simp [passages]
  | cons made rest ih =>
    obtain ⟨index, call⟩ := made
    refine List.forall_mem_cons.mpr ⟨(htidy index).logs_answer call, ih ?_⟩
    intro other
    rw [answered, replace]
    split
    · exact (htidy index).tidy_answer call
    · exact htidy other

end Passages

/-- What is heard of one of several buffers that were empty at first: its logs in order, everything
else in order, short of what it holds back, and its blocks each in one piece. -/
structure InOrder (calls : List ShardCall) (buffer : ShardBuffer) (index : Fin count)
    (heard : List (Fin count × Event)) : Prop where
  /-- Something is held back exactly while a run is open. -/
  held_iff : buffer.pending = [] ↔ buffer.openRuns = 0
  openRuns : buffer.openRuns = ShardCall.depth calls
  logs : (share index heard).filter (·.isLog) = calls.filterMap ShardCall.log?
  ordinary : (share index heard).filter (!·.isLog) ++ buffer.pending = ShardCall.ordinary calls
  /-- After a flush nothing is held back. -/
  flushed : calls.getLast? = some .flush →
    (share index heard).filter (!·.isLog) = ShardCall.ordinary calls
  /-- Every run that is opened from outside of any run begins a block, if a flush comes last. -/
  begun : calls.getLast? = some .flush → ∀ earlier opening later,
    calls = earlier ++ opening :: later → ShardCall.depth earlier = 0 →
    (∃ run count, opening = .report (.runStarted run count)) →
    ∃ inner closing rest, later = inner ++ closing :: rest ∧
      ShardCall.Block earlier inner opening closing
  /-- A block is heard in one piece, after everything that was reported before it. -/
  blocks : ∀ earlier inner opening closing later,
    calls = earlier ++ opening :: inner ++ closing :: later →
    ShardCall.Block earlier inner opening closing →
    ∃ before after, heard = before ++
        (ShardCall.ordinary (opening :: inner ++ [closing])).map (fun event => (index, event)) ++
        after ∧
      (share index before).filter (!·.isLog) = ShardCall.ordinary earlier

private theorem inOrder_heard {calls : List (Fin count × ShardCall)} :
    InOrder (share index calls) (after (fun _ => {}) calls index) index
      (Passage.heard (passages (fun _ => {}) calls)) := by
  let buffer : ShardBuffer := ({} : ShardBuffer).after (share index calls)
  have htidy : buffer.Tidy := ShardBuffer.tidy_empty.tidy_after _
  have hruns : buffer.openRuns = ShardCall.depth (share index calls) :=
    ShardBuffer.tidy_empty.openRuns_after _
  have hordinary := ShardBuffer.tidy_empty.ordinary_passed (share index calls)
  have hflushed : (share index calls).getLast? = some .flush →
      ShardCall.depth (share index calls) = 0 := by
    intro hlast
    obtain ⟨made, hmade⟩ := List.getLast?_eq_some_iff.mp hlast
    rw [hmade, ShardCall.depth_concat]
    rfl
  refine
    { held_iff := htidy.held_iff
      openRuns := hruns
      logs := ?_
      ordinary := ?_
      flushed := ?_
      begun := ?_
      blocks := ?_ }
  · rw [share_heard_passages]
    exact ShardBuffer.tidy_empty.logs_passed _
  · rw [share_heard_passages]
    exact hordinary
  · intro hlast
    have hnil : buffer.pending = [] := htidy.held_iff.mpr (hruns.trans (hflushed hlast))
    rw [share_heard_passages]
    rwa [hnil, List.append_nil] at hordinary
  · intro hlast earlier opening later hcalls houtermost hopens
    exact ShardCall.exists_block houtermost hopens (hcalls ▸ hflushed hlast)
  · intro earlier inner opening closing later hcalls hblock
    obtain ⟨made, rest, rfl, hmade⟩ := exists_of_share_eq hcalls
    have hbefore : share index (Passage.heard (passages (fun _ => {}) made)) =
        ({} : ShardBuffer).passed (earlier ++ opening :: inner) := by
      rw [share_heard_passages, hmade]
    have hpassed : ((after (fun _ => {}) made index).answer closing).1 =
        ShardCall.ordinary (opening :: inner ++ [closing]) := by
      rw [after, hmade, hblock.answer_closing]
    refine ⟨_, _, heard_passages_split.trans (by rw [hpassed]), ?_⟩
    rw [hbefore]
    exact hblock.ordinary_passed

/-- Several buffers share an outlet whose listener throws nothing, and their calls are made one at a
time, in any order. Then every call returns, the outlet hears what the passages let through, a log
is let through by its own call and by no other, and each buffer's events are heard in order and in
blocks. -/
theorem heard_in_blocks {calls : List (Fin count × ShardCall)}
    (hplay : (play calls).Ends (fronting outlet fun _ : Fin count => {}) trace result last)
    (hcalm : Session.Calm trace) :
    result = .ok () ∧ ∃ (passages : List (Passage count)) (buffers : Fin count → ShardBuffer),
      passages.map Passage.made = calls ∧ last = fronting outlet buffers ∧
      trace = (Passage.heard passages).map (fun item => taken outlet item.2) ∧
      (∀ passage ∈ passages, passage.passed.filter (·.isLog) = passage.call.log?.toList) ∧
      ∀ index, InOrder (share index calls) (buffers index) index (Passage.heard passages) := by
  obtain ⟨htrace, hresult, hlast⟩ := ends_play hplay hcalm
  exact ⟨hresult, passages (fun _ => {}) calls, after (fun _ => {}) calls, map_made_passages, hlast,
    htrace, logs_of_mem_passages fun _ => ShardBuffer.tidy_empty, fun _ => inOrder_heard⟩

/-- Two buffers take turns; one has a run inside a run, the other ends a run it never began and is
flushed in the middle of another. -/
theorem heard_in_blocks_two_buffers :
    let outer : Event := .runStarted "outer" 1
    let inner : Event := .runStarted "inner" 1
    let ended : Event := .runEnded 0 .empty
    let cut : Event := .runStarted "cut" 1
    let log : Event := .testLog "trace" .text ""
    let calls : List (Fin 2 × ShardCall) :=
      [(0, .report outer), (1, .report ended), (0, .report inner), (1, .report cut),
        (0, .report log), (0, .report ended), (1, .report log), (0, .report ended), (1, .flush),
        (0, .flush)]
    ∃ (trace : List (Session.Exchange (World .silent))) (last : Network),
      (play calls).Ends (fronting 3 fun _ : Fin 2 => {}) trace (.ok ()) last ∧
      Session.Calm trace ∧
      trace = [ended, log, log, outer, inner, ended, ended, cut].map (taken 3) ∧
      ∃ (passages : List (Passage 2)) (buffers : Fin 2 → ShardBuffer),
        passages.map Passage.made = calls ∧ last = fronting 3 buffers ∧
        trace = (Passage.heard passages).map (fun item => taken 3 item.2) ∧
        (∀ passage ∈ passages, passage.passed.filter (·.isLog) = passage.call.log?.toList) ∧
        ∀ index, InOrder (share index calls) (buffers index) index (Passage.heard passages) := by
  intro outer inner ended cut log calls
  let answer := Session.obligingWorld (fun _ _ => false) Interface.silence
  let start := fronting 3 fun _ : Fin 2 => {}
  let course := ((play (E := .silent) calls).run.run start).converse answer
  have hplay : (play calls).Ends start course.1 course.2.1 course.2.2 :=
    Flow.ends_converse answer (play calls)
  have hcalm : Session.Calm course.1 := Session.calm_converse_obligingWorld _ _ _
  obtain ⟨hresult, hheard⟩ := heard_in_blocks hplay hcalm
  have htrace : course.1 = [ended, log, log, outer, inner, ended, ended, cut].map (taken 3) := rfl
  exact ⟨course.1, course.2.2, hresult ▸ hplay, hcalm, htrace, hheard⟩

end Shards

end Fleet
