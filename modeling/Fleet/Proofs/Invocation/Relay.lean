import Fleet.Invocation
import Fleet.Proofs.Crew.Progress
import Fleet.Proofs.Heeding

/-!
# Pollers behind buffers

In an invocation a poller talks to the outside through a buffer, and its seat is closed after it has
left. Neither makes a difference to the units: a step in an invocation is a step of a poller in a
conversation in which the same units show.
-/

namespace Fleet

variable {E : Interface}

/-- The same units show in two conversations, and if one is calm, so is the other. Whatever is not
about events is the same. -/
structure Session.Alike (trace inner : List (Session.Exchange (World E))) : Prop where
  calm : Session.Calm trace → Session.Calm inner
  errands : Session.errands inner = Session.errands trace
  complaints : Session.complaints inner = Session.complaints trace
  asked : ∀ exchange ∈ inner, (∀ id event, exchange.question ≠ .inl (.send id event)) →
    exchange ∈ trace

namespace Session.Alike

variable {trace inner more innerMore : List (Session.Exchange (World E))}

/-- A conversation is like itself. -/
theorem refl (trace : List (Session.Exchange (World E))) : Alike trace trace :=
  ⟨id, rfl, rfl, fun _ hexchange _ => hexchange⟩

/-- Conversations that are alike in parts are alike. -/
theorem append (h : Alike trace inner) (hmore : Alike more innerMore) :
    Alike (trace ++ more) (inner ++ innerMore) where
  calm hcalm := by
    obtain ⟨hfirst, hlater⟩ := calm_append.mp hcalm
    exact calm_append.mpr ⟨h.calm hfirst, hmore.calm hlater⟩
  errands := by rw [errands_append, errands_append, h.errands, hmore.errands]
  complaints := by rw [complaints_append, complaints_append, h.complaints, hmore.complaints]
  asked exchange hexchange hunsent := by
    rcases List.mem_append.mp hexchange with hfirst | hlater
    · exact List.mem_append_left _ (h.asked exchange hfirst hunsent)
    · exact List.mem_append_right _ (hmore.asked exchange hlater hunsent)

/-- Nothing is as good as a conversation in which no unit shows. -/
theorem of_uneventful (h : Uneventful trace) : Alike trace [] :=
  ⟨fun _ => calm_nil, h.errands.symm, h.complaints.symm,
    fun _ hexchange => absurd hexchange List.not_mem_nil⟩

end Session.Alike

/-- The error a poller's run came to, if it failed; a standard exception counts as an internal
error. -/
def Exit.shardError? (exit : Exit) : Option TaskError :=
  match exit with
  | .ok (.ok ()) | .error .other => none
  | .ok (.error error) => some error
  | .error (.standard what) => some (.internal ("Poller crashed: " ++ what))

namespace Seat

variable {trace : List (Session.Exchange (World E))}

/-- Events reach the listener without any unit showing; if they throw, the listener has thrown. -/
theorem uneventful_sendAll {events : List Event} {result : Except Thrown Unit}
    (h : (sendAll events).Path trace result) :
    Session.Uneventful trace ∧ (Session.Heeded trace → result = .ok ()) := by
  induction events generalizing trace with
  | nil =>
    obtain ⟨rfl, rfl⟩ := Session.path_pure.mp h
    exact ⟨Session.uneventful_nil, fun _ => rfl⟩
  | cons event rest ih =>
    obtain ⟨sent, before, after, rfl, hsent, hrest⟩ := Session.path_seq.mp h
    obtain rfl := Flow.path_request.mp hsent
    have hroutine : World.Routine (.inl (.send 0 event) : (World E).Question) := trivial
    have hbefore := Session.uneventful_request (E := E) hroutine sent
    cases sent with
    | ok _ =>
      obtain ⟨hafter, hreturns⟩ := ih hrest
      exact ⟨hbefore.append hafter, fun hheeded =>
        hreturns (Session.heeded_append.mp hheeded).2⟩
    | error thrown =>
      obtain ⟨rfl, rfl⟩ := Session.path_pure.mp hrest
      refine ⟨hbefore.append Session.uneventful_nil, ?_⟩
      intro hheeded
      exact hheeded _ List.mem_cons_self

/-- What becomes of a conversation behind a buffer. What an event lets through is sent to the
listener, and what the listener answers is heard; all other questions pass. -/
inductive Buffered : ShardBuffer → List (Session.Exchange (World E)) →
    List (Session.Exchange (World E)) → ShardBuffer → Prop where
  | done {buffer : ShardBuffer} : Buffered buffer [] [] buffer
  | sent {buffer last : ShardBuffer} {id : Nat} {event : Event} {answer : Except Thrown Unit}
      {inner passing outer : List (Session.Exchange (World E))}
      (passes : (sendAll (buffer.receive event).1).Path passing answer)
      (rest : Buffered (buffer.receive event).2 inner outer last) :
      Buffered buffer (⟨.inl (.send id event), answer⟩ :: inner) (passing ++ outer) last
  | asked {buffer last : ShardBuffer} {exchange : Session.Exchange (World E)}
      {inner outer : List (Session.Exchange (World E))}
      (unsent : ∀ id event, exchange.question ≠ .inl (.send id event))
      (rest : Buffered buffer inner outer last) :
      Buffered buffer (exchange :: inner) (exchange :: outer) last

/-- Whether an event is held back or passes, no unit shows, and the poller is told nothing worse
than what the listener throws. -/
theorem Buffered.alike {buffer last : ShardBuffer} {inner : List (Session.Exchange (World E))}
    (h : Buffered buffer inner trace last) : Session.Alike trace inner := by
  induction h with
  | done => exact .refl []
  | @sent buffer last id event answer inner passing outer hpasses _ ih =>
    obtain ⟨huneventful, hreturns⟩ := uneventful_sendAll hpasses
    have hroutine : World.Routine (.inl (.send id event) : (World E).Question) := trivial
    have hasked := Session.uneventful_request (E := E) hroutine answer
    have hpassing : Session.Alike passing [⟨.inl (.send id event), answer⟩] :=
      { calm := fun hcalm => Session.calm_cons.mpr ⟨hreturns hcalm.heeded, Session.calm_nil⟩
        errands := by rw [hasked.errands, huneventful.errands]
        complaints := by rw [hasked.complaints, huneventful.complaints]
        asked := fun _ hexchange hunsent =>
          absurd rfl (List.mem_singleton.mp hexchange ▸ hunsent id event) }
    exact hpassing.append ih
  | @asked _ _ exchange _ _ _ _ ih => exact (Session.Alike.refl [exchange]).append ih

/-- What passes the buffer is a conversation of the session itself. -/
theorem path_relay {α : Type} {session : Work E α} {result : α} {buffer last : ShardBuffer}
    (h : ((relay session).run buffer).Path trace (result, last)) :
    ∃ inner, session.Path inner result ∧ Buffered buffer inner trace last := by
  induction session generalizing buffer trace with
  | done a =>
    obtain ⟨rfl, hdone⟩ := Session.path_pure.mp h
    obtain ⟨rfl, rfl⟩ := Prod.mk.inj hdone
    exact ⟨[], .done _, .done⟩
  | ask question next ih =>
    obtain ⟨⟨answer, mid⟩, before, after, rfl, hasked, hrest⟩ := Session.path_seq.mp h
    obtain ⟨inner, hinner, hbuffered⟩ := ih answer hrest
    refine ⟨⟨question, answer⟩ :: inner, .ask hinner, ?_⟩
    have hpassed : (∀ id event, question ≠ .inl (.send id event)) →
        (Session.ask question fun answer => .done (answer, buffer)).Path before (answer, mid) →
        Buffered buffer (⟨question, answer⟩ :: inner) (before ++ after) last := by
      intro hunsent hpass
      obtain ⟨_, _, rfl, hdone⟩ := Session.path_ask.mp hpass
      obtain ⟨rfl, hanswer⟩ := Session.path_done.mp hdone
      obtain ⟨rfl, rfl⟩ := Prod.mk.inj hanswer
      exact .asked hunsent hbuffered
    rcases question with question | errand
    · cases question with
      | send id event =>
        obtain ⟨sent, passing, _, rfl, hsent, hdone⟩ := Session.path_seq.mp hasked
        obtain ⟨rfl, hanswer⟩ := Session.path_pure.mp hdone
        obtain ⟨rfl, rfl⟩ := Prod.mk.inj hanswer
        rw [List.append_nil]
        exact .sent hsent hbuffered
      | _ => exact hpassed (fun _ _ => nofun) hasked
    · exact hpassed (fun _ _ => nofun) hasked

/-- To note how a poller's run ended is quiet. -/
theorem quiet_errorOf {name : String} {exit : Exit} :
    Session.Asks World.Quiet (errorOf name exit : Work E (Option TaskError)) := by
  unfold errorOf
  split
  · exact .pure _
  · exact .pure _
  · exact .pure _
  · exact .bind (.logLine (World.quiet_log (E := E) (by decide))) fun _ => .pure _

private theorem shardError?_of_errorOf {name : String} {exit : Exit} {error : Option TaskError}
    (h : (errorOf name exit : Work E (Option TaskError)).Path trace error) :
    error = exit.shardError? := by
  unfold errorOf at h
  split at h
  · exact (Session.path_pure.mp h).2
  · exact (Session.path_pure.mp h).2
  · exact (Session.path_pure.mp h).2
  · obtain ⟨_, _, _, rfl, -, hdone⟩ := Session.path_seq.mp h
    exact (Session.path_pure.mp hdone).2

/-- Closing a seat notes how its poller's run ended and lets through what its buffer holds back.
Nothing escapes from it but what the listener throws and what is no standard exception. -/
theorem path_close {name : String} {exit : Exit} {seat last : Seat}
    (h : (seat.close name exit).Path trace last) :
    ∃ logged passing flushed escaped, trace = logged ++ passing ∧
      (errorOf name exit : Work E (Option TaskError)).Path logged exit.shardError? ∧
      (sendAll seat.buffer.flush.1).Path passing flushed ∧
      last = { seat with
        error := exit.shardError?, buffer := seat.buffer.flush.2, escaped, closed := true } ∧
      (exit ≠ .error .other → flushed = .ok () → escaped = none) := by
  obtain ⟨error, logged, _, rfl, hlogged, hrest⟩ := Session.path_seq.mp h
  obtain ⟨flushed, passing, _, rfl, hpassing, hdone⟩ := Session.path_seq.mp hrest
  obtain ⟨rfl, rfl⟩ := Session.path_pure.mp hdone
  obtain rfl := shardError?_of_errorOf hlogged
  refine ⟨logged, passing, flushed, _, by rw [List.append_nil], hlogged, hpassing, rfl, ?_⟩
  rintro hexit rfl
  split
  · exact absurd rfl hexit
  · rename_i hthrown
    cases hthrown
  · rfl

/-- No unit shows while a seat is closed. -/
theorem uneventful_close {name : String} {exit : Exit} {seat last : Seat}
    (h : (seat.close name exit).Path trace last) : Session.Uneventful trace := by
  obtain ⟨_, _, _, _, rfl, hlogged, hpassing, -⟩ := path_close h
  exact (quiet_errorOf.routine.uneventful hlogged).append (uneventful_sendAll hpassing).1

/-- What a seat makes of what its poller says in a step. As long as the poller runs, it passes that
through its buffer. When the poller has left, it is closed, and nothing is said any more. -/
inductive Tends (seat : Seat) : List (Session.Exchange (World E)) →
    List (Session.Exchange (World E)) → Seat → Prop where
  | relayed {inner outer : List (Session.Exchange (World E))} {last : Seat}
      (running : seat.poller.exit? = none)
      (buffered : Buffered seat.buffer inner outer last.buffer)
      (kept : last = { seat with poller := last.poller, buffer := last.buffer }) :
      Tends seat inner outer last
  | closed {name : String} {exit : Exit} {outer : List (Session.Exchange (World E))} {last : Seat}
      (left : seat.poller.exit? = some exit) (closes : (seat.close name exit).Path outer last) :
      Tends seat [] outer last
  | rested : Tends seat [] [] seat

/-- What a seat makes of what its poller says shows the same units. -/
theorem Tends.alike {seat last : Seat} {inner : List (Session.Exchange (World E))}
    (h : seat.Tends inner trace last) : Session.Alike trace inner := by
  cases h with
  | relayed _ buffered _ => exact buffered.alike
  | closed _ closes => exact .of_uneventful (uneventful_close closes)
  | rested => exact .refl []

end Seat

end Fleet
