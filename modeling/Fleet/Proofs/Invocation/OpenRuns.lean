import Fleet.Proofs.Invocation.Play
import Fleet.Proofs.Listener.ShardBuffer
import Fleet.Proofs.Poller.Discreet
import Fleet.Proofs.Poller.OpenRuns

/-!
# No run is left open

The guard of a unit and the buffer of its seat both count open runs, with collectors in between.
They agree after every event, so when the runs of a failed unit are closed, the buffer closes too
and holds nothing back. While a run is open the buffer answers for the listener and throws nothing,
so nothing that is thrown keeps a run from being closed.
-/

namespace Fleet

variable {E : Interface}

/-- Metrics do not matter to how many runs are open. -/
theorem foldl_openRunsAfter_congr {events passed : List Event}
    (h : passed.map Event.bare = events.map Event.bare) (openRuns : Nat) :
    passed.foldl openRunsAfter openRuns = events.foldl openRunsAfter openRuns := by
  induction events generalizing passed openRuns with
  | nil => rw [List.map_eq_nil_iff.mp h]
  | cons event events ih =>
    obtain ⟨first, passed, rfl, hfirst, hrest⟩ := List.map_eq_cons_iff.mp h
    rw [List.foldl_cons, List.foldl_cons, openRunsAfter_congr hfirst, ih hrest]

/-- After the closing events no run is open. -/
theorem foldl_closingEvents (message : String) (openRuns : Nat) :
    (closingEvents message openRuns).foldl openRunsAfter openRuns = 0 := by
  induction openRuns with
  | zero => rfl
  | succ openRuns ih => exact ih

private theorem openRunsOf_append_closingEvents (events : List Event) (message : String) :
    openRunsOf (events ++ closingEvents message (openRunsOf events)) = 0 := by
  rw [openRunsOf, List.foldl_append]
  exact foldl_closingEvents message (openRunsOf events)

/-- The calls that report events. -/
def ShardCall.reports (events : List Event) : List ShardCall :=
  events.map .report

private theorem ShardCall.foldl_reports {events : List Event} {openRuns : Nat} :
    (reports events).foldl ShardCall.openRuns openRuns = events.foldl openRunsAfter openRuns :=
  List.foldl_map

/-- Of reported events, those that are no log entries are ordinary. -/
theorem ShardCall.ordinary_reports {events : List Event} :
    ordinary (reports events) = events.filter (!·.isLog) := by
  induction events with
  | nil => rfl
  | cons event rest ih =>
    rw [reports, List.map_cons, ordinary_cons, ← reports, ih]
    cases hlog : event.isLog <;> simp [ordinary?, hlog]

/-- Of reported events, log entries go past the buffer. -/
theorem ShardCall.logs_reports {events : List Event} :
    (reports events).filterMap log? = events.filter (·.isLog) := by
  induction events with
  | nil => rfl
  | cons event rest ih =>
    rw [reports, List.map_cons, List.filterMap_cons, ← reports, ih]
    cases hlog : event.isLog <;> simp [log?, hlog]

namespace Performance

/-- While a run is open nothing is thrown at the unit, unless it tells of a log. -/
def Patient : Nat → List (Session.Exchange (stage.sum E)) → Prop
  | _, [] => True
  | openRuns, ⟨.inl (.send event), answer⟩ :: rest =>
    (event.isLog = false → openRunsAfter openRuns event ≠ 0 → answer = .ok ()) ∧
      Patient (openRunsAfter openRuns event) rest
  | openRuns, _ :: rest => Patient openRuns rest

/-- All closing events are told: only the last one can be thrown at. -/
theorem told_closingEvents {message : String} {openRuns : Nat}
    {played : List (Session.Exchange (stage.sum E))} {result : Except Thrown Unit}
    (h : (sendAll (closingEvents message openRuns)).Path played result)
    (hpatient : Patient openRuns played) : told played = closingEvents message openRuns := by
  induction openRuns generalizing played with
  | zero =>
    obtain ⟨rfl, -⟩ := Session.path_pure.mp h
    rfl
  | succ openRuns ih =>
    obtain ⟨failed, rest, rfl, hfailed⟩ := Session.path_ask.mp h
    obtain ⟨hreturned, hrest⟩ := hpatient
    obtain rfl : failed = .ok () := hreturned rfl (Nat.succ_ne_zero _)
    obtain ⟨ended, later, rfl, hended⟩ := Session.path_ask.mp hfailed
    obtain ⟨hreturned, hlater⟩ := hrest
    cases ended with
    | ok _ =>
      have htold := ih hended hlater
      exact congrArg (fun events => .runFailed message :: .runEnded 0 .empty :: events) htold
    | error thrown =>
      obtain ⟨rfl, -⟩ := Session.path_pure.mp hended
      -- The end of any run but the last is held back, and what is held back is not thrown at.
      cases openRuns with
      | zero => rfl
      | succ openRuns => cases hreturned rfl (Nat.succ_ne_zero _)

end Performance

namespace Seat

variable {buffer last : ShardBuffer} {inner outer more : List (Session.Exchange (World E))}

/-- Events that no listener throws at are all sent. -/
theorem sent_sendAll {events : List Event} {passing : List (Session.Exchange (World E))}
    {answer : Except Thrown Unit} (h : (sendAll events).Path passing answer)
    (hheeded : Session.Heeded passing) : Session.sent passing = events := by
  induction events generalizing passing with
  | nil =>
    obtain ⟨rfl, -⟩ := Session.path_pure.mp h
    rfl
  | cons event rest ih =>
    obtain ⟨taken, later, rfl, hlater⟩ := Session.path_ask.mp h
    obtain ⟨htaken, hrest⟩ := List.forall_mem_cons.mp hheeded
    obtain rfl : taken = .ok () := htaken
    rw [Session.sent_send, ih hlater hrest]

namespace Buffered

private theorem sent_asked {exchange : Session.Exchange (World E)}
    (h : ∀ id event, exchange.question ≠ .inl (.send id event)) :
    Session.sent (exchange :: inner) = Session.sent inner := by
  obtain ⟨question | errand, answer⟩ := exchange
  · cases question <;> first | rfl | exact absurd rfl (h _ _)
  · rfl

/-- The buffer in the end is the one that has taken all events. -/
theorem last_eq (h : Buffered buffer inner outer last) :
    last = buffer.after (ShardCall.reports (Session.sent inner)) := by
  induction h with
  | done => rfl
  | sent _ _ ih =>
    rw [ih, Session.sent_send]
    rfl
  | asked hunsent _ ih => rw [ih, sent_asked hunsent]

/-- If no listener throws, what the buffer lets through is sent. -/
theorem sent_eq (h : Buffered buffer inner outer last) (hheeded : Session.Heeded outer) :
    Session.sent outer = buffer.passed (ShardCall.reports (Session.sent inner)) := by
  induction h with
  | done => rfl
  | sent hpasses _ ih =>
    obtain ⟨hpassing, hrest⟩ := Session.heeded_append.mp hheeded
    rw [Session.sent_append, sent_sendAll hpasses hpassing, ih hrest, Session.sent_send]
    rfl
  | asked hunsent _ ih =>
    rw [sent_asked hunsent, sent_asked hunsent, ih (List.forall_mem_cons.mp hheeded).2]

/-- What comes after is behind the buffer as it is then. -/
theorem of_append (h : Buffered buffer (inner ++ more) outer last) :
    ∃ before after mid, outer = before ++ after ∧ Buffered buffer inner before mid ∧
      Buffered mid more after last := by
  induction inner generalizing buffer outer with
  | nil => exact ⟨[], outer, buffer, rfl, .done, h⟩
  | cons exchange inner ih =>
    cases h with
    | sent hpasses hrest =>
      obtain ⟨before, after, mid, rfl, hinner, hmore⟩ := ih hrest
      exact ⟨_, after, mid, (List.append_assoc ..).symm, .sent hpasses hinner, hmore⟩
    | asked hunsent hrest =>
      obtain ⟨before, after, mid, rfl, hinner, hmore⟩ := ih hrest
      exact ⟨exchange :: before, after, mid, rfl, .asked hunsent hinner, hmore⟩

/-- A buffer that is not asked to pass anything stays as it is. -/
theorem last_of_quiet (h : Buffered buffer inner outer last) (hquiet : Session.deeds inner = []) :
    last = buffer := by
  rw [h.last_eq, Session.sent_of_deeds_nil hquiet]
  rfl

/-- A buffer that events go through stays tidy. -/
theorem tidy_last (h : Buffered buffer inner outer last) (htidy : buffer.Tidy) : last.Tidy := by
  rw [h.last_eq]
  exact htidy.tidy_after _

private theorem openRuns_last (h : Buffered buffer inner outer last) (htidy : buffer.Tidy) :
    last.openRuns = (Session.sent inner).foldl openRunsAfter buffer.openRuns := by
  rw [h.last_eq, htidy.openRuns_after, ShardCall.foldl_reports]

/-- Behind a buffer a unit is treated with patience, whatever collectors it tells its events
through. -/
theorem patient {outlet : Nat} {line after : Line} {played : List (Session.Exchange (stage.sum E))}
    (hstaged : Poller.Staged outlet line played inner after)
    (h : Buffered buffer inner outer last) (htidy : buffer.Tidy) :
    Performance.Patient buffer.openRuns played := by
  induction hstaged generalizing buffer outer with
  | done => trivial
  | @sent line mid last event passed answer played hooks trace hpass _ ih =>
    obtain ⟨hbare, hquiet⟩ := Line.bare_of_pass hpass
    obtain ⟨before, after, between, rfl, hhooks, hrest⟩ := of_append h
    obtain rfl := hhooks.last_of_quiet hquiet
    cases hrest with
    | asked hunsent _ => exact absurd rfl (hunsent _ _)
    | @sent _ _ _ _ _ _ passing outer hpasses hrest =>
      have hlog : passed.isLog = event.isLog := by
        cases event <;> cases passed <;> first | rfl | cases hbare
      have hruns : (between.receive passed).2.openRuns = openRunsAfter between.openRuns event :=
        (htidy.openRuns_answer (.report passed)).trans (openRunsAfter_congr hbare _)
      refine ⟨fun hordinary hopen => ?_, hruns ▸ ih hrest (htidy.tidy_answer (.report passed))⟩
      have hcall : (ShardCall.report passed).log? = none := by
        rw [ShardCall.log?, hlog, hordinary]
        rfl
      have hstays : (ShardCall.report passed).openRuns between.openRuns ≠ 0 := by
        rwa [ShardCall.openRuns, openRunsAfter_congr hbare]
      have hheld : (between.receive passed).1 = [] :=
        congrArg Prod.fst (htidy.answer_of_open hcall hstays)
      rw [hheld] at hpasses
      exact (Session.path_pure.mp hpasses).2
  | wrapped _ ih =>
    cases h with
    | asked _ hrest => exact ih hrest htidy
  | refused _ ih =>
    cases h with
    | asked _ hrest => exact ih hrest htidy
  | missing _ ih => exact ih h htidy
  | errand _ ih =>
    cases h with
    | asked _ hrest => exact ih hrest htidy

/-- If all runs that are opened are closed again, an idle buffer is idle in the end, and unless a
listener throws, everything has been sent: the logs in order, and everything else in order. -/
theorem idle_of_closed (h : Buffered {} inner outer last)
    (hclosed : openRunsOf (Session.sent inner) = 0) :
    last = {} ∧ (Session.Heeded outer →
      (Session.sent outer).filter (·.isLog) = (Session.sent inner).filter (·.isLog) ∧
      (Session.sent outer).filter (!·.isLog) = (Session.sent inner).filter (!·.isLog)) := by
  have htidy := ShardBuffer.tidy_empty
  have hidle : last = {} :=
    (h.tidy_last htidy).eq_empty ((h.openRuns_last htidy).trans hclosed)
  refine ⟨hidle, fun hheeded => ?_⟩
  rw [h.sent_eq hheeded]
  have hordinary := htidy.ordinary_passed (ShardCall.reports (Session.sent inner))
  rw [← h.last_eq, hidle, ShardCall.ordinary_reports, List.nil_append, List.append_nil] at hordinary
  exact ⟨(htidy.logs_passed _).trans ShardCall.logs_reports, hordinary⟩

end Buffered

end Seat

namespace Poller

variable {outlet guard : Nat} {line after : Line} {conduct : Conduct E} {resources : Resources}
  {unit : TestUnit} {told : List Event} {trace : List (Session.Exchange (World E))}
  {ended : Except Thrown Outcome}

/-- What is sent to the outlet while a unit runs is what it told, but for metrics. -/
theorem Performs.bare_sent
    (h : Performs outlet conduct resources unit guard line told trace ended after) :
    (Session.sent trace).map Event.bare = told.map Event.bare := by
  cases h with
  | ran _ hstaged =>
    rw [Session.sent_append, List.map_append, hstaged.bare_sent]
    split <;> rfl
  | refused => rfl

end Poller

namespace Invocation

variable {conducts : Conducts E} {name : String} {floor floor' : Floor} {seat seat' : Seat}
  {unit : TestUnit} {exit : Nat} {line : Line} {trace : List (Session.Exchange (World E))}

/-- A seat runs a unit, its buffer idle, and the unit's events go down a line of collectors to the
buffer. Whatever the unit tells before it fails goes down the line as it was told, and after it, for
each run left open, one failure with the message of the unit's error and one end. Then the buffer is
idle again, and unless the common listener throws, everything that has come down the line has been
sent to it, the logs in order and everything else in order. -/
theorem no_run_left_open (hphase : seat.poller.phase = .executing unit) (hidle : seat.buffer = {})
    (hleads : seat.poller.network.Leads 0 exit (Poller.target unit seat.poller.entry) line)
    (hwires : ((conducts unit).run (seat.poller.resources.received unit.capabilities)).Wires
      line.collectorPlaces)
    (h : (stepSeat conducts name floor seat).Path trace (floor', seat')) :
    ∃ told performed ended mid inner,
      (Station.step conducts { poller := seat.poller, floor }).Path inner
        { poller := seat'.poller, floor := floor' } ∧
      Seat.Buffered {} inner trace seat'.buffer ∧
      Poller.Performs 0 (conducts unit) seat.poller.resources unit seat.poller.network.length line
        told performed ended mid ∧
      performed <+: inner ∧
      ∀ error, Poller.contain unit seat.poller.resources.device.serial ended = .ok (.error error) →
        (∃ closed closing rest last result,
          (Performance.sendAll (closingEvents error.message (openRunsOf told))).Path closed result ∧
          Performance.told closed = closingEvents error.message (openRunsOf told) ∧
          Poller.Staged 0 mid closed closing last ∧
          inner = performed ++ closing ++ rest ∧ Session.sent rest = []) ∧
        (Session.sent inner).map Event.bare =
          (told ++ closingEvents error.message (openRunsOf told)).map Event.bare ∧
        seat'.buffer = {} ∧
        (Session.Heeded trace →
          (Session.sent trace).filter (·.isLog) = (Session.sent inner).filter (·.isLog) ∧
          (Session.sent trace).filter (!·.isLog) = (Session.sent inner).filter (!·.isLog)) := by
  have hexit : seat.poller.exit? = none := by rw [Poller.exit?, hphase]
  obtain ⟨inner, hinner, hbuffered, -⟩ := path_stepSeat hexit h
  rw [hidle] at hbuffered
  obtain ⟨result, mid, hact, -⟩ := Station.ends_of_step hinner
  rw [hphase] at hact
  obtain ⟨run, rest, ran, network, rfl, hquiet, hexecute, -⟩ := Station.ends_execute_discreet hact
  obtain ⟨passed, last, hexecutes, -⟩ := Poller.executes_of_execute hleads hwires hexecute
  cases hexecutes with
  | settled hperforms hsettles =>
    exact ⟨_, _, _, _, _, hinner, hbuffered, hperforms, List.prefix_append .., fun error h =>
      absurd h (hsettles error)⟩
  | @failed told performed closing asides closed ended error answer between _ hperforms hfails
      hclosed hstaged hasides =>
    refine ⟨_, _, _, _, _, hinner, hbuffered, hperforms,
      ⟨closing ++ asides ++ rest, by simp [List.append_assoc]⟩, fun other hother => ?_⟩
    obtain rfl : error = other := Except.error.inj (Except.ok.inj (hfails.symm.trans hother))
    have hbare := hperforms.bare_sent
    -- At the moment the unit fails, the buffer has counted as many open runs as the guard.
    obtain ⟨_, _, atEnd, rfl, hrun, -⟩ := hbuffered.of_append
    obtain ⟨_, _, atClose, rfl, hclosing, -⟩ := hrun.of_append
    obtain ⟨_, _, atFailure, rfl, hperformed, hclosing⟩ := hclosing.of_append
    have hcount : atFailure.openRuns = openRunsOf told :=
      (hperformed.openRuns_last ShardBuffer.tidy_empty).trans (foldl_openRunsAfter_congr hbare 0)
    have htold : Performance.told closed = closingEvents error.message (openRunsOf told) :=
      Performance.told_closingEvents hclosed
        (hcount ▸ hclosing.patient hstaged (hperformed.tidy_last ShardBuffer.tidy_empty))
    have hsent : (Session.sent (performed ++ closing ++ asides ++ rest)).map Event.bare =
        (told ++ closingEvents error.message (openRunsOf told)).map Event.bare := by
      rw [Session.sent_append, Session.sent_append, Session.sent_append,
        Session.sent_of_deeds_nil hasides, Session.sent_of_deeds_nil hquiet, List.append_nil,
        List.append_nil, List.map_append, hbare, hstaged.bare_sent, htold, List.map_append]
    have hclosed' : openRunsOf (Session.sent (performed ++ closing ++ asides ++ rest)) = 0 :=
      (foldl_openRunsAfter_congr hsent 0).trans (openRunsOf_append_closingEvents told error.message)
    obtain ⟨hlast, hreached⟩ := hbuffered.idle_of_closed hclosed'
    refine ⟨⟨closed, closing, asides ++ rest, _, answer, hclosed, htold, hstaged,
      by simp [List.append_assoc], ?_⟩, hsent, hlast, hreached⟩
    rw [Session.sent_append, Session.sent_of_deeds_nil hasides, Session.sent_of_deeds_nil hquiet]
    rfl

/-- A unit behind a collector ends a run it never began, leaves two runs and a test open, and
fails. -/
theorem no_run_left_open_two_runs :
    let test : TestDescription := ⟨"Suite", "case"⟩
    let told : List Event := [.runEnded 5 .empty, .runStarted "outer" 1, .runStarted "inner" 1,
      .testStarted test, .testLog "trace" .text "data"]
    let error : TaskError :=
      { category := .runtime, code := 7, message := "lost", origin := "unit" }
    let conduct : Conduct .silent :=
      { Conduct.idle with run := fun _ => do
          let _ ← Performance.sendAll told
          return .ok (.error error) }
    let unit : TestUnit := .plain 1 "unit" []
    let resources : Resources := { device := { serial := "device" }, collectors := [7] }
    let poller : Poller :=
      { Poller.ofResources resources with
        phase := .executing unit
        network := [.outlet 0, .collector { id := 7 } (some 0)]
        entry := 1 }
    let line : Line := [(1, .collector { id := 7 })]
    let floor : Floor := { pool := .ofUnits WorkPool.asGiven [] [] none, running := 1 }
    ∃ (trace : List (Session.Exchange (World .silent))) (floor' : Floor) (seat' : Seat),
      poller.network.Leads 0 0 (Poller.target unit poller.entry) line ∧
      (conduct.run (resources.received unit.capabilities)).Wires line.collectorPlaces ∧
      (stepSeat (fun _ => conduct) "invocation" floor { poller }).Path trace (floor', seat') ∧
      Session.Heeded trace ∧ seat'.buffer = {} ∧
      Session.sent trace = [.runEnded 5 .empty, .testLog "trace" .text "data",
        .runStarted "outer" 1, .runStarted "inner" 1, .testStarted test, .runFailed "lost",
        .runEnded 0 .empty, .runFailed "lost", .runEnded 0 .empty] := by
  intro test told error conduct unit resources poller line floor
  let answer := Session.obligingWorld (fun _ _ => false) Interface.silence
  obtain ⟨trace, ⟨floor', seat'⟩, hpath, hheeded, hsent⟩ : ∃ trace last,
      (stepSeat (fun _ => conduct) "invocation" floor { poller }).Path trace last ∧
      Session.Heeded trace ∧
      Session.sent trace = [.runEnded 5 .empty, .testLog "trace" .text "data",
        .runStarted "outer" 1, .runStarted "inner" 1, .testStarted test, .runFailed "lost",
        .runEnded 0 .empty, .runFailed "lost", .runEnded 0 .empty] :=
    ⟨_, _, Session.path_converse answer _, (Session.calm_converse_obligingWorld _ _ _).heeded,
      by decide +kernel⟩
  have hexit : poller.network.Leads 0 0 0 [] := .outlet rfl
  have hleads : poller.network.Leads 0 0 (Poller.target unit poller.entry) line :=
    .link rfl hexit
  have hwires :
      (conduct.run (resources.received unit.capabilities)).Wires line.collectorPlaces := by
    refine Performance.Plain.wires (Performance.plain_sendAll.bind fun sent => ?_) _
    trivial
  obtain ⟨_, _, ended, _, _, -, -, hperforms, -, hfailed⟩ :=
    no_run_left_open rfl rfl hleads hwires hpath
  have hended : ended = .ok (.error error) := by
    cases hperforms with
    | ran hrun _ =>
      obtain ⟨_, _, _, -, -, hdone⟩ := Session.path_seq.mp hrun
      exact (Session.path_pure.mp hdone).2
    | refused hwiring => cases hwiring
  obtain ⟨-, -, hidle, -⟩ := hfailed error (by rw [hended]; rfl)
  exact ⟨trace, floor', seat', hleads, hwires, hpath, hheeded, hidle, hsent⟩

end Invocation

end Fleet
