import Fleet.Proofs.Calm
import Fleet.Proofs.Listener.Line

/-!
# Chains of collectors

Collectors are put around a listener one after the other, each around the one before, and the last
one is reported to. Each of them is asked about an event before it passes the event on to the one it
was put around, and nothing of an event changes on the way but the metrics of an ending run or test.
Which metrics a run ends with depends on what the collectors measured when it started; that is read
off the conversation so far, not off the collectors.
-/

namespace Fleet

variable {E : Interface}

/-- Whether a collector is asked about an event. -/
def Event.isMetered : Event → Bool
  | .runStarted .. | .testStarted _ | .testEnded .. | .runEnded .. => true
  | .testFailed .. | .testIgnored _ | .runFailed _ | .testLog .. | .logSaved .. => false

/-- A collector takes an event: what it is asked and answers, and the event it passes on. `measured`
is what it measured at the start of the run, which gives way to what the run ends with. -/
inductive Collector.Meters (id : Nat) (context : Option Context) (measured : Metrics) :
    Event → List (Session.Exchange (World E)) → Event → Prop where
  | runStarted {run : String} {count : Int} {answer : Metrics} :
      Meters id context measured (.runStarted run count)
        [⟨.inl (.collectorRunStart id context), answer⟩] (.runStarted run count)
  | testStarted {test : TestDescription} :
      Meters id context measured (.testStarted test)
        [⟨.inl (.collectorTestStart id test), ()⟩] (.testStarted test)
  | testEnded {test : TestDescription} {metrics answer : Metrics} :
      Meters id context measured (.testEnded test metrics)
        [⟨.inl (.collectorTestEnd id test metrics), answer⟩] (.testEnded test answer)
  | runEnded {elapsedMs : Int} {metrics joined answer : Metrics}
      (hjoined : ∀ key, joined.get? key = (metrics.get? key).or (measured.get? key)) :
      Meters id context measured (.runEnded elapsedMs metrics)
        [⟨.inl (.collectorRunEnd id joined), answer⟩] (.runEnded elapsedMs answer)
  | unmetered {event : Event} (h : event.isMetered = false) :
      Meters id context measured event [] event

/-- An event goes through collectors, the outermost one first. `measured` says what each of them
measured at the start of the run. -/
inductive Collector.Through (context : Option Context) (measured : Nat → Metrics) :
    List Nat → Event → List (Session.Exchange (World E)) → Event → Prop where
  | out {event : Event} : Through context measured [] event [] event
  | inward {id : Nat} {inner : List Nat} {event taken passed : Event}
      {asked hooks : List (Session.Exchange (World E))}
      (meters : Meters id context (measured id) event asked taken)
      (rest : Through context measured inner taken hooks passed) :
      Through context measured (id :: inner) event (asked ++ hooks) passed

namespace Session

variable {before after said hooks : List (Exchange (World E))} {kept : Metrics} {id : Nat}

/-- What a collector has measured at the start of a run, after one more exchange. -/
def measuredNext (id : Nat) (kept : Metrics) : Exchange (World E) → Metrics
  | ⟨.inl (.collectorRunStart other _), answer⟩ => if other = id then answer else kept
  | _ => kept

/-- What a collector measured at the start of the latest run in a conversation, or what it had
measured before if it was not asked. -/
def measured (id : Nat) (kept : Metrics) (said : List (Exchange (World E))) : Metrics :=
  said.foldl (measuredNext id) kept

private theorem measured_append :
    measured id kept (before ++ after) = measured id (measured id kept before) after :=
  List.foldl_append

end Session

namespace Collector

variable {context : Option Context} {atStart : Nat → Metrics} {kept : Metrics} {id other : Nat}
  {ids : List Nat} {event passed : Event} {hooks : List (Session.Exchange (World E))}

/-- What a collector is asked is what it has to be asked, and it keeps what it measures at the start
of a run. -/
theorem meters_of_receive {collector next : Collector}
    (h : (collector.receive event).Path hooks (passed, next)) :
    Meters collector.id collector.context collector.runMetrics event hooks passed ∧
      next = { collector with
        runMetrics := Session.measured collector.id collector.runMetrics hooks } := by
  cases event with
  | runStarted run count =>
    obtain ⟨answer, rest, rfl, hdone⟩ := Session.path_request_bind.mp h
    obtain ⟨rfl, hsame⟩ := Session.path_pure.mp hdone
    obtain ⟨rfl, rfl⟩ := Prod.mk.inj hsame
    exact ⟨.runStarted, by simp [Session.measured, Session.measuredNext]⟩
  | testStarted test =>
    obtain ⟨answer, rest, rfl, hdone⟩ := Session.path_request_bind.mp h
    obtain ⟨rfl, hsame⟩ := Session.path_pure.mp hdone
    obtain ⟨rfl, rfl⟩ := Prod.mk.inj hsame
    exact ⟨.testStarted, rfl⟩
  | testEnded test metrics =>
    obtain ⟨answer, rest, rfl, hdone⟩ := Session.path_request_bind.mp h
    obtain ⟨rfl, hsame⟩ := Session.path_pure.mp hdone
    obtain ⟨rfl, rfl⟩ := Prod.mk.inj hsame
    exact ⟨.testEnded, rfl⟩
  | runEnded elapsedMs metrics =>
    obtain ⟨answer, rest, rfl, hdone⟩ := Session.path_request_bind.mp h
    obtain ⟨rfl, hsame⟩ := Session.path_pure.mp hdone
    obtain ⟨rfl, rfl⟩ := Prod.mk.inj hsame
    exact ⟨.runEnded fun key => Dict.get?_union .., rfl⟩
  | _ =>
    obtain ⟨rfl, hsame⟩ := Session.path_pure.mp h
    obtain ⟨rfl, rfl⟩ := Prod.mk.inj hsame
    exact ⟨.unmetered rfl, rfl⟩

/-- A collector is asked for its own measurements only. -/
theorem Meters.measured_of_ne (h : Meters other context kept event hooks passed) (hne : other ≠ id)
    (before : Metrics) : Session.measured id before hooks = before := by
  cases h with
  | runStarted => exact if_neg hne
  | _ => rfl

private theorem Through.measured_of_notMem (h : Through context atStart ids event hooks passed)
    (hid : id ∉ ids) (before : Metrics) : Session.measured id before hooks = before := by
  induction h generalizing before with
  | out => rfl
  | inward meters _ ih =>
    rw [List.mem_cons, not_or] at hid
    rw [Session.measured_append, meters.measured_of_ne (Ne.symm hid.1), ih hid.2]

private theorem Meters.bare (h : Meters id context kept event hooks passed) :
    passed.bare = event.bare ∧ Session.deeds hooks = [] := by
  cases h <;> exact ⟨rfl, rfl⟩

/-- Nothing but metrics changes on the way through collectors. -/
theorem Through.bare (h : Through context atStart ids event hooks passed) :
    passed.bare = event.bare ∧ Session.deeds hooks = [] := by
  induction h with
  | out => exact ⟨rfl, rfl⟩
  | inward meters _ ih =>
    obtain ⟨htaken, hasked⟩ := meters.bare
    exact ⟨ih.1.trans htaken, by rw [Session.deeds_append, hasked, ih.2, List.append_nil]⟩

end Collector

/-- Collectors as the links of a line, each at its place. -/
def Line.ofCollectors (collectors : List (Nat × Collector)) : Line :=
  collectors.map fun (place, collector) => (place, .collector collector)

/-- The collectors with the context they are started with. -/
def Collector.startAll (context : Option Context) (collectors : List (Nat × Collector)) :
    List (Nat × Collector) :=
  collectors.map fun (place, collector) => (place, { collector with context })

/-- The places of collectors, and who they are. -/
def Collector.roll (collectors : List (Nat × Collector)) : List (Nat × Nat) :=
  collectors.map fun (place, collector) => (place, collector.id)

/-- The collectors have been started with the context, and each has measured what it says. -/
def Collector.Started (context : Option Context) (measured : Nat → Metrics)
    (collectors : List (Nat × Collector)) : Prop :=
  ∀ entry ∈ collectors, entry.2.context = context ∧ entry.2.runMetrics = measured entry.2.id

/-- A collector in a line takes an event as it does anywhere. -/
theorem Link.path_receive_collector {collector : Collector} {event passed : Event} {kept : Link}
    {hooks : List (Session.Exchange (World E))}
    (h : ((Link.collector collector).receive event).Path hooks (passed, kept)) :
    ∃ next, kept = .collector next ∧ (collector.receive event).Path hooks (passed, next) := by
  obtain ⟨⟨taken, next⟩, before, after, rfl, hreceive, hdone⟩ := Session.path_seq.mp h
  obtain ⟨rfl, hsame⟩ := Session.path_pure.mp hdone
  obtain ⟨rfl, rfl⟩ := Prod.mk.inj hsame
  exact ⟨next, rfl, by rwa [List.append_nil]⟩

private theorem Collector.ids_of_roll {kept collectors : List (Nat × Collector)}
    (h : roll kept = roll collectors) : kept.map (·.2.id) = collectors.map (·.2.id) := by
  simpa [roll, Function.comp_def] using congrArg (List.map Prod.snd) h

namespace Line

open Collector

variable {context : Option Context} {atStart : Nat → Metrics} {event passed : Event}
  {hooks : List (Session.Exchange (World E))} {collectors : List (Nat × Collector)} {after : Line}

/-- An event that passes a line of collectors goes through them, and each of them keeps what it has
measured. -/
theorem through_of_pass (hstarted : Started context atStart collectors)
    (hids : (collectors.map (·.2.id)).Nodup)
    (h : ((ofCollectors collectors).pass event).Path hooks (passed, after)) :
    Through context atStart (collectors.map (·.2.id)) event hooks passed ∧
      ∃ kept, after = ofCollectors kept ∧ roll kept = roll collectors ∧
        Started context (fun id => Session.measured id (atStart id) hooks) kept := by
  induction collectors generalizing event hooks after with
  | nil =>
    obtain ⟨rfl, hdone⟩ := Session.path_pure.mp h
    obtain ⟨rfl, rfl⟩ := Prod.mk.inj hdone
    exact ⟨.out, [], rfl, rfl, nofun⟩
  | cons entry collectors ih =>
    obtain ⟨place, collector⟩ := entry
    obtain ⟨⟨hcontext, hmeasured⟩, hlater⟩ := List.forall_mem_cons.mp hstarted
    obtain ⟨hfresh, hnodup⟩ := List.nodup_cons.mp hids
    obtain ⟨taken, link, rest, asked, hooks, rfl, hreceive, hpass, rfl⟩ := path_pass_cons.mp h
    obtain ⟨next, rfl, htaken⟩ := Link.path_receive_collector hreceive
    obtain ⟨hmeters, rfl⟩ := meters_of_receive htaken
    obtain ⟨hthrough, kept, rfl, hroll, hkept⟩ := ih hlater hnodup hpass
    dsimp only at hcontext hmeasured hfresh
    rw [hcontext, hmeasured] at hmeters
    let next : Collector := { collector with
      runMetrics := Session.measured collector.id collector.runMetrics asked }
    refine ⟨.inward hmeters hthrough, (place, next) :: kept, rfl,
      congrArg (List.cons (place, collector.id)) hroll,
      List.forall_mem_cons.mpr ⟨⟨hcontext, ?_⟩, fun other hother => ?_⟩⟩
    · -- The collectors further in are others.
      change Session.measured collector.id collector.runMetrics asked =
        Session.measured collector.id (atStart collector.id) (asked ++ hooks)
      rw [Session.measured_append, hthrough.measured_of_notMem hfresh, hmeasured]
    · obtain ⟨hcontext, hmeasured⟩ := hkept other hother
      refine ⟨hcontext, hmeasured.trans ?_⟩
      have hmem : other.2.id ∈ collectors.map (·.2.id) := by
        rw [← ids_of_roll hroll]
        exact List.mem_map_of_mem hother
      have hne : collector.id ≠ other.2.id := fun hsame => hfresh (hsame ▸ hmem)
      change Session.measured other.2.id (atStart other.2.id) hooks =
        Session.measured other.2.id (atStart other.2.id) (asked ++ hooks)
      rw [Session.measured_append, hmeters.measured_of_ne hne]

end Line

/-- The answers of a world whose collectors sign the runs and tests they measure. -/
def Collector.signing : (question : (World .silent).Question) → (World .silent).Answer question
  | .inl (.collectorRunStart id _) => Dict.empty.insert "run" (toString id)
  | .inl (.collectorTestEnd id _ metrics) => metrics.insert "test" (toString id)
  | question => Session.obligingWorld (fun _ _ => false) Interface.silence question

namespace Network

variable {first last : Network} {outlet exit head outermost : Nat} {context : Option Context}
  {line : Line} {collectors : List (Nat × Collector)} {events : List Event}
  {trace : List (Session.Exchange (World E))} {result : Except Thrown Unit}

/-- The collectors stand at their places, in front of whatever listener. -/
def Seats (network : Network) (collectors : List (Nat × Collector)) : Prop :=
  ∀ entry ∈ collectors, ∃ behind, network[entry.1]? = some (.collector entry.2 behind)

/-- Start collectors around a listener one after the other, each around the one before. The last one
is the outermost listener. -/
def wrapAll (context : Option Context) : List Nat → Nat → Flow E Network Nat
  | [], listener => return listener
  | place :: places, listener => do
    wrap place context listener
    wrapAll context places place

/-- A collector that is started around the head of a line becomes its head. -/
theorem leads_of_wrap {place : Nat} {collector : Collector} {behind : Option Nat}
    (hplace : first[place]? = some (.collector collector behind)) (hnew : place ∉ line.places)
    (hleads : first.Leads outlet exit head line)
    (h : (wrap place context head).Ends first trace (.ok ()) last) :
    last = first.set place (.collector { collector with context } head) ∧
      last.Leads outlet exit place ((place, .collector { collector with context }) :: line) := by
  obtain ⟨-, ⟨-, rfl⟩ | ⟨_, hnot, -⟩⟩ := ends_wrap hplace h
  · refine ⟨rfl, .link ?_ (hleads.set hnew hplace nofun)⟩
    exact List.getElem?_set_self (List.getElem?_eq_some_iff.mp hplace).1
  · cases hnot

private theorem leads_of_wrapAll (hseats : first.Seats collectors)
    (hplaces : (collectors.map Prod.fst).Nodup)
    (hnew : ∀ entry ∈ collectors, entry.1 ∉ line.places)
    (hleads : first.Leads outlet exit head line)
    (h : (wrapAll context (collectors.map Prod.fst) head).Ends first trace (.ok outermost) last) :
    last.Leads outlet exit outermost
      (Line.ofCollectors (Collector.startAll context collectors).reverse ++ line) := by
  induction collectors generalizing first head line trace with
  | nil =>
    obtain ⟨-, hhead, rfl⟩ := Flow.ends_pure.mp h
    obtain rfl := Except.ok.inj hhead
    exact hleads
  | cons entry rest ih =>
    obtain ⟨place, collector⟩ := entry
    obtain ⟨⟨behind, hplace⟩, hseats⟩ := List.forall_mem_cons.mp hseats
    obtain ⟨hfresh, hplaces⟩ := List.nodup_cons.mp hplaces
    obtain ⟨hnew, hlater⟩ := List.forall_mem_cons.mp hnew
    rcases Flow.ends_bind.mp h with ⟨_, -, hnot⟩ | ⟨⟨⟩, _, _, mid, -, hwrap, hrest⟩
    · cases hnot
    obtain ⟨rfl, hmid⟩ := leads_of_wrap hplace hnew hleads hwrap
    have hkept : ∀ other ∈ rest, other.1 ≠ place := fun other hother hsame =>
      hfresh (List.mem_map.mpr ⟨other, hother, hsame⟩)
    have hseated : Seats (first.set place (.collector { collector with context } head)) rest :=
      fun other hother => by
        obtain ⟨behind, hother'⟩ := hseats other hother
        exact ⟨behind, (List.getElem?_set_ne (hkept other hother).symm).trans hother'⟩
    have hapart : ∀ other ∈ rest,
        other.1 ∉ Line.places ((place, .collector { collector with context }) :: line) :=
      fun other hother hmem =>
        (List.mem_cons.mp hmem).elim (hkept other hother) (hlater other hother)
    have hlast := ih hseated hplaces hapart hmid hrest
    simpa [Collector.startAll, Line.ofCollectors] using hlast

/-- Report events to a listener one after the other, whatever it throws. -/
def reportAll (listener : Nat) (events : List Event) : Flow E Network Unit :=
  events.forM fun event => do
    let _ ← Flow.attempt (send listener event)

/-- Events are reported one after the other through collectors to an outlet; each has been through
all collectors before it is sent. Whatever the outlet answers, the next event comes. -/
inductive Reported (context : Option Context) (outlet : Nat) (ids : List Nat) :
    List (Session.Exchange (World E)) → List Event → List (Session.Exchange (World E)) → Prop where
  | nil {said : List (Session.Exchange (World E))} : Reported context outlet ids said [] []
  | cons {said hooks later : List (Session.Exchange (World E))} {event passed : Event}
      {events : List Event} {answer : Except Thrown Unit}
      (through : Collector.Through context (fun id => Session.measured id .empty said) ids event
        hooks passed)
      (rest : Reported context outlet ids
        (said ++ (hooks ++ [⟨.inl (.send outlet passed), answer⟩])) events later) :
      Reported context outlet ids said (event :: events)
        (hooks ++ ⟨.inl (.send outlet passed), answer⟩ :: later)

private theorem reported_of_reportAll {said : List (Session.Exchange (World E))}
    (hleads : first.Leads outlet exit head (Line.ofCollectors collectors))
    (hids : (collectors.map (·.2.id)).Nodup)
    (hstarted : Collector.Started context (fun id => Session.measured id .empty said) collectors)
    (h : (reportAll head events).Ends first trace result last) :
    result = .ok () ∧ Reported context outlet (collectors.map (·.2.id)) said events trace := by
  induction events generalizing first collectors said trace with
  | nil =>
    obtain ⟨rfl, rfl, -⟩ := Flow.ends_pure.mp h
    exact ⟨rfl, .nil⟩
  | cons event events ih =>
    rw [reportAll, List.forM, bind_assoc] at h
    obtain ⟨answer, before, later, mid, rfl, hsend, hrest⟩ := Flow.ends_attempt_bind.mp h
    rw [pure_bind] at hrest
    obtain ⟨hooks, passed, after, hpass, rfl, hmid, -⟩ := ends_send_of_leads hleads hsend
    obtain ⟨hthrough, kept, rfl, hroll, hkept⟩ := Line.through_of_pass hstarted hids hpass
    have hsame := Collector.ids_of_roll hroll
    let sent : Session.Exchange (World E) := ⟨.inl (.send outlet passed), answer⟩
    have hnext : Collector.Started context
        (fun id => Session.measured id .empty (said ++ (hooks ++ [sent]))) kept := by
      intro entry hentry
      obtain ⟨hcontext, hmeasured⟩ := hkept entry hentry
      refine ⟨hcontext, hmeasured.trans ?_⟩
      simp only [Session.measured_append]
      rfl
    obtain ⟨hresult, hreported⟩ := ih hmid (hsame ▸ hids) hnext hrest
    refine ⟨hresult, ?_⟩
    rw [List.append_assoc]
    exact .cons hthrough (hsame ▸ hreported)

/-- What is sent to the outlet is what was reported, in order, but for metrics. -/
theorem Reported.bare_sent {ids : List Nat} {said : List (Session.Exchange (World E))}
    (h : Reported context outlet ids said events trace) :
    (Session.sent trace).map Event.bare = events.map Event.bare := by
  induction h with
  | nil => rfl
  | cons through _ ih =>
    obtain ⟨hbare, hhooks⟩ := through.bare
    rw [Session.sent_append, Session.sent_of_deeds_nil hhooks, List.nil_append, Session.sent_send,
      List.map_cons, List.map_cons, hbare, ih]

/-- Distinct collectors that have measured nothing yet are started around a listener of the outside
world, each around the one before, and events are reported to the outermost one. Each event goes
through all collectors, the one started last first, and is then sent; each collector is asked about
it once if it has to be asked at all, and a run ends with what it was reported with, over what the
collector measured when the latest run started, as the collector changes it. What is sent is what
was reported, in order, but for metrics. -/
theorem reported_through_collectors (hexit : first[exit]? = some (.outlet outlet))
    (hseats : first.Seats collectors) (hfresh : ∀ entry ∈ collectors, entry.2.runMetrics = .empty)
    (hplaces : (collectors.map Prod.fst).Nodup) (hids : (collectors.map (·.2.id)).Nodup)
    {wiring : List (Session.Exchange (World E))} {chained : Network}
    (hwrap : (wrapAll context (collectors.map Prod.fst) exit).Ends first wiring (.ok outermost)
      chained)
    (hreport : (reportAll outermost events).Ends chained trace result last) :
    result = .ok () ∧
      Reported context outlet (collectors.map (·.2.id)).reverse [] events trace ∧
      (Session.sent trace).map Event.bare = events.map Event.bare := by
  have hleads := leads_of_wrapAll hseats hplaces (fun _ _ => List.not_mem_nil) (.outlet hexit) hwrap
  rw [List.append_nil] at hleads
  have hroll : (Collector.startAll context collectors).reverse.map (·.2.id) =
      (collectors.map (·.2.id)).reverse := by
    simp [Collector.startAll, Function.comp_def]
  have hstarted : Collector.Started context (fun id => Session.measured (E := E) id .empty [])
      (Collector.startAll context collectors).reverse := by
    intro entry hentry
    obtain ⟨other, hother, rfl⟩ := List.mem_map.mp (List.mem_reverse.mp hentry)
    exact ⟨rfl, hfresh other hother⟩
  have hnodup : ((Collector.startAll context collectors).reverse.map (·.2.id)).Nodup := by
    rw [hroll]
    exact (List.reverse_perm _).nodup_iff.mpr hids
  obtain ⟨hresult, hreported⟩ := reported_of_reportAll hleads hnodup hstarted hreport
  rw [hroll] at hreported
  exact ⟨hresult, hreported, hreported.bare_sent⟩

/-- Two collectors that both sign runs and tests, in front of a listener that gets a run, a test in
it and a second end of the run. -/
theorem reported_through_collectors_two :
    let test : TestDescription := ⟨"Suite", "case"⟩
    let bind (key value : String) : Metrics := Dict.empty.insert key value
    let events : List Event := [.runStarted "run" 1, .testFailed test "trace",
      .testEnded test (bind "test" "unit"), .runEnded 5 .empty, .runEnded 6 (bind "run" "unit")]
    let network : Network :=
      [.outlet 3, .collector { id := 7 } none, .collector { id := 8 } none]
    ∃ (wiring trace : List (Session.Exchange (World .silent))) (chained last : Network)
      (result : Except Thrown Unit),
      (wrapAll none [1, 2] 0).Ends network wiring (.ok 2) chained ∧
      (reportAll 2 events).Ends chained trace result last ∧
      Session.sent trace = [.runStarted "run" 1, .testFailed test "trace",
        .testEnded test (bind "test" "7"), .runEnded 5 (bind "run" "8"),
        .runEnded 6 (bind "run" "unit")] ∧
      Reported none 3 [8, 7] [] events trace := by
  intro test bind events network
  let wired := ((wrapAll (E := .silent) none [1, 2] 0).run.run network).converse Collector.signing
  have hwrapped : wired.2.1 = .ok 2 := by decide +kernel
  have hwrap : (wrapAll none [1, 2] 0).Ends network wired.1 (.ok 2) wired.2.2 :=
    hwrapped ▸ Flow.ends_converse Collector.signing _
  have hreport : Flow.Ends _ wired.2.2 _ _ _ :=
    Flow.ends_converse Collector.signing (reportAll (E := .silent) 2 events)
  have hseats : Seats network [(1, { id := 7 }), (2, { id := 8 })] := by
    simp [Seats, network]
  obtain ⟨-, hreported, -⟩ :=
    reported_through_collectors rfl hseats (by decide) (by decide) (by decide) hwrap hreport
  exact ⟨_, _, _, _, _, hwrap, hreport, by decide +kernel, hreported⟩

end Network

end Fleet
