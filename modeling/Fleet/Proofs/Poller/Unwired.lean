import Fleet.Proofs.Dealings

/-!
# Pollers without collectors

If a poller has no collectors, its units report straight to its own listener. In a calm
conversation what a unit tells on stage is then what is sent to the outlet, both while it runs and
when it reports that it did not run.
-/

namespace Fleet

variable {E : Interface}

private theorem Network.Leads.getElem?_exit {network : Network} {outlet exit place : Nat}
    {line : Line}
    (h : network.Leads outlet exit place line) : network[exit]? = some (.outlet outlet) := by
  induction h with
  | outlet h => exact h
  | link _ _ ih => exact ih

namespace Poller

/-- No collector stands between the units of the poller and the outlet. -/
structure Unwired (poller : Poller) : Prop where
  listener : poller.network[ownListener]? = some (.outlet 0)
  entry : poller.entry = ownListener
  collectors : poller.resources.collectors = []

/-- A poller without collectors starts unwired. -/
theorem unwired_ofResources {resources : Resources} (h : resources.collectors = []) :
    (ofResources resources).Unwired :=
  ⟨rfl, rfl, h⟩

namespace Unwired

variable {poller : Poller} {conduct : Conduct E} {unit : TestUnit} {last : Network}
  {trace : List (Session.Exchange (World E))}

private theorem leads (h : poller.Unwired) (unit : TestUnit) :
    poller.network.Leads 0 ownListener (target unit poller.entry) [] := by
  have htarget : target unit poller.entry = ownListener := by
    rw [target, h.entry, ite_self]
  rw [htarget]
  exact .outlet h.listener

/-- In a calm conversation a unit that puts up no collectors is heard until it ends, and then what
closes the runs it left open. -/
theorem heard_of_execute {result : Except Thrown Outcome} (h : poller.Unwired)
    (hplain : ∀ received, Performance.Plain (conduct.run received))
    (hexecute : (execute conduct poller.resources poller.entry unit).Ends poller.network trace
      result last) (hcalm : Session.Calm trace) :
    last[ownListener]? = some (.outlet 0) ∧ ∃ played ended,
      (conduct.run (poller.resources.received unit.capabilities)).Path played ended ∧
      Performance.Heard played ∧
      result = contain unit poller.resources.device.serial ended ∧
      Session.dealings trace = Session.dealings played ∧
      (Session.sent trace).map Event.bare =
        (Performance.told played ++ remainder (Performance.told played) result).map Event.bare := by
  obtain ⟨passed, after, hexecutes, -, hleads⟩ :=
    executes_of_execute (h.leads unit) ((hplain _).wires _) hexecute
  exact ⟨hleads.getElem?_exit, hexecutes.of_calm hcalm⟩

/-- In a calm conversation events are sent to the outlet as they are told. -/
theorem heard_of_sendAll {events : List Event} {result : Except Thrown Unit} (h : poller.Unwired)
    (hplay : (play ownListener (Performance.sendAll events)).Ends poller.network trace result last)
    (hcalm : Session.Calm trace) :
    last[ownListener]? = some (.outlet 0) ∧ result = .ok () ∧ Session.dealings trace = [] ∧
      (Session.sent trace).map Event.bare = events.map Event.bare := by
  obtain ⟨played, after, hpath, hstaged, head, hleads⟩ :=
    staged_of_play (.outlet h.listener) (Performance.plain_sendAll.wires _) hplay
  obtain ⟨hresult, htold⟩ := Performance.heard_sendAll hpath (hstaged.heard hcalm)
  refine ⟨hleads.getElem?_exit, hresult, ?_, ?_⟩
  · rw [hstaged.dealings, Performance.dealings_sendAll hpath]
  · rw [hstaged.bare_sent, htold]

end Unwired

end Poller

namespace Station

variable {conducts : Conducts E} {first mid last : Station} {unit : TestUnit} {message : String}
  {trace before after : List (Session.Exchange (World E))} {result : Except Thrown Unit}

/-- A poller with the same listeners is as unwired as before. -/
theorem SameListeners.unwired (h : first.SameListeners last) (hfirst : first.poller.Unwired) :
    last.poller.Unwired where
  listener := by rw [h.network, hfirst.listener]
  entry := by rw [h.entry, hfirst.entry]
  collectors := by rw [h.resources, hfirst.collectors]

/-- A unit that reports some events is asked once, and they are sent to the outlet. -/
theorem heard_of_reportUnit {events : List Event} (h : first.poller.Unwired)
    (hreports : unit.capabilities.notExecutedReport = true)
    (hevents : (conducts unit).reportNotExecuted message = Performance.sendAll events)
    (hends : (reportUnit conducts unit message).Ends first trace result last)
    (hcalm : Session.Calm trace) :
    result = .ok () ∧ last.poller.Unwired ∧ last.poller.asked = first.poller.asked ++ [unit] ∧
      Session.dealings trace = [] ∧
      (Session.sent trace).map Event.bare = events.map Event.bare := by
  rw [reportUnit, if_pos hreports, Flow.ends_modify_bind, hevents] at hends
  obtain ⟨network, hplay, rfl⟩ := Flow.ends_within.mp hends
  obtain ⟨hlistener, hresult, hdealings, hsent⟩ := h.heard_of_sendAll hplay hcalm
  exact ⟨hresult, ⟨hlistener, h.entry, h.collectors⟩, rfl, hdealings, hsent⟩

end Station

end Fleet
