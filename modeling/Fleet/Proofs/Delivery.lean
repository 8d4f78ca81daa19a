import Fleet.Poller.Execution
import Fleet.Proofs.Law

/-!
# Deliveries

When events go through a network, its listeners pass them on, call the hooks of collectors and save
logs. Every delivery obeys a law that allows this, whatever else the law forbids, and so does the
closing of the runs that a failed unit leaves open.
-/

namespace Fleet

variable {E : Interface}

/-- The request calls a hook of a collector on a run or on a test. -/
def Request.IsHook : Request → Prop
  | .collectorRunStart .. | .collectorRunEnd .. | .collectorTestStart .. | .collectorTestEnd .. =>
    True
  | _ => False

/-- A collector that receives an event calls its hook, if anything. -/
theorem Collector.asks_receive {kind : (World E).Question → Prop}
    (h : ∀ request : Request, request.IsHook → kind (.inl request)) {collector : Collector}
    {event : Event} : Session.Asks kind (collector.receive event : Work E (Event × Collector)) := by
  cases event <;>
    first
      | exact .pure _
      | exact .bind (.request (h _ trivial)) fun _ => .pure _

namespace Network

/-- A law that lets the listeners of a network do what they do when events go through it. -/
structure Delivery (law : Flow.Law E Network) : Prop where
  moves : ∀ first last, law.moves first last
  send : ∀ outlet event, (Flow.send outlet event).Obeys law
  save : ∀ saver log kind data, law.asks (.inl (.save saver log kind data))
  hook : ∀ request : Request, request.IsHook → law.asks (.inl request)
  log : ∀ entry : LogEntry, entry.event ∈ ["save_failed", "open_run_closed"] →
    law.asks (.inl (.log entry))

namespace Delivery

variable {law : Flow.Law E Network}

/-- Delivering an event goes through the network listener by listener. -/
theorem deliver (h : Delivery law) (reach target : Nat) (event : Event) :
    (Network.deliver reach target event).Obeys law := by
  induction reach generalizing target event with
  | zero => exact .pure _
  | succ reach ih =>
    rw [Network.deliver]
    refine .bind .get ?_
    intro network
    split
    · exact .pure _
    · exact .pure _
    · exact .pure _
    · exact h.send _ _
    · exact .forM fun child => ih _ _
    · refine .bind (.forM fun child => ih _ _) ?_
      intro _
      split
      · refine .bind (.request (h.save _ _ _ _)) ?_
        intro saved
        cases saved with
        | error error => exact .log fun entry hevent => h.log entry (by simp [hevent])
        | ok file => exact .forM fun child => ih _ _
      · exact .pure _
    · exact .bind (.work (Collector.asks_receive h.hook)) fun _ =>
        .bind (.modify fun _ => h.moves _ _) fun _ => ih _ _
    · exact .bind (.modify fun _ => h.moves _ _) fun _ => .forM fun event => ih _ _
    · exact .bind (.modify fun _ => h.moves _ _) fun _ => ih _ _

/-- So does sending one to a listener. -/
theorem sends (h : Delivery law) (target : Nat) (event : Event) :
    (Network.send target event).Obeys law :=
  .bind .get fun _ => h.deliver _ _ _

/-- To wire a collector is to start it and to change its place in the network. -/
theorem wrap (h : Delivery law)
    (hinit : ∀ collector context, Flow.Obeys law (do
      Flow.resume (← Flow.request (.collectorInit collector context))))
    (position next : Nat) (context : Option Context) :
    (Network.wrap position context next).Obeys law := by
  refine .bind .get ?_
  intro network
  split
  · rw [← bind_assoc]
    exact .bind (hinit _ _) fun _ => .modify fun _ => h.moves _ _
  · exact .pure _

/-- Open runs are closed by events, and the closing is noted. -/
theorem closeOpenRuns (h : Delivery law) (guard : Nat) (unit : TestUnit) (serial : String)
    (error : TaskError) : (Poller.closeOpenRuns guard unit serial error).Obeys law := by
  refine .bind .get ?_
  intro network
  split
  · refine .bind (.forM fun _ => h.sends _ _) ?_
    intro _
    split
    · exact .log fun entry hevent => h.log entry (by simp [hevent])
    · exact .pure _
  · exact .pure _

end Delivery

end Network

namespace Poller

variable {law : Flow.Law E Network}

/-- A stage sends events and wires collectors, and nothing else changes its network. -/
theorem obeys_answerStage (hsend : ∀ target event, (Network.send target event).Obeys law)
    (hwrap : ∀ position context next,
      (Network.wrap (collectorNode position) context next).Obeys law)
    (question : StageRequest) : (answerStage question).Obeys (law.comap Stage.network) := by
  cases question with
  | send event => exact .bind .get fun _ => (hsend _ _).comap fun _ _ => rfl
  | wrap position context =>
    refine .bind .get ?_
    intro stage
    dsimp only
    split
    · exact .bind ((hwrap _ _ _).comap fun _ _ => rfl) fun _ => .modify fun _ => law.stays _
    · exact .pure _

/-- So does a unit that plays, where the law lets it run its errands. -/
theorem obeys_play [law.Lax] {α : Type}
    (hsend : ∀ target event, (Network.send target event).Obeys law)
    (hwrap : ∀ position context next,
      (Network.wrap (collectorNode position) context next).Obeys law)
    (herrands : ∀ errand : E.Question, law.asks (.inr errand)) (listener : Nat)
    (performance : Performance E (Except Thrown α)) : (play listener performance).Obeys law := by
  intro network trace result last h
  obtain ⟨⟨ended, stage⟩, before, after, rfl, hperform, hdone⟩ := Session.path_seq.mp h
  obtain ⟨rfl, hended⟩ := Session.path_pure.mp hdone
  obtain ⟨rfl, rfl⟩ := Prod.mk.inj hended
  obtain ⟨hasked, hmoved, hreturned⟩ :=
    Flow.Obeys.perform (obeys_answerStage hsend hwrap) herrands performance hperform
  rw [List.append_nil]
  exact ⟨hasked, hmoved, hreturned⟩

end Poller

end Fleet
