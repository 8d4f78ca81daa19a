import Fleet.Proofs.Delivery
import Fleet.WorkPool

/-!
# What computations ask

Most of what a scheduler does neither hands a unit a dependency nor looks after a lost device. In a
conversation these two kinds of questions are told from all others, in the order in which they were
asked. Whoever only passes on what a unit does asks neither.
-/

namespace Fleet

section Kinds

variable {E : Interface}

/-- The dependency that a request hands to a unit. -/
def Request.wiring? : Request → Option (TestUnit × Dependency)
  | .provide unit dependency => some (unit, dependency)
  | _ => none

/-- Whether a request looks after a device: it waits for it, brings it back or keeps a record of
what became of it. -/
def Request.isCare : Request → Bool
  | .await .. | .reboot _ | .reset _ | .record .. => true
  | _ => false

/-- The question hands no unit a dependency. -/
def World.Unwiring : (World E).Question → Prop
  | .inl question => question.wiring? = none
  | .inr _ => True

/-- The question does not look after a device. -/
def World.Uncaring : (World E).Question → Prop
  | .inl question => question.isCare = false
  | .inr _ => True

/-- The question neither hands a unit a dependency nor looks after a device. -/
structure World.Ordinary (question : (World E).Question) : Prop where
  unwiring : World.Unwiring question
  uncaring : World.Uncaring question

/-- The question passes on what a unit does or reports: it is an errand of the unit, or its
listeners, their collectors and whoever guards and reports the unit ask it. -/
def World.Relaying : (World E).Question → Prop
  | .inl (.send ..) | .inl (.save ..) | .inl (.collectorInit ..) | .inl (.collectorRunStart ..)
  | .inl (.collectorRunEnd ..) | .inl (.collectorTestStart ..) | .inl (.collectorTestEnd ..)
  | .inr _ => True
  | .inl (.log entry) => entry.event ∈
    ["save_failed", "open_run_closed", "not_executed_unreportable", "report_not_executed_failed"]
  | _ => False

/-- To pass on what a unit does is neither to hand it anything nor to look after a device. -/
theorem World.Relaying.ordinary {question : (World E).Question} (h : World.Relaying question) :
    World.Ordinary question := by
  rcases question with question | errand
  · cases question <;> first | exact ⟨rfl, rfl⟩ | cases h
  · exact ⟨trivial, trivial⟩

namespace Session

variable {before after trace : List (Exchange (World E))}

/-- The dependency that a unit is handed in an exchange. -/
def Exchange.wiring? (exchange : Exchange (World E)) : Option (TestUnit × Dependency) :=
  match exchange.question with
  | .inl question => question.wiring?
  | .inr _ => none

/-- The dependencies that units are handed in a conversation, in order. -/
def wirings (trace : List (Exchange (World E))) : List (TestUnit × Dependency) :=
  trace.filterMap Exchange.wiring?

@[simp] theorem wirings_nil : wirings ([] : List (Exchange (World E))) = [] :=
  rfl

@[simp] theorem wirings_append : wirings (before ++ after) = wirings before ++ wirings after :=
  List.filterMap_append

@[simp] theorem wirings_request {question : Request} {answer : question.Answer} :
    wirings ((⟨.inl question, answer⟩ : Exchange (World E)) :: trace) =
      question.wiring?.toList ++ wirings trace := by
  rw [wirings, List.filterMap_cons]
  cases hwiring : question.wiring? <;> simp [Exchange.wiring?, hwiring, wirings]

/-- Where no question hands anything to a unit, nothing is handed to one. -/
theorem wirings_eq_nil (h : ∀ exchange ∈ trace, World.Unwiring exchange.question) :
    wirings trace = [] := by
  refine List.filterMap_eq_nil_iff.mpr fun ⟨question, answer⟩ hexchange => ?_
  cases question with
  | inl question => exact h _ hexchange
  | inr errand => rfl

/-- Whether a device is looked after in an exchange. -/
def Exchange.isCare (exchange : Exchange (World E)) : Bool :=
  match exchange.question with
  | .inl question => question.isCare
  | .inr _ => false

/-- What is done in a conversation to look after devices, in order. -/
def care (trace : List (Exchange (World E))) : List (Exchange (World E)) :=
  trace.filter Exchange.isCare

@[simp] theorem care_nil : care ([] : List (Exchange (World E))) = [] :=
  rfl

@[simp] theorem care_append : care (before ++ after) = care before ++ care after :=
  List.filter_append ..

private theorem care_eq_nil (h : ∀ exchange ∈ trace, World.Uncaring exchange.question) :
    care trace = [] := by
  refine List.filter_eq_nil_iff.mpr fun ⟨question, answer⟩ hexchange => ?_
  cases question with
  | inl question =>
    have hcare : question.isCare = false := h _ hexchange
    simp [Exchange.isCare, hcare]
  | inr errand => simp [Exchange.isCare]

end Session

namespace Flow

variable {S : Type} {α : Type} {flow : Flow E S α} {first last : S}
  {trace : List (Session.Exchange (World E))} {result : Except Thrown α}

/-- No unit is handed anything by a computation that never asks one to take something. -/
theorem Asks.wirings (h : flow.Asks World.Unwiring) (hends : flow.Ends first trace result last) :
    Session.wirings trace = [] :=
  Session.wirings_eq_nil (h hends).asked

/-- No device is looked after by a computation that never asks for it. -/
theorem Asks.care (h : flow.Asks World.Uncaring) (hends : flow.Ends first trace result last) :
    Session.care trace = [] :=
  Session.care_eq_nil (h hends).asked

/-- Who only relays asks ordinary questions only. -/
theorem Asks.ordinary (h : flow.Asks World.Relaying) : flow.Asks World.Ordinary :=
  h.mono fun _ => World.Relaying.ordinary

/-- Ordinary questions hand no unit a dependency. -/
theorem Asks.unwiring (h : flow.Asks World.Ordinary) : flow.Asks World.Unwiring :=
  h.mono fun _ => World.Ordinary.unwiring

/-- Ordinary questions look after no device. -/
theorem Asks.uncaring (h : flow.Asks World.Ordinary) : flow.Asks World.Uncaring :=
  h.mono fun _ => World.Ordinary.uncaring

end Flow

end Kinds

/-- A log line of a relaying computation is known by its event. -/
theorem World.relaying_log {E : Interface} {event : String}
    (h : event ∈ ["save_failed", "open_run_closed", "not_executed_unreportable",
      "report_not_executed_failed"]) (entry : LogEntry) (hevent : entry.event = event) :
    World.Relaying (.inl (.log entry) : (World E).Question) :=
  show entry.event ∈ _ from hevent ▸ h

namespace Network

variable {E : Interface}

/-- What listeners ask is asked by them. -/
theorem delivery_relaying : Delivery (Flow.Law.asking (E := E) Network World.Relaying) where
  moves _ _ := trivial
  send _ _ := .send trivial
  save _ _ _ _ := trivial
  hook request h := by cases request <;> trivial
  log _ hevent :=
    List.mem_append_left ["not_executed_unreportable", "report_not_executed_failed"] hevent

/-- To wire a collector is to relay: all that is asked is to start it. -/
theorem relaying_wrap {position next : Nat} {context : Option Context} :
    (wrap (E := E) position context next).Asks World.Relaying :=
  delivery_relaying.wrap (fun _ _ => .bind (.request trivial) fun _ => .resume _) _ _ _

end Network

end Fleet
