import Fleet.Module.Run
import Fleet.Proofs.Calm

/-!
# The deeds of a module

What counts in the conversation of a module: the decision of its controller, the calls of its
preparers, the logs it stores, the events it hands to a listener and the errands its units run. Log
lines, readings of the clock and the wiring of units are left out. A conversation is orderly if no
capability setter throws and whatever else throws, throws standard exceptions.
-/

namespace Fleet

variable {E : Interface}

/-- What a preparer works on: one device, or all devices of a module at once. -/
inductive Target where
  | device (preparer : Preparer) (device : Device) (build : Option Build)
  | all (preparer : MultiPreparer) (context : Context)
  deriving DecidableEq

namespace Target

/-- The name of the preparer. -/
def name : Target → String
  | device preparer _ _ => preparer.name
  | all preparer _ => preparer.name

/-- Whether all devices are prepared at once. -/
def isAll : Target → Bool
  | device .. => false
  | all .. => true

/-- Whether it is one device whose preparer cleans up after itself. -/
def isCleaned : Target → Bool
  | device preparer _ _ => preparer.cleaner
  | all .. => false

end Target

/-- The error an operation came to, if it failed; a standard exception counts as an error of the
given category. -/
def Exit.failure? (origin : String) (category : ErrorCategory) : Exit → Option TaskError
  | .ok (.error error) => some error
  | .error (.standard what) => some { category, code := 402, message := what, origin }
  | .ok (.ok ()) | .error .other => none

/-- The operation returned an error that says that the device is lost. -/
def Exit.ReturnsLoss (exit : Exit) : Prop :=
  ∃ error, exit = .ok (.error error) ∧ error.isDeviceLoss = true

/-- A call to set something up. -/
structure SetUp where
  target : Target
  exit : Exit

/-- The failure of a call to set something up; it names its origin. -/
def SetUp.failure? (call : SetUp) : Option TaskError :=
  (call.exit.failure? call.target.name .targetSetup).map (Module.withOrigin call.target.name)

/-- A call to clean something up. -/
structure TearDown where
  target : Target
  /-- The failure the preparer is told of. -/
  told : Option TaskError
  exit : Exit

/-- The failure of a call to clean something up. -/
def TearDown.failure? (call : TearDown) : Option TaskError :=
  call.exit.failure? call.target.name .targetSetup

/-- An event handed to a listener, and whether the listener took it. -/
structure Sending where
  event : Event
  answer : Except Thrown Unit

/-- What the listener threw. -/
def Sending.thrown? (sending : Sending) : Option Thrown :=
  match sending.answer with
  | .ok () => none
  | .error thrown => some thrown

/-- What handing events out comes to: the first thing thrown ends it. -/
def Sending.comesTo (sendings : List Sending) : Except Thrown Unit :=
  match sendings.findSome? Sending.thrown? with
  | none => .ok ()
  | some thrown => .error thrown

/-- One thing a module does. -/
inductive Deed (E : Interface) where
  /-- It is told what to do. -/
  | decided (strategy : RunStrategy)
  | setUp (call : SetUp)
  | tornDown (call : TearDown)
  /-- It has log data stored. -/
  | stored (saver : Nat) (log : String) (kind : LogKind) (data : String)
      (answer : Except TaskError LogFile)
  /-- It hands an event to a listener. -/
  | sent (outlet : Nat) (sending : Sending)
  /-- A unit of it runs an errand. -/
  | errand (exchange : Session.Exchange E)

/-- The event that is handed to a listener. -/
def Deed.sent? : Deed E → Option Event
  | .sent _ sending => some sending.event
  | _ => none

/-- What is done by asking the outside world. -/
def Request.deed? : (question : Request) → question.Answer → Option (Deed E)
  | .shouldRun .., strategy => some (.decided strategy)
  | .setUp preparer device build, exit => some (.setUp ⟨.device preparer device build, exit⟩)
  | .setUpAll preparer context, exit => some (.setUp ⟨.all preparer context, exit⟩)
  | .tearDown preparer device build failure, exit =>
    some (.tornDown ⟨.device preparer device build, failure, exit⟩)
  | .tearDownAll preparer context failure, exit =>
    some (.tornDown ⟨.all preparer context, failure, exit⟩)
  | .save saver name kind data, answer => some (.stored saver name kind data answer)
  | .send outlet event, answer => some (.sent outlet ⟨event, answer⟩)
  | .log _, _ | .record .., _ | .clock, _ | .await .., _ | .reboot _, _ | .reset _, _
  | .property .., _ | .holdsToken .., _ | .provide .., _ | .collectorInit .., _
  | .collectorRunStart .., _ | .collectorRunEnd .., _ | .collectorTestStart .., _
  | .collectorTestEnd .., _ => none

namespace Session

variable {exchange : Exchange (World E)} {trace before after : List (Exchange (World E))}

/-- What is done in an exchange, if it counts. -/
def Exchange.deed? : Exchange (World E) → Option (Deed E)
  | ⟨.inl question, answer⟩ => question.deed? answer
  | ⟨.inr errand, answer⟩ => some (.errand ⟨errand, answer⟩)

/-- What is done in a conversation, in order. -/
def deeds (trace : List (Exchange (World E))) : List (Deed E) :=
  trace.filterMap Exchange.deed?

@[simp] theorem deeds_nil : deeds ([] : List (Exchange (World E))) = [] :=
  rfl

@[simp] theorem deeds_append : deeds (before ++ after) = deeds before ++ deeds after :=
  List.filterMap_append

private theorem deeds_cons : deeds (exchange :: trace) = exchange.deed?.toList ++ deeds trace := by
  rw [deeds, List.filterMap_cons]
  cases exchange.deed? <;> rfl

@[simp] theorem deeds_request {question : Request} {answer : question.Answer} :
    deeds ((⟨.inl question, answer⟩ : Exchange (World E)) :: trace) =
      (question.deed? answer).toList ++ deeds trace :=
  deeds_cons

@[simp] theorem deeds_errand {question : E.Question} {answer : E.Answer question} :
    deeds ((⟨.inr question, answer⟩ : Exchange (World E)) :: trace) =
      .errand ⟨question, answer⟩ :: deeds trace :=
  deeds_cons

/-- The events that are handed to listeners, in order. -/
def sent (trace : List (Exchange (World E))) : List Event :=
  (deeds trace).filterMap Deed.sent?

@[simp] theorem sent_nil : sent ([] : List (Exchange (World E))) = [] :=
  rfl

@[simp] theorem sent_append : sent (before ++ after) = sent before ++ sent after := by
  rw [sent, deeds_append, List.filterMap_append, ← sent, ← sent]

@[simp] theorem sent_send {outlet : Nat} {event : Event} {answer : Except Thrown Unit} :
    sent ((⟨.inl (.send outlet event), answer⟩ : Exchange (World E)) :: trace) =
      event :: sent trace :=
  rfl

/-- Where nothing is done, nothing is sent. -/
theorem sent_of_deeds_nil (h : deeds trace = []) : sent trace = [] := by
  rw [sent, h, List.filterMap_nil]

/-- In a calm conversation every listener takes its events. -/
theorem taken_of_calm (h : Calm trace) {outlet : Nat} {sending : Sending}
    (hsent : .sent outlet sending ∈ deeds trace) : sending.answer = .ok () := by
  obtain ⟨⟨question, answer⟩, hexchange, hdeed⟩ := List.mem_filterMap.mp hsent
  have hreturned := h _ hexchange
  rcases question with question | errand
  · cases question with
    | send => cases hdeed; exact hreturned
    | _ => cases hdeed
  · cases hdeed

/-- No setter throws, and whatever else throws, throws a standard exception. -/
def Exchange.Orderly (exchange : Exchange (World E)) : Prop :=
  match exchange.question, exchange.answer with
  | .inl (.provide ..), answer => answer = .ok ()
  | .inl (.send ..), answer | .inl (.collectorInit ..), answer => answer ≠ .error .other
  | .inl (.setUp ..), answer | .inl (.setUpAll ..), answer | .inl (.tearDown ..), answer
  | .inl (.tearDownAll ..), answer => answer ≠ .error .other
  | _, _ => True

/-- No setter throws in the conversation, and whatever else throws, throws standard exceptions. -/
def Orderly (trace : List (Exchange (World E))) : Prop :=
  ∀ exchange ∈ trace, exchange.Orderly

@[simp] theorem orderly_nil : Orderly ([] : List (Exchange (World E))) := by
  simp [Orderly]

@[simp] theorem orderly_cons : Orderly (exchange :: trace) ↔ exchange.Orderly ∧ Orderly trace :=
  List.forall_mem_cons

@[simp] theorem orderly_append : Orderly (before ++ after) ↔ Orderly before ∧ Orderly after :=
  List.forall_mem_append

end Session

namespace Performance

/-- Nothing but standard exceptions is thrown by the stage. -/
def Orderly (played : List (Session.Exchange (stage.sum E))) : Prop :=
  ∀ exchange ∈ played,
    match exchange.question, exchange.answer with
    | .inl _, answer => answer ≠ .error .other
    | .inr _, _ => True

end Performance

/-- A unit whose runs throw nothing but standard exceptions, unless the stage throws something
else. -/
def Conduct.Orderly (conduct : Conduct E) : Prop :=
  ∀ received played ended, (conduct.run received).Path played ended → Performance.Orderly played →
    ended ≠ .error .other

end Fleet
