import Fleet.Proofs.Asking
import Fleet.Proofs.Calm

/-!
# Routine

Most of what a poller says has nothing to do with how a unit behaves: it logs, asks providers and
passes events on. Such a conversation runs no errand of a unit and complains about no unit that
cannot report. A routine computation has only such conversations, and throws only what it has been
answered with. A quiet one passes on no event either: it only asks around and takes notes.
-/

namespace Fleet

/-- The event under which a unit that cannot report is logged. -/
def unreportableEvent : String := "not_executed_unreportable"

/-- The question runs no errand of a unit, and does not complain about a unit that cannot report. -/
def World.Routine {E : Interface} : (World E).Question → Prop
  | .inl (.log entry) => entry.event ≠ unreportableEvent
  | .inl _ => True
  | .inr _ => False

/-- The question is routine, and neither does it pass on an event, nor is it about a module. -/
def World.Quiet {E : Interface} : (World E).Question → Prop
  | .inl (.log entry) => entry.event ≠ unreportableEvent
  | .inl (.send ..) | .inl (.save ..) | .inl (.shouldRun ..) | .inl (.setUp ..)
  | .inl (.tearDown ..) | .inl (.setUpAll ..) | .inl (.tearDownAll ..) =>
    False
  | .inl _ => True
  | .inr _ => False

namespace World

variable {E : Interface} {question : (World E).Question}

/-- What is quiet is routine. -/
theorem Quiet.routine (h : Quiet question) : Routine question := by
  rcases question with question | errand
  · cases question with
    | log entry => exact h
    | _ => trivial
  · exact h

/-- A log line is routine unless it complains. -/
theorem routine_log {event : String} (h : event ≠ unreportableEvent) (entry : LogEntry)
    (hevent : entry.event = event) : Routine (.inl (.log entry) : (World E).Question) :=
  show entry.event ≠ _ from hevent ▸ h

/-- Then it is quiet as well. -/
theorem quiet_log {event : String} (h : event ≠ unreportableEvent) (entry : LogEntry)
    (hevent : entry.event = event) : Quiet (.inl (.log entry) : (World E).Question) :=
  show entry.event ≠ _ from hevent ▸ h

end World

namespace Session

variable {P E : Interface} {α β : Type}

/-- The errands in a conversation. -/
def errands (trace : List (Exchange (P.sum E))) : List E.Question :=
  trace.filterMap fun exchange => exchange.question.getRight?

@[simp] theorem errands_nil : errands ([] : List (Exchange (P.sum E))) = [] :=
  rfl

@[simp] theorem errands_append (before after : List (Exchange (P.sum E))) :
    errands (before ++ after) = errands before ++ errands after :=
  List.filterMap_append

/-- What an exchange says about a unit that cannot report. -/
def Exchange.complaint? (exchange : Exchange (World E)) : Option String :=
  match exchange.question with
  | .inl (.log entry) => if entry.event = unreportableEvent then some entry.message else none
  | _ => none

/-- What a conversation says about units that cannot report. -/
def complaints (trace : List (Exchange (World E))) : List String :=
  trace.filterMap Exchange.complaint?

@[simp] theorem complaints_nil : complaints ([] : List (Exchange (World E))) = [] :=
  rfl

@[simp] theorem complaints_append (before after : List (Exchange (World E))) :
    complaints (before ++ after) = complaints before ++ complaints after :=
  List.filterMap_append

/-- A complaint is what its log line says. -/
theorem complaints_log {entry : LogEntry} (h : entry.event = unreportableEvent)
    (answer : Request.Answer (.log entry)) :
    complaints [(⟨.inl (.log entry), answer⟩ : Exchange (World E))] = [entry.message] := by
  simp [complaints, Exchange.complaint?, h]

/-- No unit shows in the conversation. -/
structure Uneventful (trace : List (Exchange (World E))) : Prop where
  errands : errands trace = []
  complaints : complaints trace = []

/-- Where nothing is said, no unit shows. -/
theorem uneventful_nil : Uneventful ([] : List (Exchange (World E))) :=
  ⟨rfl, rfl⟩

/-- If no unit shows in two conversations, none shows in both together. -/
theorem Uneventful.append {before after : List (Exchange (World E))} (hbefore : Uneventful before)
    (hafter : Uneventful after) : Uneventful (before ++ after) :=
  ⟨by simp [hbefore.errands, hafter.errands], by simp [hbefore.complaints, hafter.complaints]⟩

/-- A routine question shows no unit, whatever is answered. -/
theorem uneventful_request {question : Request}
    (h : World.Routine (.inl question : (World E).Question)) (answer : question.Answer) :
    Uneventful [(⟨.inl question, answer⟩ : Exchange (World E))] := by
  refine ⟨rfl, ?_⟩
  cases question with
  | log entry => simp [complaints, Exchange.complaint?, if_neg h]
  | _ => rfl

/-- A line that does not complain shows no unit. -/
theorem uneventful_log {entry : LogEntry} (h : entry.event ≠ unreportableEvent) :
    Uneventful [(⟨.inl (.log entry), ()⟩ : Exchange (World E))] :=
  @uneventful_request E (.log entry) h ()

/-- In a conversation of routine questions no unit shows. -/
theorem uneventful_of_routine {trace : List (Exchange (World E))}
    (h : ∀ exchange ∈ trace, World.Routine exchange.question) : Uneventful trace := by
  induction trace with
  | nil => exact uneventful_nil
  | cons exchange rest ih =>
    obtain ⟨hfirst, hrest⟩ := List.forall_mem_cons.mp h
    obtain ⟨question | errand, answer⟩ := exchange
    · exact (uneventful_request hfirst answer).append (ih hrest)
    · cases hfirst

/-- A session that asks quiet questions asks routine ones. -/
theorem Asks.routine {session : Work E α} (h : session.Asks World.Quiet) :
    session.Asks World.Routine :=
  h.mono fun _ => World.Quiet.routine

/-- In the conversations of a session that asks only routine questions no unit shows. -/
theorem Asks.uneventful {session : Work E α} {trace : List (Exchange (World E))} {result : α}
    (h : session.Asks World.Routine) (hpath : session.Path trace result) : Uneventful trace :=
  uneventful_of_routine (h hpath)

end Session

section Sessions

variable {E : Interface} {device : Device}

/-- The question looks into what a device is and holds, and notes what is found. -/
def World.Inquiring : (World E).Question → Prop
  | .inl (.log entry) => entry.event ≠ unreportableEvent
  | .inl (.property ..) | .inl (.holdsToken ..) => True
  | _ => False

/-- To inquire is quiet. -/
theorem World.Inquiring.quiet {question : (World E).Question} (h : World.Inquiring question) :
    World.Quiet question := by
  rcases question with question | errand
  · cases question <;> first | exact h | cases h
  · cases h

/-- To inquire is neither to hand a unit anything nor to look after a device. -/
theorem World.Inquiring.ordinary {question : (World E).Question} (h : World.Inquiring question) :
    World.Ordinary question := by
  rcases question with question | errand
  · cases question <;> first | exact ⟨rfl, rfl⟩ | cases h
  · cases h

/-- The question looks for tokens on a device, and notes those that are missing. -/
def World.Browsing : (World E).Question → Prop
  | .inl (.log entry) => entry.event ∈ ["missing_provider", "token_rejected"]
  | .inl (.property ..) | .inl (.holdsToken ..) => True
  | _ => False

/-- To look for tokens is to inquire. -/
theorem World.Browsing.inquiring {question : (World E).Question} (h : World.Browsing question) :
    World.Inquiring question := by
  rcases question with question | errand
  · cases question with
    | log entry =>
      have hmem : entry.event ∈ ["missing_provider", "token_rejected"] := h
      exact ne_of_mem_of_not_mem hmem (by decide)
    | property | holdsToken => trivial
    | _ => cases h
  · cases h

private theorem Session.browsing_logLine {level : LogLevel} {owner component event message : String}
    (h : event ∈ ["missing_provider", "token_rejected"]) :
    Session.Asks World.Browsing (logLine level owner component event message : Work E Unit) :=
  .logLine fun entry hevent => show entry.event ∈ _ from hevent ▸ h

private theorem TokenRegistry.browsing_supportsAll {registry : TokenRegistry}
    {tokens : List String} :
    Session.Asks World.Browsing (registry.supportsAll device tokens : Work E Bool) := by
  induction tokens with
  | nil => exact .pure _
  | cons token rest ih =>
    rw [supportsAll]
    split
    · exact .bind (Session.browsing_logLine (by decide)) fun _ => .pure _
    · rename_i provider _
      refine .bind ?_ fun held => ?_
      · cases provider with
        | property provider => exact .bind (.request trivial) fun _ => .pure _
        | external id => exact .request trivial
      · cases held with
        | true => exact ih
        | false => exact .pure _

private theorem WorkPool.browsing_admits {registry : Option TokenRegistry} {tokens : Names} :
    Session.Asks World.Browsing (admits registry device tokens : Work E Bool) := by
  unfold admits
  split
  · exact .pure _
  · cases registry with
    | none => exact .pure _
    | some registry => exact TokenRegistry.browsing_supportsAll

private theorem WorkPool.browsing_seekAdmitted {registry : Option TokenRegistry}
    {units : List TestUnit}
    {rejections : Rejections} :
    Session.Asks World.Browsing (seekAdmitted registry device units rejections :
      Work E (Option TestUnit × Rejections)) := by
  induction units generalizing rejections with
  | nil => exact .pure _
  | cons unit rest ih =>
    rw [seekAdmitted]
    split
    · exact ih
    · refine .bind browsing_admits ?_
      intro admitted
      cases admitted with
      | true => exact .pure _
      | false => exact .bind (Session.browsing_logLine (by decide)) fun _ => ih

/-- A gated unit is found by looking for its tokens. -/
theorem WorkPool.browsing_pollGated {pool : WorkPool} :
    Session.Asks World.Browsing
      (pool.pollGated device : Work E (Option TestUnit × WorkPool)) := by
  refine .bind browsing_seekAdmitted fun (found, rejections) => ?_
  cases found <;> exact .pure _

/-- The search for a gated unit is quiet. -/
theorem WorkPool.quiet_pollGated {pool : WorkPool} :
    Session.Asks World.Quiet (pool.pollGated device : Work E (Option TestUnit × WorkPool)) :=
  browsing_pollGated.mono fun _ h => h.inquiring.quiet

end Sessions

namespace Flow

variable {E : Interface} {S T : Type} {α β : Type}

/-- The law to ask only routine questions, and to throw only what one has been answered with. -/
def Law.routine (E : Interface) (S : Type) : Law E S where
  asks := World.Routine
  moves _ _ := True
  returns := Session.Calm
  stays _ := trivial
  goes_on _ _ := trivial
  returns_of_append hcalm := (Session.calm_append.mp hcalm).2

/-- No unit shows in a conversation of the computation, and in a calm one it throws nothing. -/
def Routine (flow : Flow E S α) : Prop :=
  flow.Obeys (.routine E S)

namespace Routine

/-- No unit shows in a routine computation. -/
theorem uneventful {flow : Flow E S α} {first last : S} {trace : List (Session.Exchange (World E))}
    {result : Except Thrown α} (h : flow.Routine) (hends : flow.Ends first trace result last) :
    Session.Uneventful trace :=
  Session.uneventful_of_routine (h hends).asked

/-- Work on a part of the state is as routine as it is on the part alone. -/
theorem within {part : S → T} {replace : S → T → S} {flow : Flow E T α} (h : flow.Routine) :
    (Flow.within part replace flow).Routine :=
  Obeys.within h (fun _ => id) (fun _ _ => id) fun _ => id

private theorem send {outlet : Nat} {event : Event} :
    (Flow.send outlet event : Flow E S Unit).Routine :=
  Obeys.resume_request trivial fun _ hcalm => ⟨(), hcalm _ List.mem_cons_self⟩

/-- To hand a unit a dependency is routine; what its setter throws is thrown. -/
theorem provide {unit : TestUnit} {dependency : Dependency} :
    (do Flow.resume (← Flow.request (.provide unit dependency)) : Flow E S Unit).Routine :=
  Obeys.resume_request trivial fun _ hcalm => ⟨(), hcalm _ List.mem_cons_self⟩

private theorem collectorInit {collector : Nat} {context : Option Context} :
    (do Flow.resume (← Flow.request (.collectorInit collector context)) : Flow E S Unit).Routine :=
  Obeys.resume_request trivial fun _ hcalm => ⟨(), hcalm _ List.mem_cons_self⟩

end Routine

end Flow

namespace Network

variable {E : Interface}

/-- Events are delivered as a matter of routine. -/
theorem delivery_routine : Delivery (Flow.Law.routine E Network) where
  moves _ _ := trivial
  send _ _ := Flow.Routine.send
  save _ _ _ _ := trivial
  hook request h := by cases request <;> trivial
  log _ hmem := ne_of_mem_of_not_mem hmem (by decide)

/-- So are collectors wired. -/
theorem routine_wrap {position next : Nat} {context : Option Context} :
    Flow.Routine (wrap (E := E) position context next) :=
  delivery_routine.wrap (fun _ _ => Flow.Routine.collectorInit) _ _ _

end Network

end Fleet
