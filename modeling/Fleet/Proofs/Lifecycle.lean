import Fleet.Lifecycle
import Fleet.Proofs.Asking

/-!
# Keeping to the table

What the requests made of a state machine come to, however many there are and in whatever order. A
computation that moves a machine along the way walks: it requests only what the table has, so that
no refusal is ever noted, and where it ends is known from where it began.
-/

namespace Fleet

namespace Lifecycle

variable {σ : Type} [StateMachine σ] {cycle moved : Lifecycle σ} {next : σ} {requests : List σ}
  {error : TaskError}

/-- The machine after a request; a refused one leaves it as it was. -/
def after (cycle : Lifecycle σ) (next : σ) : Lifecycle σ :=
  match cycle.transitionTo next with
  | .ok moved => moved
  | .error _ => cycle

/-- The machine after several requests, one after the other. -/
def afterAll (cycle : Lifecycle σ) (requests : List σ) : Lifecycle σ :=
  requests.foldl after cycle

/-- The requests that are accepted, in order. -/
def accepted : Lifecycle σ → List σ → List σ
  | _, [] => []
  | cycle, next :: requests =>
    match cycle.transitionTo next with
    | .ok moved => next :: moved.accepted requests
    | .error _ => cycle.accepted requests

/-- A step along an edge of the table is taken. -/
theorem transitionTo_of_legal (h : StateMachine.legal cycle.state next = true) :
    cycle.transitionTo next = .ok { cycle with state := next } :=
  if_pos h

private theorem transitionTo_of_not_legal (h : StateMachine.legal cycle.state next ≠ true) :
    cycle.transitionTo next = .error (cycle.refusal next) :=
  if_neg h

/-- An accepted request follows an edge of the table. -/
theorem legal_of_accepted (h : cycle.transitionTo next = .ok moved) :
    StateMachine.legal cycle.state next = true ∧ moved = { cycle with state := next } := by
  by_cases hlegal : StateMachine.legal cycle.state next = true
  · rw [transitionTo_of_legal hlegal] at h
    exact ⟨hlegal, (Except.ok.inj h).symm⟩
  · rw [transitionTo_of_not_legal hlegal] at h
    cases h

/-- A refused request follows no edge of the table, is an internal error, and changes nothing. -/
theorem unchanged_of_refused (h : cycle.transitionTo next = .error error) :
    StateMachine.legal cycle.state next = false ∧ error.category = .internal ∧
      cycle.after next = cycle := by
  by_cases hlegal : StateMachine.legal cycle.state next = true
  · rw [transitionTo_of_legal hlegal] at h
    cases h
  · rw [transitionTo_of_not_legal hlegal] at h
    obtain rfl := Except.error.inj h
    refine ⟨eq_false_of_ne_true hlegal, rfl, ?_⟩
    rw [after, transitionTo_of_not_legal hlegal]

/-- Where no edge leads on, no request changes anything. -/
theorem afterAll_of_stuck (h : ∀ next, StateMachine.legal cycle.state next = false) :
    cycle.afterAll requests = cycle := by
  induction requests with
  | nil => rfl
  | cons next requests ih =>
    have hrefused := transitionTo_of_not_legal (ne_true_of_eq_false (h next))
    rw [afterAll, List.foldl_cons, (unchanged_of_refused hrefused).2.2]
    exact ih

/-- If every edge leads downwards, no more requests are accepted than there are levels below. -/
theorem length_accepted_le (level : σ → Nat)
    (h : ∀ state next, StateMachine.legal state next = true → level next < level state) :
    (cycle.accepted requests).length ≤ level cycle.state := by
  induction requests generalizing cycle with
  | nil => exact Nat.zero_le _
  | cons next requests ih =>
    rw [accepted]
    cases hanswer : cycle.transitionTo next with
    | error error => exact ih
    | ok moved =>
      obtain ⟨hlegal, rfl⟩ := legal_of_accepted hanswer
      exact Nat.lt_of_le_of_lt ih (h _ _ hlegal)

/-- No edge leads on from the terminal state of a poller. -/
theorem stuck_of_terminated {state : PollerState} (h : StateMachine.terminal state = true)
    (next : PollerState) : StateMachine.legal state next = false := by
  cases state <;> first | rfl | cases h

/-- No edge leads on from a terminal state of a module. -/
theorem stuck_of_finished {state : ModuleState} (h : StateMachine.terminal state = true)
    (next : ModuleState) : StateMachine.legal state next = false := by
  cases state <;> first | rfl | cases h

end Lifecycle

/-- How many steps a module can take at most. -/
def ModuleState.level : ModuleState → Nat
  | created => 5
  | controllerCheck => 4
  | preparing => 3
  | running => 2
  | tearingDown => 1
  | bypassed | done => 0

/-- Every edge of a module's table leads downwards. -/
theorem ModuleState.level_lt {state next : ModuleState}
    (h : StateMachine.legal state next = true) : next.level < state.level := by
  cases state <;> cases next <;> first | decide | cases h

section Walking

variable {E : Interface} {S T σ : Type} {α β : Type}

/-- The question notes that a step of a lifecycle is refused. -/
def World.Misstep : (World E).Question → Prop
  | .inl (.log entry) => entry.event = "illegal_transition"
  | _ => False

/-- The question neither notes that a step of a lifecycle is refused, nor asks a controller for a
decision. -/
def World.Sure : (World E).Question → Prop
  | .inl (.log entry) => entry.event ≠ "illegal_transition"
  | .inl (.shouldRun ..) => False
  | _ => True

/-- A sure question notes no refused step. -/
theorem World.Sure.not_misstep {question : (World E).Question} (h : World.Sure question) :
    ¬World.Misstep question := by
  rcases question with question | errand
  · cases question <;> first | exact h | exact id
  · exact id

/-- A line that does not note a refused step is sure. -/
theorem World.sure_log {event : String} (h : event ≠ "illegal_transition") (entry : LogEntry)
    (hevent : entry.event = event) : World.Sure (.inl (.log entry) : (World E).Question) :=
  show entry.event ≠ _ from hevent ▸ h

namespace Flow

variable {state : S → σ} {origin : σ} {arrives : α → σ → Prop}

/-- The law to leave the state machine alone. -/
def Law.still (E : Interface) (state : S → σ) : Law E S where
  asks := World.Sure
  moves first last := state last = state first
  returns _ := False
  stays _ := rfl
  goes_on hmid hlast := hlast.trans hmid
  returns_of_append := id

instance Law.lax_still : (Law.still E state).Lax :=
  ⟨fun _ => id⟩

/-- The computation leaves the state machine alone. -/
def Still (state : S → σ) (flow : Flow E S α) : Prop :=
  flow.Obeys (.still E state)

/-- The computation takes the state machine from the origin along edges of its table; what it
returns fits where it arrives. -/
def Walks (state : S → σ) (origin : σ) (flow : Flow E S α) (arrives : α → σ → Prop) : Prop :=
  ∀ ⦃first trace result last⦄, flow.Ends first trace result last → state first = origin →
    (∀ exchange ∈ trace, World.Sure exchange.question) ∧
      ∀ a, result = .ok a → arrives a (state last)

namespace Still

/-- Work on another part of the state leaves the state machine alone. -/
theorem within {part : S → T} {replace : S → T → S} {flow : Flow E T α}
    (h : flow.Asks World.Sure) (hreplace : ∀ s t, state (replace s t) = state s) :
    (Flow.within part replace flow).Still state :=
  Obeys.within h (fun _ => id) (fun s t _ => hreplace s t) fun _ => id

/-- Who leaves the machine alone walks nowhere. -/
theorem walks {flow : Flow E S α} (h : Still state flow) (harrives : ∀ a, arrives a origin) :
    Walks state origin flow arrives := by
  intro first trace result last hends horigin
  obtain ⟨hsure, hlast, -⟩ := h hends
  exact ⟨hsure, fun a _ => (hlast.trans horigin) ▸ harrives a⟩

/-- What follows walks from where the machine was left alone. -/
theorem walks_bind {flow : Flow E S α} {f : α → Flow E S β} {arrives : β → σ → Prop}
    (h : Still state flow) (hf : ∀ a, Walks state origin (f a) arrives) :
    Walks state origin (flow >>= f) arrives := by
  intro first trace result last hends horigin
  rcases ends_bind.mp hends with
    ⟨thrown, hthrown, rfl⟩ | ⟨a, before, after, mid, rfl, hfirst, hrest⟩
  · exact ⟨(h hthrown).asked, nofun⟩
  · obtain ⟨hbefore, hmid, -⟩ := h hfirst
    obtain ⟨hafter, hlast⟩ := hf a hrest (hmid.trans horigin)
    exact ⟨List.forall_mem_append.mpr ⟨hbefore, hafter⟩, hlast⟩

end Still

namespace Walks

/-- Who returns at once arrives at the origin. -/
theorem pure {a : α} (h : arrives a origin) :
    Walks state origin (Pure.pure a : Flow E S α) arrives := by
  intro first trace result last hends horigin
  obtain ⟨rfl, rfl, rfl⟩ := ends_pure.mp hends
  refine ⟨List.forall_mem_nil _, ?_⟩
  rintro _ ⟨⟩
  rwa [horigin]

/-- Two walks in a row are one, if the second one starts wherever the first one may arrive. -/
theorem bind {flow : Flow E S α} {f : α → Flow E S β} {between : α → σ → Prop}
    {arrives : β → σ → Prop} (hflow : Walks state origin flow between)
    (hf : ∀ a mid, between a mid → Walks state mid (f a) arrives) :
    Walks state origin (flow >>= f) arrives := by
  intro first trace result last hends horigin
  rcases ends_bind.mp hends with
    ⟨thrown, hthrown, rfl⟩ | ⟨a, before, after, mid, rfl, hfirst, hrest⟩
  · exact ⟨(hflow hthrown horigin).1, nofun⟩
  · obtain ⟨hbefore, hmid⟩ := hflow hfirst horigin
    obtain ⟨hafter, hlast⟩ := hf a (state mid) (hmid a rfl) hrest rfl
    exact ⟨List.forall_mem_append.mpr ⟨hbefore, hafter⟩, hlast⟩

end Walks

end Flow

end Walking

end Fleet
