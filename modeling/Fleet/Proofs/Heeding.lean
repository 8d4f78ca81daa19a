import Fleet.Proofs.Routine

/-!
# Listeners that throw nothing

A conversation is heeded if no listener throws in it; setters, collectors and units may. What only
passes events on and writes log lines returns in such a conversation.
-/

namespace Fleet

variable {E : Interface}

namespace Session

/-- What was told to a listener was taken. -/
def Exchange.Heeded (exchange : Exchange (World E)) : Prop :=
  match exchange.question, exchange.answer with
  | .inl (.send ..), answer => answer = .ok ()
  | _, _ => True

/-- No listener throws. -/
def Heeded (trace : List (Exchange (World E))) : Prop :=
  ∀ exchange ∈ trace, exchange.Heeded

variable {before after trace : List (Exchange (World E))}

/-- A conversation is heeded if both parts of it are. -/
theorem heeded_append : Heeded (before ++ after) ↔ Heeded before ∧ Heeded after :=
  List.forall_mem_append

/-- In a calm conversation no listener throws, among others. -/
theorem Calm.heeded (h : Calm trace) : Heeded trace := by
  intro exchange hexchange
  have hreturned := h exchange hexchange
  obtain ⟨question | errand, answer⟩ := exchange
  · cases question <;> first | exact hreturned | trivial
  · trivial

end Session

namespace Flow

variable {S : Type} {α : Type}

/-- The law to throw only what a listener throws. -/
def Law.heeding (E : Interface) (S : Type) : Law E S where
  asks _ := True
  moves _ _ := True
  returns := Session.Heeded
  stays _ := trivial
  goes_on _ _ := trivial
  returns_of_append hheeded := (Session.heeded_append.mp hheeded).2

/-- The computation throws only what a listener throws. -/
def Heeding (flow : Flow E S α) : Prop :=
  flow.Obeys (.heeding E S)

private theorem Heeding.send {outlet : Nat} {event : Event} :
    (Flow.send outlet event : Flow E S Unit).Heeding :=
  Obeys.resume_request trivial fun _ hheeded => ⟨(), hheeded _ List.mem_cons_self⟩

end Flow

/-- Whoever delivers an event throws only what a listener throws. -/
theorem Network.delivery_heeding : Delivery (Flow.Law.heeding E Network) where
  moves _ _ := trivial
  send _ _ := Flow.Heeding.send
  save _ _ _ _ := trivial
  hook _ _ := trivial
  log _ _ := trivial

end Fleet
