import Fleet.Flow

/-!
# Conversations of composed sessions

What a session can say is read off its parts: every conversation of a session that goes on with
the result of another one splits where the first one ends. `Flow.Ends` is the same relation for
computations over a state that may throw, with one inversion lemma for each way to build one.
-/

namespace Fleet

namespace Session

variable {Q : Interface} {α β : Type} {trace : List (Exchange Q)}

@[simp] theorem path_done {a result : α} :
    (Session.done a : Session Q α).Path trace result ↔ trace = [] ∧ result = a := by
  constructor
  · rintro ⟨⟩
    exact ⟨rfl, rfl⟩
  · rintro ⟨rfl, rfl⟩
    exact .done _

@[simp] theorem path_pure {a result : α} :
    (pure a : Session Q α).Path trace result ↔ trace = [] ∧ result = a :=
  path_done

/-- To return a pair says nothing and gives both parts. -/
theorem path_pure_pair {a first : α} {b second : β} :
    (pure (a, b) : Session Q (α × β)).Path trace (first, second) ↔
      trace = [] ∧ first = a ∧ second = b := by
  rw [path_pure, Prod.mk.injEq]

/-- A conversation that begins with a question goes on with the answer. -/
theorem path_ask {question : Q.Question} {next : Q.Answer question → Session Q α} {result : α} :
    (Session.ask question next).Path trace result ↔
      ∃ answer rest, trace = ⟨question, answer⟩ :: rest ∧ (next answer).Path rest result := by
  constructor
  · intro h
    cases h with
    | ask rest => exact ⟨_, _, rfl, rest⟩
  · rintro ⟨answer, rest, rfl, h⟩
    exact .ask h

/-- A conversation of a composed session is one of its first part, then one of its second. -/
theorem path_bind {session : Session Q α} {f : α → Session Q β} {result : β} :
    (session.bind f).Path trace result ↔
      ∃ a before after, trace = before ++ after ∧ session.Path before a ∧
        (f a).Path after result := by
  induction session generalizing trace with
  | done a =>
    simp only [Session.bind, path_done]
    constructor
    · exact fun h => ⟨a, [], trace, rfl, ⟨rfl, rfl⟩, h⟩
    · rintro ⟨_, _, after, rfl, ⟨rfl, rfl⟩, h⟩
      exact h
  | ask question next ih =>
    simp only [Session.bind, path_ask, ih]
    constructor
    · rintro ⟨answer, _, rfl, a, before, after, rfl, hfirst, hsecond⟩
      exact ⟨a, ⟨question, answer⟩ :: before, after, rfl, ⟨answer, before, rfl, hfirst⟩, hsecond⟩
    · rintro ⟨a, _, after, rfl, ⟨answer, before, rfl, hfirst⟩, hsecond⟩
      exact ⟨answer, before ++ after, rfl, a, before, after, rfl, hfirst, hsecond⟩

private theorem path_map {session : Session Q α} {f : α → β} {result : β} :
    (session.bind fun a => .done (f a)).Path trace result ↔
      ∃ a, session.Path trace a ∧ result = f a := by
  rw [path_bind]
  constructor
  · rintro ⟨a, before, after, rfl, hsession, hdone⟩
    obtain ⟨rfl, rfl⟩ := path_done.mp hdone
    exact ⟨a, by rwa [List.append_nil], rfl⟩
  · rintro ⟨a, hsession, rfl⟩
    exact ⟨a, trace, [], (List.append_nil trace).symm, hsession, path_done.mpr ⟨rfl, rfl⟩⟩

/-- A conversation of two sessions in a row falls into one of each. -/
theorem path_seq {session : Session Q α} {f : α → Session Q β} {result : β} :
    (session >>= f).Path trace result ↔
      ∃ a before after, trace = before ++ after ∧ session.Path before a ∧
        (f a).Path after result :=
  path_bind

/-- A conversation determines what the session ends with. -/
theorem Path.unique {session : Session Q α} {result other : α} (h : session.Path trace result)
    (hother : session.Path trace other) : result = other := by
  induction h with
  | done result => exact (path_done.mp hother).2.symm
  | ask _ ih =>
    obtain ⟨answer, rest, hsame, hrest⟩ := path_ask.mp hother
    obtain ⟨hexchange, rfl⟩ := List.cons.inj hsame
    cases hexchange
    exact ih hrest

/-- The conversation with an outside that answers each question in its own way, and what the
session ends with in it. -/
def converse (answer : (question : Q.Question) → Q.Answer question) :
    Session Q α → List (Exchange Q) × α
  | .done result => ([], result)
  | .ask question next =>
    let rest := (next (answer question)).converse answer
    (⟨question, answer question⟩ :: rest.1, rest.2)

/-- Every outside can be talked to until the session ends. -/
theorem path_converse (answer : (question : Q.Question) → Q.Answer question)
    (session : Session Q α) :
    session.Path (session.converse answer).1 (session.converse answer).2 := by
  induction session with
  | done result => exact .done result
  | ask question next ih => exact .ask (ih (answer question))

/-- What holds of every answer of the outside holds of all that is said with it. -/
theorem forall_mem_converse {answer : (question : Q.Question) → Q.Answer question}
    {P : Exchange Q → Prop} (h : ∀ question, P ⟨question, answer question⟩)
    (session : Session Q α) : ∀ exchange ∈ (session.converse answer).1, P exchange := by
  induction session with
  | done result => simp [converse]
  | ask question next ih => exact List.forall_mem_cons.mpr ⟨h question, ih _⟩

section Outside

variable {E : Interface} {trace : List (Exchange (World E))} {result : α}

/-- What follows a question goes on with the answer. -/
theorem path_request_bind {question : Request} {f : question.Answer → Work E α} :
    (Fleet.request question >>= f).Path trace result ↔
      ∃ answer rest, trace = ⟨.inl question, answer⟩ :: rest ∧ (f answer).Path rest result :=
  path_ask

/-- What follows a log line goes on after it. -/
theorem path_logLine_bind {level : LogLevel} {owner component event message : String}
    {f : Unit → Work E α} :
    (logLine level owner component event message >>= f).Path trace result ↔
      ∃ rest, trace = ⟨.inl (.log ⟨level, owner, component, event, message⟩), ()⟩ :: rest ∧
        (f ()).Path rest result := by
  rw [logLine, path_request_bind]
  constructor
  · rintro ⟨⟨⟩, rest, rfl, hrest⟩
    exact ⟨rest, rfl, hrest⟩
  · rintro ⟨rest, rfl, hrest⟩
    exact ⟨(), rest, rfl, hrest⟩

end Outside

end Session

namespace Flow

variable {E : Interface} {S T : Type} {α β : Type}

/-- The computation can have this conversation from the first state, ending with the result in the
last state. -/
def Ends (flow : Flow E S α) (first : S) (trace : List (Session.Exchange (World E)))
    (result : Except Thrown α) (last : S) : Prop :=
  (flow.run.run first).Path trace (result, last)

variable {first last : S} {trace : List (Session.Exchange (World E))}

/-- Every outside can be talked to until the computation ends. -/
theorem ends_converse (answer : (question : (World E).Question) → (World E).Answer question)
    (flow : Flow E S α) :
    flow.Ends first ((flow.run.run first).converse answer).1
      ((flow.run.run first).converse answer).2.1 ((flow.run.run first).converse answer).2.2 :=
  Session.path_converse _ _

@[simp] theorem ends_pure {a : α} {result : Except Thrown α} :
    (pure a : Flow E S α).Ends first trace result last ↔
      trace = [] ∧ result = .ok a ∧ last = first := by
  simp [Ends]

@[simp] theorem ends_throw {thrown : Thrown} {result : Except Thrown α} :
    (throw thrown : Flow E S α).Ends first trace result last ↔
      trace = [] ∧ result = .error thrown ∧ last = first := by
  simp [Ends]

/-- A composed computation ends where its first part throws, or where its second part ends. -/
theorem ends_bind {flow : Flow E S α} {f : α → Flow E S β} {result : Except Thrown β} :
    (flow >>= f).Ends first trace result last ↔
      (∃ thrown, flow.Ends first trace (.error thrown) last ∧ result = .error thrown) ∨
      ∃ a before after mid, trace = before ++ after ∧ flow.Ends first before (.ok a) mid ∧
        (f a).Ends mid after result last := by
  simp only [Ends, ExceptT.run_bind, StateT.run_bind, Session.path_seq]
  constructor
  · rintro ⟨⟨thrown | a, mid⟩, before, after, rfl, hfirst, hsecond⟩
    · obtain ⟨rfl, h⟩ := Session.path_pure.mp hsecond
      obtain ⟨rfl, rfl⟩ := Prod.mk.inj h
      exact .inl ⟨thrown, by simpa using hfirst, rfl⟩
    · exact .inr ⟨a, before, after, mid, rfl, hfirst, hsecond⟩
  · rintro (⟨thrown, hfirst, rfl⟩ | ⟨a, before, after, mid, rfl, hfirst, hsecond⟩)
    · exact ⟨(.error thrown, last), trace, [], by simp, hfirst, Session.path_pure.mpr ⟨rfl, rfl⟩⟩
    · exact ⟨(.ok a, mid), before, after, rfl, hfirst, hsecond⟩

/-- To look at the state says nothing and changes nothing. -/
theorem ends_get {result : Except Thrown S} :
    (get : Flow E S S).Ends first trace result last ↔
      trace = [] ∧ result = .ok first ∧ last = first := by
  change (Session.done (.ok first, first)).Path trace (result, last) ↔ _
  simp

/-- To change the state says nothing and always returns. -/
theorem ends_modify {f : S → S} {result : Except Thrown PUnit} :
    (modify f : Flow E S PUnit).Ends first trace result last ↔
      trace = [] ∧ result = .ok ⟨⟩ ∧ last = f first := by
  change (Session.done (.ok ⟨⟩, f first)).Path trace (result, last) ↔ _
  simp

@[simp] theorem ends_get_bind {f : S → Flow E S β} {result : Except Thrown β} :
    (get >>= f).Ends first trace result last ↔ (f first).Ends first trace result last :=
  Iff.rfl

@[simp] theorem ends_modify_bind {g : S → S} {f : PUnit → Flow E S β}
    {result : Except Thrown β} :
    (modify g >>= f).Ends first trace result last ↔ (f ⟨⟩).Ends (g first) trace result last :=
  Iff.rfl

/-- A conversation without a state leaves the state as it is and always returns. -/
theorem ends_work {session : Work E α} {result : Except Thrown α} :
    (work session : Flow E S α).Ends first trace result last ↔
      ∃ a, session.Path trace a ∧ result = .ok a ∧ last = first := by
  change (session.bind fun a => .done (.ok a, first)).Path trace (result, last) ↔ _
  rw [Session.path_map]
  simp only [Prod.mk.injEq]

/-- An attempt ends where the computation does, and returns however that ended. -/
theorem ends_attempt {flow : Flow E S α} {result : Except Thrown (Except Thrown α)} :
    (attempt flow).Ends first trace result last ↔
      ∃ attempted, flow.Ends first trace attempted last ∧ result = .ok attempted := by
  change ((flow.run.run first).bind fun a => .done (.ok a.1, a.2)).Path trace (result, last) ↔ _
  rw [Session.path_map]
  constructor
  · rintro ⟨⟨attempted, mid⟩, hflow, h⟩
    obtain ⟨rfl, rfl⟩ := Prod.mk.inj h
    exact ⟨attempted, hflow, rfl⟩
  · rintro ⟨attempted, hflow, rfl⟩
    exact ⟨(attempted, last), hflow, rfl⟩

/-- What follows an attempt starts from where the attempt got. -/
theorem ends_attempt_bind {flow : Flow E S α} {f : Except Thrown α → Flow E S β}
    {result : Except Thrown β} :
    (attempt flow >>= f).Ends first trace result last ↔
      ∃ attempted before after mid, trace = before ++ after ∧ flow.Ends first before attempted mid ∧
        (f attempted).Ends mid after result last := by
  rw [ends_bind]
  constructor
  · rintro (⟨thrown, hthrown, -⟩ | ⟨attempted, before, after, mid, rfl, hflow, hrest⟩)
    · obtain ⟨_, -, hnot⟩ := ends_attempt.mp hthrown
      cases hnot
    · obtain ⟨_, hflow, hattempted⟩ := ends_attempt.mp hflow
      obtain rfl := Except.ok.inj hattempted
      exact ⟨attempted, before, after, mid, rfl, hflow, hrest⟩
  · rintro ⟨attempted, before, after, mid, rfl, hflow, hrest⟩
    exact .inr ⟨attempted, before, after, mid, rfl, ends_attempt.mpr ⟨attempted, hflow, rfl⟩, hrest⟩

/-- Work on a part of the state ends as it does on the part alone, which is then put back. -/
theorem ends_within {part : S → T} {replace : S → T → S} {flow : Flow E T α}
    {result : Except Thrown α} :
    (within part replace flow).Ends first trace result last ↔
      ∃ inner, flow.Ends (part first) trace result inner ∧ last = replace first inner := by
  change ((flow.run.run (part first)).bind fun a => .done (a.1, replace first a.2)).Path trace
    (result, last) ↔ _
  rw [Session.path_map]
  constructor
  · rintro ⟨⟨ended, inner⟩, hflow, h⟩
    obtain ⟨rfl, rfl⟩ := Prod.mk.inj h
    exact ⟨inner, hflow, rfl⟩
  · rintro ⟨inner, hflow, rfl⟩
    exact ⟨(result, inner), hflow, rfl⟩

@[simp] theorem ends_resume {attempted result : Except Thrown α} :
    (resume attempted : Flow E S α).Ends first trace result last ↔
      trace = [] ∧ result = attempted ∧ last = first := by
  cases attempted with
  | ok a => exact ends_pure
  | error thrown => exact ends_throw

/-- A request is one exchange, and its answer is what it gives. -/
theorem path_request {question : Request} {result : question.Answer} :
    (Fleet.request question : Work E question.Answer).Path trace result ↔
      trace = [⟨.inl question, result⟩] := by
  rw [Fleet.request, Session.path_ask]
  constructor
  · rintro ⟨answer, rest, rfl, hdone⟩
    obtain ⟨rfl, rfl⟩ := Session.path_done.mp hdone
    rfl
  · rintro rfl
    exact ⟨result, [], rfl, Session.path_done.mpr ⟨rfl, rfl⟩⟩

/-- A request always returns with its answer and changes no state. -/
theorem ends_request {question : Request} {result : Except Thrown question.Answer} :
    (request question : Flow E S question.Answer).Ends first trace result last ↔
      ∃ answer, trace = [⟨.inl question, answer⟩] ∧ result = .ok answer ∧ last = first := by
  simp only [request, ends_work, path_request]

/-- What follows a question goes on with the answer. -/
theorem ends_request_bind {question : Request} {f : question.Answer → Flow E S β}
    {result : Except Thrown β} :
    (request question >>= f).Ends first trace result last ↔
      ∃ answer rest, trace = ⟨.inl question, answer⟩ :: rest ∧
        (f answer).Ends first rest result last :=
  Session.path_ask

/-- A sent event is answered once, and what the listener throws is thrown. -/
theorem ends_send {outlet : Nat} {event : Event} {result : Except Thrown Unit}
    (h : (send outlet event : Flow E S Unit).Ends first trace result last) :
    trace = [⟨.inl (.send outlet event), result⟩] ∧ last = first := by
  obtain ⟨answer, rest, rfl, hresumed⟩ := ends_request_bind.mp h
  obtain ⟨rfl, rfl, rfl⟩ := ends_resume.mp hresumed
  exact ⟨rfl, rfl⟩

end Flow

end Fleet
