import Fleet.Proofs.Conversation

/-!
# Laws

A law says what a computation may ask, how it may change the state, and in which conversations it
has to return. What is built of computations that obey a law obeys the law, so what a computation
never does is read off its text. A conversation that changes no state is judged by its questions
alone.
-/

namespace Fleet

namespace Session

variable {Q : Interface} {α β : Type}

/-- Every question of the session is of this kind. -/
def Asks (kind : Q.Question → Prop) (session : Session Q α) : Prop :=
  ∀ ⦃trace result⦄, session.Path trace result → ∀ exchange ∈ trace, kind exchange.question

namespace Asks

variable {kind : Q.Question → Prop}

/-- Every session asks something of some kind, if anything. -/
protected theorem trivial (session : Session Q α) : Asks (fun _ => True) session :=
  fun _ _ _ _ _ => True.intro

/-- To return asks nothing. -/
protected theorem pure (a : α) : Asks kind (Pure.pure a : Session Q α) := by
  intro trace result h
  obtain ⟨rfl, -⟩ := path_pure.mp h
  exact List.forall_mem_nil _

/-- Two sessions in a row ask what each of them asks. -/
protected theorem bind {session : Session Q α} {f : α → Session Q β} (hsession : Asks kind session)
    (hf : ∀ a, Asks kind (f a)) : Asks kind (session >>= f) := by
  intro trace result h
  obtain ⟨a, before, after, rfl, hfirst, hsecond⟩ := path_seq.mp h
  exact List.forall_mem_append.mpr ⟨hsession hfirst, hf a hsecond⟩

/-- What asks only questions of one kind asks only questions of any wider kind. -/
theorem mono {other : Q.Question → Prop} {session : Session Q α} (h : Asks kind session)
    (hkind : ∀ question, kind question → other question) : Asks other session := by
  intro trace result hpath exchange hexchange
  exact hkind _ (h hpath exchange hexchange)

end Asks

variable {E : Interface} {kind : (World E).Question → Prop}

/-- To put one question is to ask this question. -/
theorem Asks.request {question : Request} (h : kind (.inl question)) :
    Asks kind (Fleet.request question : Work E question.Answer) := by
  intro trace result hpath
  obtain rfl := Flow.path_request.mp hpath
  exact List.forall_mem_singleton.mpr h

/-- Most kinds of log lines are told by the event alone. -/
theorem Asks.logLine {level : LogLevel} {owner component event message : String}
    (h : ∀ entry : LogEntry, entry.event = event → kind (.inl (.log entry))) :
    Asks kind (Fleet.logLine level owner component event message : Work E Unit) :=
  request (h _ rfl)

end Session

namespace Flow

variable {E : Interface} {S T : Type} {α β : Type}

/-- What a computation may do. -/
structure Law (E : Interface) (S : Type) where
  /-- The questions it may ask. -/
  asks : (World E).Question → Prop
  /-- The states to which it may get from a state. -/
  moves : S → S → Prop
  /-- The conversations in which it has to return. -/
  returns : List (Session.Exchange (World E)) → Prop
  stays : ∀ s, moves s s
  goes_on : ∀ {first mid last}, moves first mid → moves mid last → moves first last
  returns_of_append : ∀ {before after}, returns (before ++ after) → returns after

/-- A computation that had this conversation and ended so between these states kept to the law. -/
structure Law.Holds (law : Law E S) (first : S) (trace : List (Session.Exchange (World E)))
    (result : Except Thrown α) (last : S) : Prop where
  asked : ∀ exchange ∈ trace, law.asks exchange.question
  moved : law.moves first last
  returned : law.returns trace → ∃ a, result = .ok a

/-- A law under which anything may be thrown at any time. -/
class Law.Lax (law : Law E S) : Prop where
  not_returns : ∀ trace, ¬law.returns trace

/-- What a law about a part of the state is for the whole. -/
def Law.comap (part : S → T) (law : Law E T) : Law E S where
  asks := law.asks
  moves first last := law.moves (part first) (part last)
  returns := law.returns
  stays s := law.stays (part s)
  goes_on := law.goes_on
  returns_of_append := law.returns_of_append

instance Law.lax_comap {part : S → T} {law : Law E T} [hlax : law.Lax] : (law.comap part).Lax :=
  ⟨hlax.not_returns⟩

/-- Whatever the computation is answered, it keeps to the law. -/
def Obeys (law : Law E S) (flow : Flow E S α) : Prop :=
  ∀ ⦃first trace result last⦄, flow.Ends first trace result last →
    law.Holds first trace result last

namespace Law

variable {law : Law E S} {first mid last : S} {before after : List (Session.Exchange (World E))}

/-- Nothing said, nothing changed and something returned keeps to every law. -/
theorem holds_nil (a : α) : law.Holds first [] (.ok a) first :=
  ⟨List.forall_mem_nil _, law.stays first, fun _ => ⟨a, rfl⟩⟩

private theorem holds_ask {question : (World E).Question} {answer : (World E).Answer question}
    (h : law.asks question) (a : α) : law.Holds first [⟨question, answer⟩] (.ok a) first :=
  ⟨List.forall_mem_singleton.mpr h, law.stays first, fun _ => ⟨a, rfl⟩⟩

private theorem holds_nil_of_lax [law.Lax] (result : Except Thrown α) :
    law.Holds first [] result first :=
  ⟨List.forall_mem_nil _, law.stays first, fun h => absurd h (Lax.not_returns _)⟩

/-- What goes on by the law from where it was kept keeps to the law. -/
theorem Holds.append {a : α} {result : Except Thrown β} (h : law.Holds first before (.ok a) mid)
    (hrest : law.Holds mid after result last) : law.Holds first (before ++ after) result last where
  asked := List.forall_mem_append.mpr ⟨h.asked, hrest.asked⟩
  moved := law.goes_on h.moved hrest.moved
  returned hreturns := hrest.returned (law.returns_of_append hreturns)

/-- What has thrown can throw on. -/
theorem Holds.error {thrown : Thrown}
    (h : law.Holds first before (.error thrown : Except Thrown α) last) :
    law.Holds first before (.error thrown : Except Thrown β) last where
  asked := h.asked
  moved := h.moved
  returned hreturns := by
    obtain ⟨a, hnot⟩ := h.returned hreturns
    cases hnot

/-- Whoever catches what was thrown keeps to the law. -/
theorem Holds.caught {result : Except Thrown α} (h : law.Holds first before result last) (b : β) :
    law.Holds first before (.ok b) last :=
  ⟨h.asked, h.moved, fun _ => ⟨b, rfl⟩⟩

end Law

namespace Obeys

variable {law : Law E S}

/-- To return obeys every law. -/
protected theorem pure (a : α) : Obeys law (Pure.pure a : Flow E S α) := by
  intro first trace result last h
  obtain ⟨rfl, rfl, rfl⟩ := ends_pure.mp h
  exact Law.holds_nil a

/-- A sequence obeys a law if its parts do. -/
protected theorem bind {flow : Flow E S α} {f : α → Flow E S β} (hflow : Obeys law flow)
    (hf : ∀ a, Obeys law (f a)) : Obeys law (flow >>= f) := by
  intro first trace result last h
  rcases ends_bind.mp h with ⟨thrown, hthrown, rfl⟩ | ⟨a, before, after, mid, rfl, hfirst, hrest⟩
  · exact (hflow hthrown).error
  · exact (hflow hfirst).append (hf a hrest)

/-- To look at the state is against no law. -/
protected theorem get : Obeys law (get : Flow E S S) := by
  intro first trace result last h
  obtain ⟨rfl, rfl, rfl⟩ := ends_get.mp h
  exact Law.holds_nil last

/-- A change obeys a law that has it as a move from every state. -/
protected theorem modify {f : S → S} (h : ∀ s, law.moves s (f s)) :
    Obeys law (modify f : Flow E S PUnit) := by
  intro first trace result last hends
  obtain ⟨rfl, rfl, rfl⟩ := ends_modify.mp hends
  exact ⟨List.forall_mem_nil _, h first, fun _ => ⟨⟨⟩, rfl⟩⟩

/-- Work on several items obeys a law if the work on each one does. -/
protected theorem forM {items : List β} {f : β → Flow E S PUnit} (h : ∀ item, Obeys law (f item)) :
    Obeys law (items.forM f) := by
  induction items with
  | nil => exact .pure _
  | cons item rest ih => exact .bind (h item) fun _ => ih

/-- A conversation that changes no state obeys a law that has all its questions. -/
theorem work {session : Work E α} (h : session.Asks law.asks) :
    Obeys law (Flow.work session : Flow E S α) := by
  intro first trace result last hends
  obtain ⟨a, hpath, rfl, rfl⟩ := ends_work.mp hends
  exact ⟨h hpath, law.stays last, fun _ => ⟨a, rfl⟩⟩

/-- A question obeys a law that has it. -/
theorem request {question : Request} (h : law.asks (.inl question)) :
    Obeys law (Flow.request question : Flow E S question.Answer) :=
  work (.request h)

/-- A log line obeys a law that has all lines of its event. -/
theorem log {level : LogLevel} {owner component event message : String}
    (h : ∀ entry : LogEntry, entry.event = event → law.asks (.inl (.log entry))) :
    Obeys law (Flow.log level owner component event message : Flow E S Unit) :=
  work (.logLine h)

/-- To catch what is thrown is against no law. -/
theorem attempt {flow : Flow E S α} (h : Obeys law flow) : Obeys law (Flow.attempt flow) := by
  intro first trace result last hends
  obtain ⟨attempted, hflow, rfl⟩ := ends_attempt.mp hends
  exact (h hflow).caught attempted

/-- Work on a part of the state obeys what its own law comes to for the whole. -/
theorem within {inner : Law E T} {part : S → T} {replace : S → T → S} {flow : Flow E T α}
    (h : Obeys inner flow) (hasks : ∀ question, inner.asks question → law.asks question)
    (hmoves : ∀ s t, inner.moves (part s) t → law.moves s (replace s t))
    (hreturns : ∀ trace, law.returns trace → inner.returns trace) :
    Obeys law (Flow.within part replace flow) := by
  intro first trace result last hends
  obtain ⟨t, hflow, rfl⟩ := ends_within.mp hends
  obtain ⟨hasked, hmoved, hreturned⟩ := h hflow
  exact ⟨fun exchange hexchange => hasks _ (hasked exchange hexchange), hmoves first t hmoved,
    fun hlaw => hreturned (hreturns trace hlaw)⟩

/-- Work on a part of the state obeys for the whole what it obeys on the part. -/
theorem comap {inner : Law E T} {part : S → T} {replace : S → T → S} {flow : Flow E T α}
    (h : Obeys inner flow) (hpart : ∀ s t, part (replace s t) = t) :
    Obeys (inner.comap part) (Flow.within part replace flow) :=
  h.within (fun _ => id) (fun s t hmoves => by simpa only [Law.comap, hpart] using hmoves)
    fun _ => id

/-- To throw what one is answered is no fault where the law lets one be answered so. -/
theorem resume_request {question : Request} {read : question.Answer → Except Thrown α}
    (h : law.asks (.inl question))
    (hread : ∀ answer, law.returns [⟨.inl question, answer⟩] → ∃ a, read answer = .ok a) :
    Obeys law (Flow.request question >>= fun answer => Flow.resume (read answer)) := by
  intro first trace result last hends
  obtain ⟨answer, rest, rfl, hresumed⟩ := ends_request_bind.mp hends
  obtain ⟨rfl, rfl, rfl⟩ := ends_resume.mp hresumed
  exact ⟨List.forall_mem_singleton.mpr h, law.stays last, hread answer⟩

section Lax

variable [law.Lax]

/-- Where everything may be thrown, a finished attempt may be resumed. -/
theorem resume (attempted : Except Thrown α) :
    Obeys law (Flow.resume attempted : Flow E S α) := by
  intro first trace result last h
  obtain ⟨rfl, rfl, rfl⟩ := ends_resume.mp h
  exact Law.holds_nil_of_lax result

/-- Where everything may be thrown, an event may be sent if the law has the question. -/
theorem send {outlet : Nat} {event : Event} (h : law.asks (.inl (.send outlet event))) :
    Obeys law (Flow.send outlet event : Flow E S Unit) :=
  .bind (request h) fun _ => resume _

/-- A performance obeys the law if its stage does, where the law lets it run its errands. -/
theorem perform {act : StageRequest → Flow E S Unit} (hact : ∀ question, Obeys law (act question))
    (herrands : ∀ errand : E.Question, law.asks (.inr errand))
    (performance : Performance E (Except Thrown α)) : Obeys law (Flow.perform act performance) := by
  intro first trace result last h
  induction performance generalizing first trace with
  | done ended =>
    obtain ⟨rfl, hlast⟩ := Session.path_pure.mp h
    obtain ⟨rfl, rfl⟩ := Prod.mk.inj hlast
    exact Law.holds_nil_of_lax result
  | ask question next ih =>
    obtain ⟨⟨answer, mid⟩, before, after, rfl, hasked, hrest⟩ := Session.path_seq.mp h
    cases question with
    | inl question =>
      have hended : (act question).Ends first before answer mid := hasked
      exact ((hact question hended).caught ()).append (ih answer hrest)
    | inr errand =>
      obtain ⟨_, _, rfl, hdone⟩ := Session.path_ask.mp hasked
      obtain ⟨rfl, hmid⟩ := Session.path_done.mp hdone
      obtain ⟨-, rfl⟩ := Prod.mk.inj hmid
      exact (Law.holds_ask (herrands errand) ()).append (ih answer hrest)

end Lax

end Obeys

section Asking

variable {kind other : (World E).Question → Prop}

/-- The law to ask only questions of this kind. -/
def Law.asking (S : Type) (kind : (World E).Question → Prop) : Law E S where
  asks := kind
  moves _ _ := True
  returns _ := False
  stays _ := trivial
  goes_on _ _ := trivial
  returns_of_append := id

instance Law.lax_asking : (Law.asking S kind).Lax :=
  ⟨fun _ => id⟩

/-- Every question of the computation is of this kind. -/
def Asks (kind : (World E).Question → Prop) (flow : Flow E S α) : Prop :=
  flow.Obeys (.asking S kind)

/-- What a computation asks is a matter of its conversations alone. -/
theorem asks_iff {flow : Flow E S α} :
    flow.Asks kind ↔ ∀ ⦃first trace result last⦄, flow.Ends first trace result last →
      ∀ exchange ∈ trace, kind exchange.question :=
  ⟨fun h _ _ _ _ hends => (h hends).asked,
    fun h _ _ _ _ hends => ⟨h hends, trivial, nofun⟩⟩

/-- What asks only questions of one kind asks only questions of any wider kind. -/
theorem Asks.mono {flow : Flow E S α} (h : flow.Asks kind)
    (hkind : ∀ question, kind question → other question) : flow.Asks other :=
  asks_iff.mpr fun _ _ _ _ hends exchange hexchange => hkind _ ((h hends).asked exchange hexchange)

/-- Work on a part of the state asks what it asks. -/
theorem Asks.within {part : S → T} {replace : S → T → S} {flow : Flow E T α} (h : flow.Asks kind) :
    (Flow.within part replace flow).Asks kind :=
  Obeys.within h (fun _ => id) (fun _ _ => id) fun _ => id

end Asking

section Keeping

variable {kept : S → Prop}

/-- The law to keep what is so as it is. -/
def Law.keeping (E : Interface) (kept : S → Prop) : Law E S where
  asks _ := True
  moves first last := kept first → kept last
  returns _ := False
  stays _ := id
  goes_on h hrest hfirst := hrest (h hfirst)
  returns_of_append := id

instance Law.lax_keeping : (Law.keeping E kept).Lax :=
  ⟨fun _ => id⟩

/-- What is so before the computation is so after it. -/
def Keeps (kept : S → Prop) (flow : Flow E S α) : Prop :=
  flow.Obeys (.keeping E kept)

/-- What a computation keeps is a matter of its first and last states alone. -/
theorem keeps_iff {flow : Flow E S α} :
    flow.Keeps kept ↔ ∀ ⦃first trace result last⦄, flow.Ends first trace result last →
      kept first → kept last :=
  ⟨fun h _ _ _ _ hends => (h hends).moved,
    fun h _ _ _ _ hends => ⟨fun _ _ => trivial, h hends, nofun⟩⟩

/-- Work on a part of the state keeps what it keeps of the part. -/
theorem Keeps.within {part : S → T} {replace : S → T → S} {keptPart : T → Prop} {flow : Flow E T α}
    (h : flow.Keeps keptPart) (hpart : ∀ s, kept s → keptPart (part s))
    (hreplace : ∀ s t, keptPart t → kept (replace s t)) :
    (Flow.within part replace flow).Keeps kept :=
  Obeys.within h (fun _ => id) (fun s t hinner hs => hreplace s t (hinner (hpart s hs))) fun _ => id

end Keeping

end Flow

end Fleet
