import Fleet.Proofs.Conversation

/-!
# Sessions that differ in remarks

Two sessions can ask the same, except that the first makes remarks in between: questions of a kind
whose answers do not matter. Then the conversations of the second are those of the first without the
remarks. `Session.Remarks` says so of sessions as they are built, and `Flow.Remarks` of computations
over states that need not be the same, with one lemma for each way to build one.
-/

namespace Fleet

/-- Which questions are remarks, and which are asked by both of two sessions. -/
structure Manner (Q : Interface) where
  remark : Q.Question → Bool
  shared : Q.Question → Prop
  /-- What both ask is no remark. -/
  apart : ∀ question, shared question → remark question = false
  /-- Whoever is told a remark can answer. -/
  answered : ∀ question, remark question = true → Nonempty (Q.Answer question)

namespace Session

variable {Q : Interface} {manner : Manner Q} {α β γ δ : Type}

/-- The first session asks what the second one asks, and makes remarks in between; what they end
with is related. -/
inductive Remarks (manner : Manner Q) (related : α → β → Prop) :
    Session Q α → Session Q β → Prop where
  | done {a : α} {b : β} (h : related a b) : Remarks manner related (.done a) (.done b)
  | ask {question : Q.Question} {next : Q.Answer question → Session Q α}
      {other : Q.Answer question → Session Q β} (h : manner.shared question)
      (rest : ∀ answer, Remarks manner related (next answer) (other answer)) :
      Remarks manner related (.ask question next) (.ask question other)
  | remark {question : Q.Question} {next : Q.Answer question → Session Q α}
      {other : Session Q β} (h : manner.remark question = true)
      (rest : ∀ answer, Remarks manner related (next answer) other) :
      Remarks manner related (.ask question next) other

/-- What is said in a conversation apart from remarks. -/
def unremarked (manner : Manner Q) (trace : List (Exchange Q)) : List (Exchange Q) :=
  trace.filter fun exchange => !manner.remark exchange.question

namespace Remarks

variable {related : α → β → Prop} {next : γ → δ → Prop} {session : Session Q α}
  {other : Session Q β} {trace : List (Exchange Q)}

private theorem bind {f : α → Session Q γ} {g : β → Session Q δ}
    (h : Remarks manner related session other)
    (hrest : ∀ a b, related a b → Remarks manner next (f a) (g b)) :
    Remarks manner next (session.bind f) (other.bind g) := by
  induction h with
  | done hrelated => exact hrest _ _ hrelated
  | ask hshared _ ih => exact .ask hshared ih
  | remark hremark _ ih => exact .remark hremark ih

/-- Without its remarks, a conversation of the first session is one of the second. -/
theorem path_unremarked (h : Remarks manner related session other) {a : α}
    (hpath : session.Path trace a) :
    ∃ b, other.Path (unremarked manner trace) b ∧ related a b := by
  induction h generalizing trace with
  | done hrelated =>
    obtain ⟨rfl, rfl⟩ := path_done.mp hpath
    exact ⟨_, .done _, hrelated⟩
  | @ask question next other hshared _ ih =>
    obtain ⟨answer, rest, rfl, hrest⟩ := path_ask.mp hpath
    obtain ⟨b, hb, hrelated⟩ := ih answer hrest
    refine ⟨b, ?_, hrelated⟩
    rw [unremarked, List.filter_cons_of_pos (by simp [manner.apart question hshared])]
    exact .ask hb
  | @remark question next other hremark _ ih =>
    obtain ⟨answer, rest, rfl, hrest⟩ := path_ask.mp hpath
    obtain ⟨b, hb, hrelated⟩ := ih answer hrest
    refine ⟨b, ?_, hrelated⟩
    rw [unremarked, List.filter_cons_of_neg (by simp [hremark])]
    exact hb

/-- Every conversation of the second session is one of the first without its remarks. -/
theorem exists_path (h : Remarks manner related session other) {b : β}
    (hpath : other.Path trace b) :
    ∃ whole a, session.Path whole a ∧ trace = unremarked manner whole ∧ related a b := by
  induction h generalizing trace with
  | done hrelated =>
    obtain ⟨rfl, rfl⟩ := path_done.mp hpath
    exact ⟨[], _, .done _, rfl, hrelated⟩
  | @ask question next other hshared _ ih =>
    obtain ⟨answer, rest, rfl, hrest⟩ := path_ask.mp hpath
    obtain ⟨whole, a, ha, rfl, hrelated⟩ := ih answer hrest
    refine ⟨⟨question, answer⟩ :: whole, a, .ask ha, ?_, hrelated⟩
    rw [unremarked, unremarked,
      List.filter_cons_of_pos (by simp [manner.apart question hshared])]
  | @remark question next other hremark _ ih =>
    obtain ⟨answer⟩ := manner.answered question hremark
    obtain ⟨whole, a, ha, rfl, hrelated⟩ := ih answer hpath
    refine ⟨⟨question, answer⟩ :: whole, a, .ask ha, ?_, hrelated⟩
    rw [unremarked, unremarked, List.filter_cons_of_neg (by simp [hremark])]

/-- All that the first session asks is a remark or is asked by both. -/
theorem asks (h : Remarks manner related session other) {a : α} (hpath : session.Path trace a) :
    ∀ exchange ∈ trace,
      manner.remark exchange.question = true ∨ manner.shared exchange.question := by
  induction h generalizing trace with
  | done =>
    obtain ⟨rfl, rfl⟩ := path_done.mp hpath
    exact List.forall_mem_nil _
  | ask hshared _ ih =>
    obtain ⟨answer, rest, rfl, hrest⟩ := path_ask.mp hpath
    exact List.forall_mem_cons.mpr ⟨.inr hshared, ih answer hrest⟩
  | remark hremark _ ih =>
    obtain ⟨answer, rest, rfl, hrest⟩ := path_ask.mp hpath
    exact List.forall_mem_cons.mpr ⟨.inl hremark, ih answer hrest⟩

end Remarks

end Session

namespace Flow

variable {E : Interface} {manner : Manner (World E)} {S : Type} {related : S → S → Prop}
  {α β : Type}

/-- From these states the first computation asks what the second one asks, and makes remarks in
between; they end alike, in related states. -/
def Remarks (manner : Manner (World E)) (related : S → S → Prop) (flow other : Flow E S α)
    (first second : S) : Prop :=
  Session.Remarks manner (fun ended last => ended.1 = last.1 ∧ related ended.2 last.2)
    (flow.run.run first) (other.run.run second)

namespace Remarks

variable {first second : S}

/-- Who returns the same makes no remark. -/
theorem pure (h : related first second) (a : α) :
    Remarks manner related (Pure.pure a : Flow E S α) (Pure.pure a) first second :=
  .done ⟨rfl, h⟩

/-- Who throws the same makes no remark. -/
theorem throw (h : related first second) (thrown : Thrown) :
    Remarks manner related (MonadExcept.throw thrown : Flow E S α) (MonadExcept.throw thrown)
      first second :=
  .done ⟨rfl, h⟩

/-- Remarks in the first or the second part are remarks in the whole. -/
theorem bind {flow other : Flow E S α} {f g : α → Flow E S β}
    (h : Remarks manner related flow other first second)
    (hrest : ∀ a last following, related last following →
      Remarks manner related (f a) (g a) last following) :
    Remarks manner related (flow >>= f) (other >>= g) first second := by
  refine Session.Remarks.bind h ?_
  rintro ⟨ended, last⟩ ⟨_, following⟩ ⟨rfl, hlast⟩
  cases ended with
  | ok a => exact hrest a last following hlast
  | error thrown => exact .done ⟨rfl, hlast⟩

/-- Both may go on by what they find in their own state. -/
theorem get_bind {f g : S → Flow E S β}
    (h : Remarks manner related (f first) (g second) first second) :
    Remarks manner related (get >>= f) (get >>= g) first second :=
  h

/-- The first one may look at its state on its own. -/
theorem get_bind_left {f : S → Flow E S β} {other : Flow E S β}
    (h : Remarks manner related (f first) other first second) :
    Remarks manner related (get >>= f) other first second :=
  h

/-- Changes that lead to related states are no difference. -/
theorem modify {change other : S → S} (h : related (change first) (other second)) :
    Remarks manner related (modify change : Flow E S PUnit) (modify other) first second :=
  .done ⟨rfl, h⟩

/-- A shared question is asked by both, and the same answer is given to both. -/
theorem request (h : related first second) {question : Request}
    (hshared : manner.shared (.inl question)) :
    Remarks manner related (request question : Flow E S question.Answer) (request question)
      first second :=
  .ask hshared fun _ => .done ⟨rfl, h⟩

/-- A shared log line is written by both. -/
theorem log (h : related first second) {level : LogLevel} {trace component event message : String}
    (hshared : manner.shared (.inl (.log { level, trace, component, event, message }))) :
    Remarks manner related (log level trace component event message : Flow E S Unit)
      (log level trace component event message) first second :=
  request h hshared

/-- A log line that is a remark changes nothing. -/
theorem log_bind {level : LogLevel} {trace component event message : String}
    {f : Unit → Flow E S α} {other : Flow E S α}
    (hremark : manner.remark (.inl (.log { level, trace, component, event, message })) = true)
    (h : Remarks manner related (f ()) other first second) :
    Remarks manner related (Flow.log level trace component event message >>= f) other first
      second :=
  .remark hremark fun _ => h

/-- Both resume the same attempt alike. -/
theorem resume (h : related first second) (attempted : Except Thrown α) :
    Remarks manner related (resume attempted : Flow E S α) (resume attempted) first second := by
  cases attempted with
  | ok a => exact pure h a
  | error thrown => exact throw h thrown

/-- Attempts differ by the remarks of what they attempt. -/
theorem attempt {flow other : Flow E S α} (h : Remarks manner related flow other first second) :
    Remarks manner related (attempt flow) (attempt other) first second := by
  refine Session.Remarks.bind h ?_
  rintro ⟨ended, last⟩ ⟨_, following⟩ ⟨rfl, hlast⟩
  exact .done ⟨rfl, hlast⟩

/-- Work on the same items differs by the remarks made about each one. -/
theorem forM {items : List β} {f g : β → Flow E S PUnit} (h : related first second)
    (hitems : ∀ item ∈ items, ∀ last following, related last following →
      Remarks manner related (f item) (g item) last following) :
    Remarks manner related (items.forM f) (items.forM g) first second := by
  induction items generalizing first second with
  | nil => exact pure h _
  | cons item rest ih =>
    obtain ⟨hitem, hrest⟩ := List.forall_mem_cons.mp hitems
    exact bind (hitem first second h) fun _ _ _ hlast => ih hlast hrest

/-- A performance makes no remarks of its own. -/
theorem perform {act other : StageRequest → Flow E S Unit} (h : related first second)
    (hact : ∀ question last following, related last following →
      Remarks manner related (act question) (other question) last following)
    (herrands : ∀ errand : E.Question, manner.shared (.inr errand))
    (performance : Performance E (Except Thrown α)) :
    Remarks manner related (perform act performance) (perform other performance) first second := by
  induction performance generalizing first second with
  | done ended => exact .done ⟨rfl, h⟩
  | ask question next ih =>
    cases question with
    | inl question =>
      refine Session.Remarks.bind (hact question first second h) ?_
      rintro ⟨answer, last⟩ ⟨_, following⟩ ⟨rfl, hlast⟩
      exact ih answer hlast
    | inr errand => exact .ask (herrands errand) fun answer => ih answer h

end Remarks

end Flow

end Fleet
