import Fleet.Proofs.Invocation.OpenRuns

/-!
# What units deal in

The errands of a conversation are told together with what came back from them. Neither a line of
listeners nor a buffer makes a difference to them. In a calm conversation a unit is heard from
beginning to end: what is sent to the outlet while it is executed is what it told, and then, if it
failed, what closes the runs it left open.
-/

namespace Fleet

variable {E : Interface}

namespace Session

variable {P : Interface}

/-- An errand with what came back from it. -/
def Exchange.dealing? : Exchange (P.sum E) → Option (Exchange E)
  | ⟨.inl _, _⟩ => none
  | ⟨.inr errand, answer⟩ => some ⟨errand, answer⟩

/-- The errands in a conversation with what came back from them. -/
def dealings (trace : List (Exchange (P.sum E))) : List (Exchange E) :=
  trace.filterMap Exchange.dealing?

@[simp] theorem dealings_nil : dealings ([] : List (Exchange (P.sum E))) = [] :=
  rfl

@[simp] theorem dealings_append (before after : List (Exchange (P.sum E))) :
    dealings (before ++ after) = dealings before ++ dealings after :=
  List.filterMap_append

@[simp] theorem dealings_request {question : P.Question} {answer : P.Answer question}
    {trace : List (Exchange (P.sum E))} :
    dealings (⟨.inl question, answer⟩ :: trace) = dealings trace :=
  rfl

@[simp] theorem dealings_errand {errand : E.Question} {answer : E.Answer errand}
    {trace : List (Exchange (P.sum E))} :
    dealings (⟨.inr errand, answer⟩ :: trace) = ⟨errand, answer⟩ :: dealings trace :=
  rfl

/-- Where no errand is run nothing is dealt in. -/
theorem dealings_of_errands_nil {trace : List (Exchange (P.sum E))} (h : errands trace = []) :
    dealings trace = [] := by
  refine List.filterMap_eq_nil_iff.mpr fun exchange hexchange => ?_
  have hnone := List.filterMap_eq_nil_iff.mp h exchange hexchange
  obtain ⟨question | errand, answer⟩ := exchange
  · rfl
  · cases hnone

private theorem errands_of_deeds_nil {trace : List (Exchange (World E))} (h : deeds trace = []) :
    errands trace = [] := by
  refine List.filterMap_eq_nil_iff.mpr fun exchange hexchange => ?_
  have hnone := List.filterMap_eq_nil_iff.mp h exchange hexchange
  obtain ⟨question | errand, answer⟩ := exchange
  · rfl
  · cases hnone

/-- Where nothing is done, nobody deals with anybody. -/
theorem dealings_of_deeds_nil {trace : List (Exchange (World E))} (h : deeds trace = []) :
    dealings trace = [] :=
  dealings_of_errands_nil (errands_of_deeds_nil h)

end Session

namespace Performance

@[simp] theorem told_append (before after : List (Session.Exchange (stage.sum E))) :
    told (before ++ after) = told before ++ told after :=
  List.filterMap_append

@[simp] theorem heard_append {before after : List (Session.Exchange (stage.sum E))} :
    Heard (before ++ after) ↔ Heard before ∧ Heard after :=
  List.forall_mem_append

/-- Between events no errand is run. -/
theorem dealings_sendAll {events : List Event} {played : List (Session.Exchange (stage.sum E))}
    {result : Except Thrown Unit} (h : (sendAll events).Path played result) :
    Session.dealings played = [] := by
  induction events generalizing played with
  | nil =>
    obtain ⟨rfl, -⟩ := Session.path_pure.mp h
    rfl
  | cons event rest ih =>
    obtain ⟨answer, later, rfl, hlater⟩ := Session.path_ask.mp h
    cases answer with
    | ok _ =>
      rw [Session.dealings_request]
      exact ih hlater
    | error thrown =>
      obtain ⟨rfl, -⟩ := Session.path_pure.mp hlater
      rfl

/-- Where nothing is thrown all events are told. -/
theorem heard_sendAll {events : List Event} {played : List (Session.Exchange (stage.sum E))}
    {result : Except Thrown Unit} (h : (sendAll events).Path played result)
    (hheard : Heard played) : result = .ok () ∧ told played = events := by
  obtain ⟨htold, hresult⟩ := told_sendAll h fun event answer hsent => hheard _ hsent
  exact ⟨hresult, htold⟩

end Performance

namespace Poller

variable {outlet : Nat} {line after : Line} {played : List (Session.Exchange (stage.sum E))}
  {trace : List (Session.Exchange (World E))}

/-- On its way down a line a performance runs the errands it runs on stage. -/
theorem Staged.dealings (h : Staged outlet line played trace after) :
    Session.dealings trace = Session.dealings played := by
  induction h with
  | done => rfl
  | sent hpass _ ih =>
    rw [Session.dealings_append, Session.dealings_of_deeds_nil (Line.bare_of_pass hpass).2]
    exact ih
  | wrapped _ ih => exact ih
  | refused _ ih => exact ih
  | missing _ ih => exact ih
  | errand _ ih => exact congrArg (_ :: ·) ih

/-- What is told in a calm conversation is heard. -/
theorem Staged.heard (h : Staged outlet line played trace after) (hcalm : Session.Calm trace) :
    Performance.Heard played := by
  induction h with
  | done => exact List.forall_mem_nil _
  | sent _ _ ih =>
    obtain ⟨hanswer, hrest⟩ := Session.calm_cons.mp (Session.calm_append.mp hcalm).2
    exact List.forall_mem_cons.mpr ⟨hanswer, ih hrest⟩
  | wrapped _ ih =>
    exact List.forall_mem_cons.mpr ⟨rfl, ih (Session.calm_cons.mp hcalm).2⟩
  | refused => cases (Session.calm_cons.mp hcalm).1
  | missing _ ih => exact List.forall_mem_cons.mpr ⟨rfl, ih hcalm⟩
  | errand _ ih => exact List.forall_mem_cons.mpr ⟨trivial, ih (Session.calm_cons.mp hcalm).2⟩

/-- The events that close what a unit has left open when its run comes to an error. -/
def remainder (told : List Event) : Except Thrown Outcome → List Event
  | .ok (.error error) => closingEvents error.message (openRunsOf told)
  | _ => []

variable {conduct : Conduct E} {resources : Resources} {unit : TestUnit} {guard : Nat}
  {told passed : List Event} {ended result : Except Thrown Outcome}

/-- In a calm conversation a unit takes its collectors, is heard, and runs its own errands. -/
theorem Performs.of_calm
    (h : Performs outlet conduct resources unit guard line told trace ended after)
    (hcalm : Session.Calm trace) :
    ∃ played, (conduct.run (resources.received unit.capabilities)).Path played ended ∧
      Performance.Heard played ∧ told = Performance.told played ∧
      Session.dealings trace = Session.dealings played := by
  cases h with
  | ran run staged =>
    refine ⟨_, run, staged.heard (Session.calm_append.mp hcalm).2, rfl, ?_⟩
    rw [Session.dealings_append, staged.dealings]
    split <;> rfl
  | refused => cases (Session.calm_cons.mp hcalm).1

/-- In a calm conversation a unit is heard until it ends, and then what closes its open runs. -/
theorem Executes.of_calm
    (h : Executes outlet conduct resources unit guard line passed trace result after)
    (hcalm : Session.Calm trace) :
    ∃ played ended, (conduct.run (resources.received unit.capabilities)).Path played ended ∧
      Performance.Heard played ∧ result = contain unit resources.device.serial ended ∧
      Session.dealings trace = Session.dealings played ∧
      (Session.sent trace).map Event.bare =
        (Performance.told played ++ remainder (Performance.told played) result).map Event.bare := by
  cases h with
  | @settled _ _ ended _ performs settles =>
    obtain ⟨played, hpath, hheard, rfl, hdealings⟩ := performs.of_calm hcalm
    refine ⟨played, ended, hpath, hheard, rfl, hdealings, ?_⟩
    have hnothing : remainder (Performance.told played)
        (contain unit resources.device.serial ended) = [] := by
      unfold remainder
      split
      · rename_i error herror
        exact absurd herror (settles error)
      · rfl
    rw [hnothing, List.append_nil, performs.bare_sent]
  | failed performs fails closes staged quiet =>
    obtain ⟨hbefore, -⟩ := Session.calm_append.mp hcalm
    obtain ⟨hperformed, hclosing⟩ := Session.calm_append.mp hbefore
    obtain ⟨played, hpath, hheard, rfl, hdealings⟩ := performs.of_calm hperformed
    obtain ⟨rfl, htold⟩ := Performance.heard_sendAll closes (staged.heard hclosing)
    have hclosed := Performance.dealings_sendAll closes
    refine ⟨played, _, hpath, hheard, fails.symm, ?_, ?_⟩
    · rw [Session.dealings_append, Session.dealings_append, hdealings, staged.dealings, hclosed,
        Session.dealings_of_deeds_nil quiet, List.append_nil, List.append_nil]
    · rw [Session.sent_append, Session.sent_append, Session.sent_of_deeds_nil quiet,
        List.append_nil, List.map_append, List.map_append, performs.bare_sent, staged.bare_sent,
        htold]
      rfl

end Poller

namespace Seat

/-- A buffer runs no errands of its own and keeps none back. -/
theorem Buffered.dealings {buffer last : ShardBuffer}
    {inner outer : List (Session.Exchange (World E))} (h : Buffered buffer inner outer last) :
    Session.dealings outer = Session.dealings inner := by
  induction h with
  | done => rfl
  | sent hpasses _ ih =>
    rw [Session.dealings_append,
      Session.dealings_of_errands_nil (uneventful_sendAll hpasses).1.errands]
    exact ih
  | @asked _ _ exchange inner outer _ _ ih =>
    obtain ⟨question | errand, answer⟩ := exchange
    · exact ih
    · exact congrArg (⟨errand, answer⟩ :: ·) ih

end Seat

end Fleet
