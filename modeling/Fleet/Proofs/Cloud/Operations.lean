import Fleet.Cloud.VirtualDevice
import Fleet.Proofs.Conversation

/-!
# What the operations of a virtual device ask

An operation is one conversation with the cloud that leads from one state of the device to another.
Two of its questions change which instances there are, the request to start one and the request to
shut one down; for each operation there is a lemma that says which of them it makes, in which order,
and what it leaves in the device's hands.
-/

namespace Fleet

/-- Whether a request changes which instances there are. -/
def CloudRequest.manages : CloudRequest → Bool
  | .start | .shutdown _ => true
  | .fetchSerialLog _ | .fetchRemoteFile .. | .save .. | .log _ => false

namespace VirtualDevice

variable {α β : Type} {first last : VirtualDevice} {trace : List (Session.Exchange cloud)}

/-- The operation can have this conversation with the cloud from the first state, ending with the
result in the last state. -/
def Operation.Ends (operation : Operation α) (first : VirtualDevice)
    (trace : List (Session.Exchange cloud)) (result : α) (last : VirtualDevice) : Prop :=
  (operation.run first).Path trace (result, last)

namespace Operation

/-- Every cloud can be talked to until the operation ends. -/
theorem ends_converse (answer : (question : CloudRequest) → cloud.Answer question)
    (operation : Operation α) :
    operation.Ends first ((operation.run first).converse answer).1
      ((operation.run first).converse answer).2.1 ((operation.run first).converse answer).2.2 :=
  Session.path_converse (Q := cloud) answer _

@[simp] theorem ends_pure {a result : α} :
    (pure a : Operation α).Ends first trace result last ↔
      trace = [] ∧ result = a ∧ last = first := by
  simp [Ends]

/-- Two operations in a row end where the second one does. -/
theorem ends_bind {operation : Operation α} {f : α → Operation β} {result : β} :
    (operation >>= f).Ends first trace result last ↔
      ∃ a before after mid, trace = before ++ after ∧ operation.Ends first before a mid ∧
        (f a).Ends mid after result last := by
  simp only [Ends, StateT.run_bind, Session.path_seq]
  constructor
  · rintro ⟨⟨a, mid⟩, before, after, rfl, hfirst, hsecond⟩
    exact ⟨a, before, after, mid, rfl, hfirst, hsecond⟩
  · rintro ⟨a, before, after, mid, rfl, hfirst, hsecond⟩
    exact ⟨(a, mid), before, after, rfl, hfirst, hsecond⟩

@[simp] theorem ends_get_bind {f : VirtualDevice → Operation β} {result : β} :
    (get >>= f).Ends first trace result last ↔ (f first).Ends first trace result last :=
  Iff.rfl

@[simp] theorem ends_modify_bind {g : VirtualDevice → VirtualDevice} {f : PUnit → Operation β}
    {result : β} :
    (modify g >>= f).Ends first trace result last ↔ (f ⟨⟩).Ends (g first) trace result last :=
  Iff.rfl

/-- To change the device asks nothing. -/
theorem ends_modify {g : VirtualDevice → VirtualDevice} {result : PUnit} :
    (modify g : Operation PUnit).Ends first trace result last ↔
      trace = [] ∧ result = ⟨⟩ ∧ last = g first :=
  ends_modify_bind.trans ends_pure

/-- What follows a question goes on with the answer. -/
theorem ends_ask_bind {question : CloudRequest} {f : cloud.Answer question → Operation β}
    {result : β} :
    (VirtualDevice.ask question >>= f).Ends first trace result last ↔
      ∃ answer rest, trace = ⟨question, answer⟩ :: rest ∧
        (f answer).Ends first rest result last :=
  Session.path_ask

private theorem ends_ask {question : CloudRequest} {result : cloud.Answer question} :
    (VirtualDevice.ask question).Ends first trace result last ↔
      trace = [⟨question, result⟩] ∧ last = first := by
  rw [← bind_pure (VirtualDevice.ask question), ends_ask_bind]
  constructor
  · rintro ⟨answer, rest, rfl, hrest⟩
    obtain ⟨rfl, rfl, rfl⟩ := ends_pure.mp hrest
    exact ⟨rfl, rfl⟩
  · rintro ⟨rfl, rfl⟩
    exact ⟨result, [], rfl, ends_pure.mpr ⟨rfl, rfl, rfl⟩⟩

end Operation

open Operation

/-- Nothing in the conversation changes which instances there are. -/
def Aside (trace : List (Session.Exchange cloud)) : Prop :=
  ∀ exchange ∈ trace, exchange.question.manages = false

/-- To ask nothing is an aside. -/
theorem aside_nil : Aside [] :=
  List.forall_mem_nil _

private theorem aside_cons {exchange : Session.Exchange cloud}
    (h : exchange.question.manages = false)
    (hrest : Aside trace) : Aside (exchange :: trace) :=
  List.forall_mem_cons.mpr ⟨h, hrest⟩

/-- The instances whose serial log was read, in order. -/
def serialLogs (trace : List (Session.Exchange cloud)) : List CloudInstance :=
  trace.filterMap fun
    | ⟨.fetchSerialLog started, _⟩ => some started
    | _ => none

@[simp] theorem serialLogs_append {before after : List (Session.Exchange cloud)} :
    serialLogs (before ++ after) = serialLogs before ++ serialLogs after :=
  List.filterMap_append

/-- A log line is an aside, and nothing is read for it. -/
theorem ends_log {level : LogLevel} {event message : String} {result : Unit}
    (h : (log level event message).Ends first trace result last) :
    Aside trace ∧ last = first ∧ serialLogs trace = [] := by
  obtain ⟨rfl, rfl⟩ := ends_ask.mp (ends_get_bind.mp h)
  exact ⟨aside_cons rfl aside_nil, rfl, rfl⟩

/-- Storing the serial log changes nothing about the instances, whatever becomes of the log. It is
read once if there is a saver to store it, and else not at all. -/
theorem ends_saveSerialLog {started : CloudInstance} {result : Unit}
    (h : (saveSerialLog started).Ends first trace result last) :
    Aside trace ∧ last = first ∧ serialLogs trace = if first.hasSaver then [started] else [] := by
  rw [saveSerialLog, ends_get_bind] at h
  split at h
  case isFalse hsaver =>
    obtain ⟨rfl, -, rfl⟩ := ends_pure.mp h
    exact ⟨aside_nil, rfl, (if_neg hsaver).symm⟩
  case isTrue hsaver =>
    obtain ⟨fetched, rest, rfl, hfetched⟩ := ends_ask_bind.mp h
    rw [if_pos hsaver]
    cases fetched with
    | error error =>
      obtain ⟨hrest, rfl, hlogs⟩ := ends_log hfetched
      exact ⟨aside_cons rfl hrest, rfl, congrArg (started :: ·) hlogs⟩
    | ok data =>
      obtain ⟨saved, rest, rfl, hsaved⟩ := ends_ask_bind.mp hfetched
      cases saved with
      | error error =>
        obtain ⟨hrest, rfl, hlogs⟩ := ends_log hsaved
        exact ⟨aside_cons rfl (aside_cons rfl hrest), rfl, congrArg (started :: ·) hlogs⟩
      | ok file =>
        obtain ⟨rfl, -, rfl⟩ := ends_pure.mp hsaved
        exact ⟨aside_cons rfl (aside_cons rfl aside_nil), rfl, rfl⟩

/-- Starting asks for one instance. One that comes is held, usable or not, and its serial log is
read if it did not boot; if none comes, the device stays as it was. -/
theorem ends_start {result : Outcome} (h : start.Ends first trace result last) :
    (∃ error, trace = [⟨.start, .error error⟩] ∧ result = .error error ∧ last = first) ∨
    ∃ started rest, trace = ⟨.start, .ok started⟩ :: rest ∧ Aside rest ∧
      last = { first with held := some started } ∧
      (result = if started.status = .success then .ok ()
        else .error (unusable first.serial started)) ∧
      serialLogs rest = if first.hasSaver then [started].filter (·.status = .bootFail) else [] := by
  obtain ⟨answer, rest, rfl, hanswered⟩ := ends_ask_bind.mp h
  cases answer with
  | error error =>
    obtain ⟨rfl, rfl, rfl⟩ := ends_pure.mp hanswered
    exact .inl ⟨error, rfl, rfl, rfl⟩
  | ok started =>
    refine .inr ⟨started, rest, rfl, ?_⟩
    rw [ends_modify_bind] at hanswered
    cases hstatus : started.status <;>
      simp only [hstatus, reduceCtorEq, if_true, if_false] at hanswered ⊢
    case success =>
      obtain ⟨_, before, after, mid, rfl, hlog, hpure⟩ := ends_bind.mp hanswered
      obtain ⟨hbefore, rfl, hlogs⟩ := ends_log hlog
      obtain ⟨rfl, rfl, rfl⟩ := ends_pure.mp hpure
      rw [List.append_nil]
      exact ⟨hbefore, rfl, rfl, by simp [hlogs, hstatus]⟩
    case bootFail =>
      obtain ⟨_, before, after, mid, rfl, hsave, hpure⟩ := ends_bind.mp hanswered
      obtain ⟨hbefore, rfl, hlogs⟩ := ends_saveSerialLog hsave
      rw [ends_get_bind, ends_pure] at hpure
      obtain ⟨rfl, rfl, rfl⟩ := hpure
      rw [List.append_nil]
      exact ⟨hbefore, rfl, rfl, by simp [hlogs, hstatus]⟩
    case fail | deviceOffline =>
      rw [ends_get_bind, ends_pure] at hanswered
      obtain ⟨rfl, rfl, rfl⟩ := hanswered
      exact ⟨aside_nil, rfl, rfl, by simp [serialLogs, hstatus]⟩

/-- Releasing shuts the held instance down and lets go of it, even if that fails. -/
theorem ends_release {result : Outcome} (h : release.Ends first trace result last) :
    (first.held = none ∧ trace = [] ∧ result = .ok () ∧ last = first) ∨
    ∃ held, first.held = some held ∧ trace = [⟨.shutdown held, result⟩] ∧
      last = { first with held := none } := by
  rw [release, ends_get_bind] at h
  split at h
  case h_1 hheld =>
    obtain ⟨rfl, rfl, rfl⟩ := ends_pure.mp h
    exact .inl ⟨hheld, rfl, rfl, rfl⟩
  case h_2 held hheld =>
    obtain ⟨outcome, rest, rfl, hanswered⟩ := ends_ask_bind.mp h
    rw [ends_modify_bind, ends_pure] at hanswered
    obtain ⟨rfl, rfl, rfl⟩ := hanswered
    exact .inr ⟨held, hheld, rfl, rfl⟩

/-- Waiting asks nothing and changes nothing. A device that is not available counts as lost. -/
theorem ends_waitForAvailable {result : Outcome}
    (h : waitForAvailable.Ends first trace result last) :
    trace = [] ∧ last = first ∧ (result = .ok () ↔ first.held.any (·.status = .success)) ∧
      (result ≠ .ok () → ∃ error, result = .error error ∧ error.isDeviceLoss) := by
  rw [waitForAvailable, ends_get_bind] at h
  split at h
  case isTrue hrunning =>
    obtain ⟨rfl, rfl, rfl⟩ := ends_pure.mp h
    exact ⟨rfl, rfl, iff_of_true rfl hrunning, fun hnot => absurd rfl hnot⟩
  case isFalse hrunning =>
    obtain ⟨rfl, rfl, rfl⟩ := ends_pure.mp h
    exact ⟨rfl, rfl, iff_of_false nofun hrunning, fun _ => ⟨_, rfl, rfl⟩⟩

/-- What shutting a stale instance down comes to, before a new one is started. -/
def Disposes (held : Option CloudInstance) (trace : List (Session.Exchange cloud)) : Prop :=
  match held with
  | none => trace = []
  | some held => ∃ answer rest, trace = ⟨.shutdown held, answer⟩ :: rest ∧ Aside rest

/-- What a reset does after it has let go of what was held. -/
def restart : Operation Bool := do
  match ← start with
  | .ok () => return true
  | .error error =>
    log .error "reset_failed" error.message
    return false

private theorem ends_restart {result : Bool} (h : restart.Ends first trace result last) :
    ∃ starting closing outcome, trace = starting ++ closing ∧ Aside closing ∧
      start.Ends first starting outcome last ∧ (result = true ↔ outcome = .ok ()) ∧
      serialLogs closing = [] := by
  obtain ⟨outcome, starting, closing, mid, rfl, hstart, hclose⟩ := ends_bind.mp h
  refine ⟨starting, closing, outcome, rfl, ?_⟩
  cases outcome with
  | ok _ =>
    obtain ⟨rfl, rfl, rfl⟩ := ends_pure.mp hclose
    exact ⟨aside_nil, hstart, iff_of_true rfl rfl, rfl⟩
  | error error =>
    obtain ⟨_, said, after, next, rfl, hlog, hpure⟩ := ends_bind.mp hclose
    obtain ⟨hsaid, rfl, hlogs⟩ := ends_log hlog
    obtain ⟨rfl, rfl, rfl⟩ := ends_pure.mp hpure
    rw [List.append_nil]
    exact ⟨hsaid, hstart, iff_of_false nofun nofun, hlogs⟩

/-- A reset shuts down what is held, lets go of it whatever the answer, and then starts an instance;
it succeeds if the start does, and reads no serial log but for the start. -/
theorem ends_reset {result : Bool} (h : reset.Ends first trace result last) :
    ∃ disposing starting closing outcome, trace = disposing ++ (starting ++ closing) ∧
      Disposes first.held disposing ∧ Aside closing ∧
      start.Ends { first with held := none, resets := first.resets + 1 } starting outcome last ∧
      (result = true ↔ outcome = .ok ()) ∧ serialLogs trace = serialLogs starting := by
  rw [reset, ends_modify_bind, ends_get_bind] at h
  obtain ⟨disposing, rest, rfl, hdisposes, hlogs, hrestart⟩ : ∃ disposing rest,
      trace = disposing ++ rest ∧ Disposes first.held disposing ∧ serialLogs disposing = [] ∧
        restart.Ends { first with held := none, resets := first.resets + 1 } rest result last := by
    cases hheld : first.held with
    | none =>
      simp only [hheld] at h
      exact ⟨[], trace, rfl, rfl, rfl, h⟩
    | some held =>
      simp only [hheld] at h
      obtain ⟨answer, rest, rfl, hanswered⟩ := ends_ask_bind.mp h
      cases answer with
      | ok _ =>
        rw [ends_modify_bind] at hanswered
        exact ⟨[_], rest, rfl, ⟨_, [], rfl, aside_nil⟩, rfl, hanswered⟩
      | error error =>
        obtain ⟨_, said, after, mid, rfl, hlog, hlogged⟩ := ends_bind.mp hanswered
        obtain ⟨hsaid, rfl, hnone⟩ := ends_log hlog
        rw [ends_modify_bind] at hlogged
        exact ⟨_ :: said, after, rfl, ⟨_, said, rfl, hsaid⟩, hnone, hlogged⟩
  obtain ⟨starting, closing, outcome, rfl, hclosing, hstart, hresult, hclosed⟩ :=
    ends_restart hrestart
  refine ⟨disposing, starting, closing, outcome, rfl, hdisposes, hclosing, hstart, hresult, ?_⟩
  rw [serialLogs_append, serialLogs_append, hlogs, hclosed, List.nil_append, List.append_nil]

/-- A reboot is a reset. -/
theorem ends_reboot {result : Outcome} (h : reboot.Ends first trace result last) :
    ∃ replaced, reset.Ends first trace replaced last ∧ (result = .ok () ↔ replaced = true) := by
  obtain ⟨replaced, before, after, mid, rfl, hreset, hanswer⟩ := ends_bind.mp h
  cases replaced with
  | true =>
    obtain ⟨rfl, rfl, rfl⟩ := ends_pure.mp hanswer
    exact ⟨true, by rwa [List.append_nil], iff_of_true rfl rfl⟩
  | false =>
    simp only [Bool.false_eq_true, if_false] at hanswer
    rw [ends_get_bind, ends_pure] at hanswer
    obtain ⟨rfl, rfl, rfl⟩ := hanswer
    exact ⟨false, by rwa [List.append_nil], iff_of_false nofun nofun⟩

/-- Storing a file reads it off the held instance and changes nothing about the instances; no serial
log is read. Without an instance nothing is asked, and the device counts as lost. -/
theorem ends_saveRemoteFile {path : String} {kind : LogKind} {result : Except TaskError LogFile}
    (h : (saveRemoteFile path kind).Ends first trace result last) :
    Aside trace ∧ last = first ∧ serialLogs trace = [] ∧
      (first.held = none → trace = [] ∧ ∃ error, result = .error error ∧ error.isDeviceLoss) := by
  rw [saveRemoteFile, ends_get_bind] at h
  split at h
  case h_1 hheld =>
    obtain ⟨rfl, rfl, rfl⟩ := ends_pure.mp h
    exact ⟨aside_nil, rfl, rfl, fun _ => ⟨rfl, _, rfl, rfl⟩⟩
  case h_2 held hheld =>
    rw [hheld]
    split at h
    case isFalse =>
      obtain ⟨rfl, -, rfl⟩ := ends_pure.mp h
      exact ⟨aside_nil, rfl, rfl, nofun⟩
    case isTrue =>
      obtain ⟨fetched, rest, rfl, hfetched⟩ := ends_ask_bind.mp h
      cases fetched with
      | error error =>
        obtain ⟨rfl, -, rfl⟩ := ends_pure.mp hfetched
        exact ⟨aside_cons rfl aside_nil, rfl, rfl, nofun⟩
      | ok data =>
        obtain ⟨rfl, rfl⟩ := ends_ask.mp hfetched
        exact ⟨aside_cons rfl (aside_cons rfl aside_nil), rfl, rfl, nofun⟩

end VirtualDevice

end Fleet
