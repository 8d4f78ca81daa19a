import Fleet.Proofs.Cloud.Operations

/-!
# What becomes of started instances

Calls are made on a virtual device one after another, in any order and whatever the cloud answers.
Between two calls the device holds one instance at most, so every instance that ever came is held,
was shut down, or was replaced without being shut down. Only a launch replaces without shutting
down.
-/

namespace Fleet.VirtualDevice

open Operation

variable {first mid last : VirtualDevice} {trace before after : List (Session.Exchange cloud)}

/-- The instances that came when one was asked for, in order. -/
def started (trace : List (Session.Exchange cloud)) : List CloudInstance :=
  trace.filterMap fun
    | ⟨.start, answer⟩ => answer.toOption
    | _ => none

/-- The instances the cloud was told to shut down, in order. -/
def shutDown (trace : List (Session.Exchange cloud)) : List CloudInstance :=
  trace.filterMap fun
    | ⟨.shutdown held, _⟩ => some held
    | _ => none

@[simp] theorem started_append : started (before ++ after) = started before ++ started after :=
  List.filterMap_append

@[simp] theorem shutDown_append : shutDown (before ++ after) = shutDown before ++ shutDown after :=
  List.filterMap_append

@[simp] theorem Aside.started_eq (h : Aside trace) : started trace = [] := by
  refine List.filterMap_eq_nil_iff.mpr fun exchange hexchange => ?_
  have hasked := h exchange hexchange
  obtain ⟨question, answer⟩ := exchange
  cases question <;> simp_all [CloudRequest.manages]

@[simp] theorem Aside.shutDown_eq (h : Aside trace) : shutDown trace = [] := by
  refine List.filterMap_eq_nil_iff.mpr fun exchange hexchange => ?_
  have hasked := h exchange hexchange
  obtain ⟨question, answer⟩ := exchange
  cases question <;> simp_all [CloudRequest.manages]

/-- Every instance that was held or came is shut down, held at the end, or left behind. -/
def Accounts (first : VirtualDevice) (trace : List (Session.Exchange cloud))
    (left : List CloudInstance) (last : VirtualDevice) : Prop :=
  (first.held.toList ++ started trace).Perm (shutDown trace ++ last.held.toList ++ left)

namespace Accounts

variable {left gone : List CloudInstance}

/-- The same, counted: an instance that came twice is accounted for twice. -/
theorem iff_count : Accounts first trace left last ↔ ∀ instance_,
    first.held.toList.count instance_ + (started trace).count instance_ =
      (shutDown trace).count instance_ + last.held.toList.count instance_ +
        left.count instance_ := by
  simp only [Accounts, List.perm_iff_count, List.count_append]

private theorem aside (h : Aside trace) (hheld : last.held = first.held) :
    Accounts first trace [] last := by
  simp [Accounts, h.started_eq, h.shutDown_eq, hheld]

private theorem append (hbefore : Accounts first before left mid)
    (hafter : Accounts mid after gone last) :
    Accounts first (before ++ after) (left ++ gone) last := by
  rw [iff_count] at *
  intro instance_
  have hfirst := hbefore instance_
  have hsecond := hafter instance_
  simp only [started_append, shutDown_append, List.count_append]
  omega

end Accounts

/-- A stale instance that is disposed of is not left behind. -/
theorem accounts_disposes (h : Disposes first.held trace) (hheld : last.held = none) :
    Accounts first trace [] last := by
  cases hfirst : first.held with
  | none =>
    obtain rfl : trace = [] := by simpa [Disposes, hfirst] using h
    exact .aside aside_nil (hheld.trans hfirst.symm)
  | some held =>
    obtain ⟨answer, rest, rfl, hrest⟩ : ∃ answer rest,
        trace = ⟨.shutdown held, answer⟩ :: rest ∧ Aside rest := by simpa [Disposes, hfirst] using h
    have hstarted : started (⟨.shutdown held, answer⟩ :: rest) = [] := hrest.started_eq
    have hshutDown : shutDown (⟨.shutdown held, answer⟩ :: rest) = [held] :=
      congrArg (held :: ·) hrest.shutDown_eq
    simp [Accounts, hfirst, hheld, hstarted, hshutDown]

/-- The instances that a start leaves behind: the one held before, if another one comes. -/
def replaced (device : VirtualDevice) (trace : List (Session.Exchange cloud)) :
    List CloudInstance :=
  if started trace = [] then [] else device.held.toList

private theorem accounts_start {result : Outcome} (h : start.Ends first trace result last) :
    Accounts first trace (first.replaced trace) last := by
  obtain ⟨error, rfl, rfl, rfl⟩ | ⟨came, rest, rfl, hrest, rfl, -⟩ := ends_start h
  · have hstarted : started [⟨.start, .error error⟩] = [] := rfl
    have hshutDown : shutDown [⟨.start, .error error⟩] = [] := rfl
    simp [Accounts, replaced, hstarted, hshutDown]
  · have hstarted : started (⟨.start, .ok came⟩ :: rest) = [came] :=
      congrArg (came :: ·) hrest.started_eq
    have hshutDown : shutDown (⟨.start, .ok came⟩ :: rest) = [] := hrest.shutDown_eq
    simp [Accounts, replaced, hstarted, hshutDown]

private theorem accounts_release {result : Outcome} (h : release.Ends first trace result last) :
    Accounts first trace [] last := by
  obtain ⟨-, rfl, -, rfl⟩ | ⟨held, hheld, rfl, rfl⟩ := ends_release h
  · exact .aside aside_nil rfl
  · refine accounts_disposes ?_ rfl
    rw [hheld]
    exact ⟨result, [], rfl, aside_nil⟩

private theorem accounts_reset {result : Bool} (h : reset.Ends first trace result last) :
    Accounts first trace [] last := by
  obtain ⟨disposing, starting, closing, outcome, rfl, hdisposes, hclosing, hstart, -⟩ :=
    ends_reset h
  have hdisposed : Accounts first disposing [] { first with
      held := none, resets := first.resets + 1 } := accounts_disposes hdisposes rfl
  have hstarted := accounts_start hstart
  have hclosed : Accounts last closing [] last := .aside hclosing rfl
  have hnone : replaced { first with held := none, resets := first.resets + 1 } starting = [] := by
    simp [replaced]
  rw [hnone] at hstarted
  exact hdisposed.append (hstarted.append hclosed)

/-! ## Calls, one after another -/

/-- A call on a virtual device. -/
inductive Call where
  | launch
  | release
  | reset
  | reboot
  | waitForAvailable
  | saveRemoteFile (path : String) (kind : LogKind)
  | setProperty (key value : String)
  deriving DecidableEq

/-- Make the call, whatever it answers. -/
def Call.perform : Call → Operation Unit
  | launch => do let _ ← VirtualDevice.launch
  | release => do let _ ← VirtualDevice.release
  | reset => do let _ ← VirtualDevice.reset
  | reboot => do let _ ← VirtualDevice.reboot
  | waitForAvailable => do let _ ← VirtualDevice.waitForAvailable
  | saveRemoteFile path kind => do let _ ← VirtualDevice.saveRemoteFile path kind
  | setProperty key value => modify (VirtualDevice.setProperty key value)

/-- The instances a call leaves behind: the one held when a launch gets another one. -/
def Call.left (call : Call) (device : VirtualDevice) (trace : List (Session.Exchange cloud)) :
    List CloudInstance :=
  if call = launch then device.replaced trace else []

/-- A call answers whatever its operation does. -/
theorem ends_ignore {α : Type} {operation : Operation α} {result : Unit}
    (h : (do let _ ← operation : Operation Unit).Ends first trace result last) :
    ∃ answer, operation.Ends first trace answer last := by
  obtain ⟨answer, before, after, mid, rfl, hoperation, hpure⟩ := ends_bind.mp h
  obtain ⟨rfl, -, rfl⟩ := ends_pure.mp hpure
  exact ⟨answer, by rwa [List.append_nil]⟩

/-- Only a launch leaves an instance behind. -/
theorem accounts_perform {call : Call} {result : Unit}
    (h : call.perform.Ends first trace result last) :
    Accounts first trace (call.left first trace) last := by
  cases call with
  | launch =>
    obtain ⟨answer, hlaunch⟩ := ends_ignore h
    exact accounts_start hlaunch
  | release =>
    obtain ⟨answer, hrelease⟩ := ends_ignore h
    exact accounts_release hrelease
  | reset =>
    obtain ⟨answer, hreset⟩ := ends_ignore h
    exact accounts_reset hreset
  | reboot =>
    obtain ⟨answer, hreboot⟩ := ends_ignore h
    obtain ⟨replaced, hreset, -⟩ := ends_reboot hreboot
    exact accounts_reset hreset
  | waitForAvailable =>
    obtain ⟨answer, hwait⟩ := ends_ignore h
    obtain ⟨rfl, rfl, -⟩ := ends_waitForAvailable hwait
    exact .aside aside_nil rfl
  | saveRemoteFile path kind =>
    obtain ⟨answer, hsave⟩ := ends_ignore h
    obtain ⟨haside, rfl, -⟩ := ends_saveRemoteFile hsave
    exact .aside haside rfl
  | setProperty key value =>
    obtain ⟨rfl, -, rfl⟩ := ends_modify.mp h
    exact .aside aside_nil rfl

/-- A call that was made: what it found, what was said with the cloud, and what it left. -/
structure Turn where
  call : Call
  before : VirtualDevice
  trace : List (Session.Exchange cloud)
  after : VirtualDevice

/-- The calls lead from the first state of the device to the last one. -/
inductive History : VirtualDevice → List Turn → VirtualDevice → Prop where
  | nil (device : VirtualDevice) : History device [] device
  | cons {turn : Turn} {turns : List Turn} {last : VirtualDevice}
      (made : turn.call.perform.Ends turn.before turn.trace () turn.after)
      (rest : History turn.after turns last) : History turn.before (turn :: turns) last

/-- Every cloud can be dealt with: the calls, each with the answers it gets, make a history. -/
def deal : List (Call × ((question : CloudRequest) → cloud.Answer question)) → VirtualDevice →
    List Turn × VirtualDevice
  | [], device => ([], device)
  | (call, answer) :: calls, device =>
    let course := (call.perform.run device).converse answer
    let rest := deal calls course.2.2
    (⟨call, device, course.1, course.2.2⟩ :: rest.1, rest.2)

/-- Calls that are dealt with one after the other make a history. -/
theorem history_deal (calls : List (Call × ((question : CloudRequest) → cloud.Answer question)))
    (device : VirtualDevice) : History device (deal calls device).1 (deal calls device).2 := by
  induction calls generalizing device with
  | nil => exact .nil device
  | cons call calls ih =>
    obtain ⟨call, answer⟩ := call
    let course := (call.perform.run device).converse answer
    have made : call.perform.Ends device course.1 () course.2.2 := ends_converse answer _
    exact @History.cons ⟨call, device, course.1, course.2.2⟩ _ _ made (ih _)

/-- A cloud that grants every request, with this instance. -/
def grant (granted : CloudInstance) : (question : CloudRequest) → cloud.Answer question
  | .start => .ok granted
  | .shutdown _ => .ok ()
  | .fetchSerialLog _ | .fetchRemoteFile .. => .ok ""
  | .save log .. => .ok { path := log, url := "" }
  | .log _ => ()

variable {turns : List Turn}

/-- What all calls leave behind. -/
def leftBehind (turns : List Turn) : List CloudInstance :=
  turns.flatMap fun turn => turn.call.left turn.before turn.trace

private theorem leftBehind_eq_nil
    (h : ∀ turn ∈ turns, turn.call = .launch → turn.before.held = none) :
    leftBehind turns = [] := by
  refine List.flatMap_eq_nil_iff.mpr fun turn hturn => ?_
  by_cases hlaunch : turn.call = .launch
  · simp [Call.left, replaced, h turn hturn hlaunch]
  · exact if_neg hlaunch

/-- Over a history, every instance is accounted for. -/
theorem History.accounts (h : History first turns last) :
    Accounts first (turns.flatMap Turn.trace) (leftBehind turns) last := by
  induction h with
  | nil device => exact .aside aside_nil rfl
  | cons made _ ih => exact (accounts_perform made).append ih

/-- Whatever calls are made on a device that holds no instance, in any order, and whatever the cloud
answers: of the instances that came, each as often as it came, one at most is held at the end, and
the others were shut down or left behind, by a launch that got another one while they were held.
None is shut down more often than it came, and where no launch is made while an instance is held,
none is left behind. -/
theorem instances_accounted (hnone : first.held = none) (h : History first turns last) :
    let said := turns.flatMap Turn.trace
    (started said).Perm (shutDown said ++ last.held.toList ++ leftBehind turns) ∧
      (∀ instance_, (shutDown said).count instance_ ≤ (started said).count instance_) ∧
      ((∀ turn ∈ turns, turn.call = .launch → turn.before.held = none) →
        ∀ instance_ ∈ started said, last.held = some instance_ ∨ instance_ ∈ shutDown said) := by
  intro said
  have haccounts : (started said).Perm (shutDown said ++ last.held.toList ++ leftBehind turns) := by
    simpa [Accounts, hnone] using h.accounts
  refine ⟨haccounts, fun instance_ => ?_, fun hfree instance_ hcame => ?_⟩
  · rw [haccounts.count_eq, List.count_append, List.count_append]
    omega
  · rw [leftBehind_eq_nil hfree, List.append_nil] at haccounts
    obtain hgone | hheld := List.mem_append.mp (haccounts.mem_iff.mp hcame)
    · exact .inr hgone
    · exact .inl (Option.mem_toList.mp hheld)

/-- A launched device that is reset and released has shut down both its instances. -/
theorem instances_accounted_reset :
    let came (name : String) : CloudInstance := ⟨name, "10.0.0.1", 6520, .success, ""⟩
    let device : VirtualDevice := { serial := "v1", hasSaver := false }
    ∃ turns last, History device turns last ∧
      turns.map Turn.call = [.launch, .reset, .release] ∧
      started (turns.flatMap Turn.trace) = [came "ins-1", came "ins-2"] ∧
      ∀ instance_ ∈ [came "ins-1", came "ins-2"],
        last.held = some instance_ ∨ instance_ ∈ shutDown (turns.flatMap Turn.trace) := by
  intro came device
  let calls : List (Call × ((question : CloudRequest) → cloud.Answer question)) :=
    [(.launch, grant (came "ins-1")), (.reset, grant (came "ins-2")),
      (.release, grant (came "ins-2"))]
  have hstarted : started ((deal calls device).1.flatMap Turn.trace) =
      [came "ins-1", came "ins-2"] := by decide
  refine ⟨_, _, history_deal calls device, rfl, hstarted, ?_⟩
  rw [← hstarted]
  exact (instances_accounted rfl (history_deal calls device)).2.2 (by decide)

/-- An instance that did not boot is never shut down if the launch is tried again. -/
theorem failed_instance_left_by_launch :
    let failed : CloudInstance := ⟨"ins-1", "10.0.0.1", 6520, .bootFail, ""⟩
    let booted : CloudInstance := ⟨"ins-2", "10.0.0.1", 6520, .success, ""⟩
    let device : VirtualDevice := { serial := "v1", hasSaver := false }
    ∃ turns last, History device turns last ∧ turns.map Turn.call = [.launch, .launch] ∧
      failed ∈ started (turns.flatMap Turn.trace) ∧ last.held = some booted ∧
      shutDown (turns.flatMap Turn.trace) = [] := by
  intro failed booted device
  exact ⟨_, _, history_deal [(.launch, grant failed), (.launch, grant booted)] device, rfl,
    by decide, rfl, rfl⟩

end Fleet.VirtualDevice
