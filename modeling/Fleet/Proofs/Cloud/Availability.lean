import Fleet.Proofs.Cloud.Instances

/-!
# When a virtual device is available

A reset answers by what its start came to, and waiting answers by what the device holds. The two
agree after every reset, whatever happened to the device before and whatever the cloud answers. A
released device is lost until another instance comes, and the serial log of an instance is read
exactly when the instance came without booting and there is a saver to store the log.
-/

namespace Fleet.VirtualDevice

open Operation

variable {first mid last : VirtualDevice} {trace before after : List (Session.Exchange cloud)}
  {turns : List Turn}

/-- The requests that change which instances there are, in order. -/
def managed (trace : List (Session.Exchange cloud)) : List CloudRequest :=
  (trace.map (·.question)).filter CloudRequest.manages

@[simp] theorem managed_append : managed (before ++ after) = managed before ++ managed after := by
  simp [managed]

@[simp] theorem Aside.managed_eq (h : Aside trace) : managed trace = [] := by
  refine List.filter_eq_nil_iff.mpr fun question hquestion => ?_
  obtain ⟨exchange, hexchange, rfl⟩ := List.mem_map.mp hquestion
  simp [h exchange hexchange]

/-! ## One start, one reset -/

private theorem managed_start {result : Outcome} (h : start.Ends first trace result last) :
    managed trace = [.start] := by
  obtain ⟨error, rfl, -⟩ | ⟨came, rest, rfl, hrest, -⟩ := ends_start h
  · rfl
  · exact congrArg (CloudRequest.start :: ·) hrest.managed_eq

/-- A device that held nothing is available after a start exactly if the start succeeded. -/
theorem available_start {result : Outcome} (hnone : first.held = none)
    (h : start.Ends first trace result last) :
    result = .ok () ↔ last.held.any (·.status = .success) := by
  obtain ⟨error, -, rfl, rfl⟩ | ⟨came, rest, -, -, rfl, rfl, -⟩ := ends_start h
  · simp [hnone]
  · by_cases hstatus : came.status = .success <;> simp [hstatus]

private theorem started_disposes {held : Option CloudInstance} (h : Disposes held trace) :
    started trace = [] := by
  cases held with
  | none =>
    obtain rfl : trace = [] := h
    rfl
  | some held =>
    obtain ⟨answer, rest, rfl, hrest⟩ := h
    exact hrest.started_eq

private theorem managed_disposes {held : Option CloudInstance} (h : Disposes held trace) :
    managed trace = held.toList.map .shutdown := by
  cases held with
  | none =>
    obtain rfl : trace = [] := h
    rfl
  | some held =>
    obtain ⟨answer, rest, rfl, hrest⟩ := h
    exact congrArg (CloudRequest.shutdown held :: ·) hrest.managed_eq

private theorem managed_reset {result : Bool} (h : reset.Ends first trace result last) :
    managed trace = first.held.toList.map .shutdown ++ [.start] := by
  obtain ⟨disposing, starting, closing, outcome, rfl, hdisposes, hclosing, hstart, -⟩ :=
    ends_reset h
  rw [managed_append, managed_append, managed_disposes hdisposes, managed_start hstart,
    hclosing.managed_eq, List.append_nil]

private theorem available_reset {result : Bool} (h : reset.Ends first trace result last) :
    result = true ↔ last.held.any (·.status = .success) := by
  obtain ⟨_, _, _, outcome, -, -, -, hstart, hresult, -⟩ := ends_reset h
  exact hresult.trans (available_start rfl hstart)

private theorem available_reboot {result : Outcome} (h : reboot.Ends first trace result last) :
    result = .ok () ↔ last.held.any (·.status = .success) := by
  obtain ⟨replaced, hreset, hresult⟩ := ends_reboot h
  exact hresult.trans (available_reset hreset)

/-! ## Serial logs -/

/-- The serial logs that are read in the conversation are those of the instances that came without
booting, if there is a saver, and there is one afterwards if there was one before. -/
structure Inspects (first : VirtualDevice) (trace : List (Session.Exchange cloud))
    (last : VirtualDevice) : Prop where
  hasSaver : last.hasSaver = first.hasSaver
  serialLogs : serialLogs trace =
    if first.hasSaver then (started trace).filter (·.status = .bootFail) else []

namespace Inspects

private theorem aside (h : Aside trace) (hlogs : VirtualDevice.serialLogs trace = [])
    (hsaver : last.hasSaver = first.hasSaver) : Inspects first trace last where
  hasSaver := hsaver
  serialLogs := by simp [hlogs, h.started_eq]

private theorem append (hbefore : Inspects first before mid) (hafter : Inspects mid after last) :
    Inspects first (before ++ after) last where
  hasSaver := hafter.hasSaver.trans hbefore.hasSaver
  serialLogs := by
    rw [serialLogs_append, hbefore.serialLogs, hafter.serialLogs, hbefore.hasSaver, started_append,
      List.filter_append]
    split <;> rfl

end Inspects

private theorem inspects_start {result : Outcome} (h : start.Ends first trace result last) :
    Inspects first trace last := by
  obtain ⟨error, rfl, -, rfl⟩ | ⟨came, rest, rfl, hrest, rfl, -, hlogs⟩ := ends_start h
  · exact ⟨rfl, by simp [VirtualDevice.serialLogs, started, Except.toOption]⟩
  · refine ⟨rfl, ?_⟩
    have hstarted : started (⟨.start, .ok came⟩ :: rest) = [came] :=
      congrArg (came :: ·) hrest.started_eq
    rw [hstarted]
    exact hlogs

private theorem inspects_release {result : Outcome} (h : release.Ends first trace result last) :
    Inspects first trace last := by
  obtain ⟨-, rfl, -, rfl⟩ | ⟨held, -, rfl, rfl⟩ := ends_release h
  · exact .aside aside_nil rfl rfl
  · exact ⟨rfl, by simp [VirtualDevice.serialLogs, started]⟩

private theorem inspects_reset {result : Bool} (h : reset.Ends first trace result last) :
    Inspects first trace last := by
  obtain ⟨disposing, starting, closing, outcome, rfl, hdisposes, hclosing, hstart, -, hlogs⟩ :=
    ends_reset h
  have hstarted := inspects_start hstart
  refine ⟨hstarted.hasSaver, ?_⟩
  rw [hlogs, started_append, started_append, started_disposes hdisposes, hclosing.started_eq,
    List.nil_append, List.append_nil]
  exact hstarted.serialLogs

private theorem inspects_perform {call : Call} {result : Unit}
    (h : call.perform.Ends first trace result last) : Inspects first trace last := by
  cases call with
  | launch =>
    obtain ⟨answer, hlaunch⟩ := ends_ignore h
    exact inspects_start hlaunch
  | release =>
    obtain ⟨answer, hrelease⟩ := ends_ignore h
    exact inspects_release hrelease
  | reset =>
    obtain ⟨answer, hreset⟩ := ends_ignore h
    exact inspects_reset hreset
  | reboot =>
    obtain ⟨answer, hreboot⟩ := ends_ignore h
    obtain ⟨replaced, hreset, -⟩ := ends_reboot hreboot
    exact inspects_reset hreset
  | waitForAvailable =>
    obtain ⟨answer, hwait⟩ := ends_ignore h
    obtain ⟨rfl, rfl, -⟩ := ends_waitForAvailable hwait
    exact .aside aside_nil rfl rfl
  | saveRemoteFile path kind =>
    obtain ⟨answer, hsave⟩ := ends_ignore h
    obtain ⟨haside, rfl, hlogs, -⟩ := ends_saveRemoteFile hsave
    exact .aside haside hlogs rfl
  | setProperty key value =>
    obtain ⟨rfl, -, rfl⟩ := ends_modify.mp h
    exact .aside aside_nil rfl rfl

private theorem History.inspects (h : History first turns last) :
    Inspects first (turns.flatMap Turn.trace) last := by
  induction h with
  | nil device => exact .aside aside_nil rfl rfl
  | cons made _ ih => exact (inspects_perform made).append ih

/-! ## Released devices -/

private theorem held_release {result : Outcome} (h : release.Ends first trace result last) :
    last.held = none := by
  obtain ⟨hnone, -, -, rfl⟩ | ⟨-, -, -, rfl⟩ := ends_release h
  · exact hnone
  · rfl

/-- A device that holds nothing goes on holding nothing as long as no instance comes. -/
theorem History.held_eq_none (h : History first turns last) (hnone : first.held = none)
    (hcame : started (turns.flatMap Turn.trace) = []) : last.held = none := by
  have haccounts := h.accounts
  rw [Accounts, hnone, hcame] at haccounts
  have hnil := haccounts.symm.eq_nil
  simp only [List.append_eq_nil_iff, Option.toList_eq_nil_iff] at hnil
  exact hnil.1.2

/-- Whatever calls were made on a device, and whatever the cloud answers: a reset or a reboot
succeeds exactly if waiting right after it does. A reset shuts down what is held, if anything, and
then asks for one instance, whatever became of the shutdown. A released device is lost, to those who
wait for it and to those who want a file of it, until another instance comes. And the serial logs
that were read are those of the instances that came without booting, each once, or none without a
saver. -/
theorem availability_after_recovery {device : VirtualDevice} (h : History first turns device) :
    (∀ said replaced recovered waiting answer last, reset.Ends device said replaced recovered →
      waitForAvailable.Ends recovered waiting answer last →
        (replaced = true ↔ answer = .ok ())) ∧
    (∀ said outcome recovered waiting answer last, reboot.Ends device said outcome recovered →
      waitForAvailable.Ends recovered waiting answer last →
        (outcome = .ok () ↔ answer = .ok ())) ∧
    (∀ said replaced recovered, reset.Ends device said replaced recovered →
      managed said = device.held.toList.map .shutdown ++ [.start]) ∧
    (∀ said outcome released calls later, release.Ends device said outcome released →
      History released calls later → started (calls.flatMap Turn.trace) = [] →
        (∀ waiting answer last, waitForAvailable.Ends later waiting answer last →
          ∃ error, answer = .error error ∧ error.isDeviceLoss) ∧
        ∀ path kind asked answer last, (saveRemoteFile path kind).Ends later asked answer last →
          asked = [] ∧ ∃ error, answer = .error error ∧ error.isDeviceLoss) ∧
    serialLogs (turns.flatMap Turn.trace) =
      if first.hasSaver then (started (turns.flatMap Turn.trace)).filter (·.status = .bootFail)
      else [] := by
  refine ⟨?_, ?_, fun _ _ _ => managed_reset, ?_, h.inspects.serialLogs⟩
  · intro said replaced recovered waiting answer last hreset hwait
    obtain ⟨-, -, havailable, -⟩ := ends_waitForAvailable hwait
    exact (available_reset hreset).trans havailable.symm
  · intro said outcome recovered waiting answer last hreboot hwait
    obtain ⟨-, -, havailable, -⟩ := ends_waitForAvailable hwait
    exact (available_reboot hreboot).trans havailable.symm
  · intro said outcome released calls later hrelease hcalls hcame
    have hnone : later.held = none := hcalls.held_eq_none (held_release hrelease) hcame
    refine ⟨fun waiting answer last hwait => ?_, fun path kind asked answer last hsave => ?_⟩
    · obtain ⟨-, -, havailable, hlost⟩ := ends_waitForAvailable hwait
      refine hlost fun hanswer => ?_
      simpa [hnone] using havailable.mp hanswer
    · obtain ⟨-, -, -, hlost⟩ := ends_saveRemoteFile hsave
      exact hlost hnone

/-- A cloud that grants every request, with this instance, but shuts none down. -/
def grantNoShutdown (granted : CloudInstance) : (question : CloudRequest) → cloud.Answer question
  | .shutdown _ => .error (.runtime "busy")
  | question => grant granted question

/-- A device whose instance did not boot and cannot be shut down is reset, and available. -/
theorem availability_after_recovery_boot_failure :
    let failed : CloudInstance := ⟨"ins-1", "10.0.0.1", 6520, .bootFail, ""⟩
    let booted : CloudInstance := ⟨"ins-2", "10.0.0.1", 6520, .success, ""⟩
    let device : VirtualDevice := { serial := "v1", hasSaver := true }
    ∃ turns held said recovered, History device turns held ∧
      turns.map Turn.call = [.launch] ∧ held.held = some failed ∧
      serialLogs (turns.flatMap Turn.trace) = [failed] ∧
      reset.Ends held said true recovered ∧ recovered.held = some booted ∧
      (∃ answer, ⟨.shutdown failed, .error answer⟩ ∈ said) ∧
      managed said = [.shutdown failed, .start] ∧
      ∀ waiting answer last, waitForAvailable.Ends recovered waiting answer last →
        answer = .ok () := by
  intro failed booted device
  let held := (deal [(.launch, grant failed)] device).2
  let course := (reset.run held).converse (grantNoShutdown booted)
  have hturns := history_deal [(.launch, grant failed)] device
  have hreset : reset.Ends held course.1 course.2.1 course.2.2 :=
    ends_converse (grantNoShutdown booted) reset
  obtain ⟨havailable, -, hmanaged, -, hlogs⟩ := availability_after_recovery hturns
  exact ⟨_, _, _, _, hturns, rfl, rfl, hlogs, hreset, rfl, ⟨_, List.mem_cons_self⟩,
    hmanaged _ _ _ hreset, fun _ _ _ hwait => (havailable _ _ _ _ _ _ hreset hwait).mp rfl⟩

end Fleet.VirtualDevice
