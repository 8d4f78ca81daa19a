import Fleet.Proofs.Routine
import Fleet.Recovery

/-!
# Looking after devices

A lost device is treated as the number of running pollers demands, and then one record is made of
what came of it. Nothing else is said but log lines.
-/

namespace Fleet

variable {E : Interface} {device : Device} {error : TaskError} {unitName : String} {running : Int}

/-- The question looks after a device, and notes what comes of it. -/
def World.Tending : (World E).Question → Prop
  | .inl (.log entry) => entry.event ≠ unreportableEvent
  | .inl (.await ..) | .inl (.reboot _) | .inl (.reset _) | .inl (.record ..) => True
  | _ => False

/-- To look after a device is quiet. -/
theorem World.Tending.quiet {question : (World E).Question} (h : World.Tending question) :
    World.Quiet question := by
  rcases question with question | errand
  · cases question <;> first | exact h | cases h
  · cases h

/-- To look after a device hands no unit a dependency. -/
theorem World.Tending.unwiring {question : (World E).Question} (h : World.Tending question) :
    World.Unwiring question := by
  rcases question with question | errand
  · cases question <;> first | rfl | cases h
  · cases h

/-- What is logged while a device is brought back, and once it is known whether it is. -/
def recoveryEvents : List String :=
  ["virtual_reset", "virtual_reset_failed", "wait_for_device", "wait_for_device_failed",
    "reboot_failed", "poller_recovered", "poller_terminating"]

/-- The question looks after a device, or tells how that goes. -/
def World.Reviving : (World E).Question → Prop
  | .inl (.log entry) => entry.event ∈ recoveryEvents
  | .inl (.await ..) | .inl (.reboot _) | .inl (.reset _) | .inl (.record ..) => True
  | _ => False

/-- To tell how the recovery of a device goes is to look after it. -/
theorem World.Reviving.tending {question : (World E).Question} (h : World.Reviving question) :
    World.Tending question := by
  rcases question with question | errand
  · cases question with
    | log entry =>
      have hmem : entry.event ∈ recoveryEvents := h
      exact ne_of_mem_of_not_mem hmem (by decide)
    | await | reboot | reset | record => trivial
    | _ => cases h
  · cases h

private theorem Session.reviving_logLine {level : LogLevel} {owner component event message : String}
    (h : event ∈ recoveryEvents) :
    Session.Asks World.Reviving (logLine level owner component event message : Work E Unit) :=
  .logLine fun entry hevent => show entry.event ∈ _ from hevent ▸ h

namespace RecoveryPolicy

variable {policy : RecoveryPolicy} {back : Bool} {outcome : Outcome}
  {trace : List (Session.Exchange (World E))}

private theorem reviving_tryRecover :
    Session.Asks World.Reviving (policy.tryRecover device : Work E Bool) := by
  rw [tryRecover]
  split
  · refine .bind (Session.reviving_logLine (by decide)) fun _ => .bind (.request trivial) ?_
    intro back
    cases back with
    | true => exact .pure _
    | false => exact .bind (Session.reviving_logLine (by decide)) fun _ => .pure _
  · refine .bind (Session.reviving_logLine (by decide)) fun _ => .bind (.request trivial) ?_
    intro waited
    cases waited with
    | error error => exact .bind (Session.reviving_logLine (by decide)) fun _ => .pure _
    | ok _ =>
      refine .bind (.request trivial) ?_
      intro rebooted
      cases rebooted with
      | error error => exact .bind (Session.reviving_logLine (by decide)) fun _ => .pure _
      | ok _ => exact .pure _

/-- What is noted, recorded and answered once it is known whether the device is back. -/
def conclude (device : Device) (error : TaskError) (unitName : String) (back : Bool) :
    Work E Outcome :=
  if back then do
    logLine .info device.serial "recovery" "poller_recovered"
      ("Poller recovered after " ++ device.serial ++ " went offline")
    record .recovered device error
    return .ok ()
  else do
    logLine .error device.serial "recovery" "poller_terminating"
      ("Unit " ++ unitName ++ " lost its device. Poller associated with device " ++ device.serial
        ++ " is terminating.")
    record .earlyTermination device error
    return .error error

private theorem handleLoss_eq : (policy.handleLoss device error unitName running : Work E Outcome) =
    (if running > 1 then policy.tryRecover device else pure false) >>=
      conclude device error unitName := by
  rw [handleLoss]
  split <;> rfl

private theorem reviving_conclude :
    Session.Asks World.Reviving (conclude device error unitName back : Work E Outcome) := by
  cases back <;>
    exact .bind (Session.reviving_logLine (by decide)) fun _ =>
      .bind (.request trivial) fun _ => .pure _

/-- A loss is handled by looking after the device, and by telling how that goes. -/
theorem reviving_handleLoss :
    Session.Asks World.Reviving
      (policy.handleLoss device error unitName running : Work E Outcome) := by
  rw [handleLoss_eq]
  refine .bind ?_ fun _ => reviving_conclude
  split
  · exact reviving_tryRecover
  · exact .pure _

/-- A loss is handled quietly. -/
theorem quiet_handleLoss :
    Session.Asks World.Quiet (policy.handleLoss device error unitName running : Work E Outcome) :=
  reviving_handleLoss.mono fun _ h => h.tending.quiet

/-- The calls that are made to bring a device back, and whether it comes back. -/
inductive Tries (policy : RecoveryPolicy) (device : Device) :
    List (Session.Exchange (World E)) → Bool → Prop
  | reset (hkind : device.kind = .virtual) (back : Bool) :
      Tries policy device [⟨.inl (.reset device), back⟩] back
  | gone (hkind : device.kind = .physical) (error : TaskError) :
      Tries policy device [⟨.inl (.await device policy.waitTimeoutMs), .error error⟩] false
  | broken (hkind : device.kind = .physical) (error : TaskError) :
      Tries policy device [⟨.inl (.await device policy.waitTimeoutMs), .ok ()⟩,
        ⟨.inl (.reboot device), .error error⟩] false
  | rebooted (hkind : device.kind = .physical) :
      Tries policy device [⟨.inl (.await device policy.waitTimeoutMs), .ok ()⟩,
        ⟨.inl (.reboot device), .ok ()⟩] true

/-- The calls that are made for a lost device: none for the last poller that is running. -/
inductive Treats (policy : RecoveryPolicy) (device : Device) (running : Int) :
    List (Session.Exchange (World E)) → Bool → Prop
  | spared (hlast : running ≤ 1) : Treats policy device running [] false
  | tried {calls : List (Session.Exchange (World E))} {back : Bool} (hothers : 1 < running)
      (htries : policy.Tries device calls back) : Treats policy device running calls back

/-- The record of a loss: the poller goes on, or it gives up. -/
def entry (device : Device) (error : TaskError) (back : Bool) : Session.Exchange (World E) where
  question := .inl (.record (if back then .info else .error)
    (if back then .recovered else .earlyTermination)
    (.ofList [("serial", device.serial), ("trace", error.describe)]))
  answer := ()

private theorem tries_tryRecover (h : (policy.tryRecover device).Path trace back) :
    policy.Tries (E := E) device (Session.care trace) back := by
  rw [tryRecover] at h
  split at h
  · rename_i hkind
    obtain ⟨_, rfl, hasked⟩ := Session.path_logLine_bind.mp h
    obtain ⟨answer, _, rfl, hreset⟩ := Session.path_request_bind.mp hasked
    cases answer with
    | true =>
      obtain ⟨rfl, rfl⟩ := Session.path_pure.mp hreset
      exact .reset hkind true
    | false =>
      obtain ⟨_, rfl, hdone⟩ := Session.path_logLine_bind.mp hreset
      obtain ⟨rfl, rfl⟩ := Session.path_pure.mp hdone
      exact .reset hkind false
  · rename_i hkind
    obtain ⟨_, rfl, hasked⟩ := Session.path_logLine_bind.mp h
    obtain ⟨answer, _, rfl, hawaited⟩ := Session.path_request_bind.mp hasked
    rcases answer with error | ⟨⟨⟩⟩
    · obtain ⟨_, rfl, hdone⟩ := Session.path_logLine_bind.mp hawaited
      obtain ⟨rfl, rfl⟩ := Session.path_pure.mp hdone
      exact .gone hkind error
    · obtain ⟨answer, _, rfl, hrebooted⟩ := Session.path_request_bind.mp hawaited
      rcases answer with error | ⟨⟨⟩⟩
      · obtain ⟨_, rfl, hdone⟩ := Session.path_logLine_bind.mp hrebooted
        obtain ⟨rfl, rfl⟩ := Session.path_pure.mp hdone
        exact .broken hkind error
      · obtain ⟨rfl, rfl⟩ := Session.path_pure.mp hrebooted
        exact .rebooted hkind

private theorem path_conclude
    (h : (conclude device error unitName back : Work E Outcome).Path trace outcome) :
    Session.care trace = [entry device error back] ∧
      outcome = if back then .ok () else .error error := by
  cases back with
  | true =>
    obtain ⟨_, rfl, hrecord⟩ := Session.path_logLine_bind.mp h
    obtain ⟨_, _, rfl, hdone⟩ := Session.path_request_bind.mp hrecord
    obtain ⟨rfl, rfl⟩ := Session.path_pure.mp hdone
    exact ⟨rfl, rfl⟩
  | false =>
    obtain ⟨_, rfl, hrecord⟩ := Session.path_logLine_bind.mp h
    obtain ⟨_, _, rfl, hdone⟩ := Session.path_request_bind.mp hrecord
    obtain ⟨rfl, rfl⟩ := Session.path_pure.mp hdone
    exact ⟨rfl, rfl⟩

/-- A lost device is treated, and then one record is made of it. A device that does not come back is
given up with the error that told of its loss. -/
theorem treats_handleLoss
    (h : (policy.handleLoss device error unitName running : Work E Outcome).Path trace outcome) :
    ∃ calls back, Session.care trace = calls ++ [entry device error back] ∧
      policy.Treats device running calls back ∧
      outcome = if back then .ok () else .error error := by
  rw [handleLoss_eq] at h
  obtain ⟨back, tried, closing, rfl, htried, hclosing⟩ := Session.path_seq.mp h
  obtain ⟨hrecorded, houtcome⟩ := path_conclude hclosing
  refine ⟨_, back, by rw [Session.care_append, hrecorded], ?_, houtcome⟩
  split at htried
  · rename_i hothers
    exact .tried hothers (tries_tryRecover htried)
  · rename_i hlast
    obtain ⟨rfl, rfl⟩ := Session.path_pure.mp htried
    exact .spared (by omega)

end RecoveryPolicy

end Fleet
