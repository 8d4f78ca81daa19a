import Fleet.Proofs.InTurn
import Fleet.Proofs.Module.Asides

/-!
# What a module sets up

The targets of a module are known before it starts: they are read off its preparers and the devices
it holds. Preparing calls for them in turn, up to the first failure, and remembers each one it
called for.
-/

namespace Fleet

variable {E : Interface}

namespace Target

/-- What several preparers do to one device; disabled ones do nothing. -/
def ofPreparers (device : Device) (build : Option Build) (preparers : List Preparer) :
    List Target :=
  (preparers.filter (!·.disabled)).map (.device · device build)

/-- What several preparers do to all devices; disabled ones do nothing. -/
def ofMultiPreparers (context : Context) (preparers : List MultiPreparer) : List Target :=
  (preparers.filter (!·.disabled)).map (.all · context)

private theorem ofPreparers_cons {device : Device} {build : Option Build} {preparer : Preparer}
    {rest : List Preparer} :
    ofPreparers device build (preparer :: rest) =
      ofPreparers device build [preparer] ++ ofPreparers device build rest := by
  rw [ofPreparers, ofPreparers, ofPreparers, ← List.map_append, ← List.filter_append,
    List.singleton_append]

private theorem ofMultiPreparers_cons {context : Context} {preparer : MultiPreparer}
    {rest : List MultiPreparer} :
    ofMultiPreparers context (preparer :: rest) =
      ofMultiPreparers context [preparer] ++ ofMultiPreparers context rest := by
  rw [ofMultiPreparers, ofMultiPreparers, ofMultiPreparers, ← List.map_append,
    ← List.filter_append, List.singleton_append]

/-- How a single device is remembered. -/
def prepared? : Target → Option PreparedTarget
  | device preparer handled build => some { preparer, device := handled, build }
  | all .. => none

/-- How the preparing of all devices is remembered. -/
def preparedMulti? : Target → Option MultiPreparer
  | device .. => none
  | all preparer _ => some preparer

end Target

namespace Module

/-- Whether there is a device for the preparers filed under a name. -/
def resolves (module : Module) (entry : String × List Preparer) : Bool :=
  (module.resolveDevice entry.1).isSome

/-- What the preparers filed under a name are to do. -/
def entryTargets (module : Module) (entry : String × List Preparer) : List Target :=
  match module.resolveDevice entry.1 with
  | none => []
  | some device => Target.ofPreparers device (module.resolveBuild entry.1) entry.2

/-- What the preparers of single devices are to do, in the order of their names: a name without a
device ends it. -/
def deviceTargets (module : Module) (entries : List (String × List Preparer)) : List Target :=
  (entries.takeWhile module.resolves).flatMap module.entryTargets

/-- The failure to find a device for the first name that has none. -/
def missingDevice (module : Module) (entries : List (String × List Preparer)) :
    Option TaskError :=
  (entries.find? (!module.resolves ·)).map fun entry =>
    { category := .configuration, code := 501,
      message := "No device allocated for '" ++ entry.1 ++ "'", origin := module.id }

/-- All that is to be set up, in order: single devices, and if there is one for every name, all
devices at once. -/
def targets (module : Module) : List Target :=
  module.deviceTargets module.preparers ++
    if (module.missingDevice module.preparers).isNone then
      Target.ofMultiPreparers module.context module.multiPreparers
    else []

/-- The module that remembers to have called for some targets. -/
def remember (targets : List Target) (module : Module) : Module :=
  { module with
    prepared := module.prepared ++ targets.filterMap Target.prepared?
    preparedMulti := module.preparedMulti ++ targets.filterMap Target.preparedMulti? }

private theorem remember_nil (module : Module) : module.remember [] = module := by
  simp [remember]

private theorem remember_remember (module : Module) (targets more : List Target) :
    (module.remember targets).remember more = module.remember (targets ++ more) := by
  simp [remember]

variable {first mid last : Module} {trace before after : List (Session.Exchange (World E))}
  {result : Except Thrown (Option TaskError)} {targets more : List Target}
  {missing : Option TaskError} {made others : List SetUp}

/-- In the conversation these calls are made for these targets, in turn, and remembered. It fails as
the first failing call did, or else for what is missing. -/
structure SetsUp (first : Module) (trace : List (Session.Exchange (World E)))
    (result : Except Thrown (Option TaskError)) (last : Module) (targets : List Target)
    (missing : Option TaskError) (made : List SetUp) : Prop where
  inTurn : InTurn SetUp.target SetUp.failure? targets made
  deeds : Session.deeds trace = made.map .setUp
  wirings : Session.wirings trace = []
  last : last = first.remember (made.map SetUp.target)
  result : result = .ok (made.findSome? SetUp.failure? <|> missing)

namespace SetsUp

private theorem nothing (first : Module) (missing : Option TaskError) (h : Session.Idling trace) :
    SetsUp first trace (.ok missing) first [] missing [] :=
  ⟨.finished, h.deeds, h.wirings, (remember_nil first).symm, rfl⟩

/-- What is set up next follows what was set up, unless that failed. -/
theorem andThen {failed : Option TaskError}
    (h : SetsUp first before (.ok failed) mid targets none made)
    (hstopped : ∀ error, failed = some error →
      after = [] ∧ result = .ok (some error) ∧ last = mid)
    (hgoesOn : failed = none → ∃ others, SetsUp mid after result last more missing others) :
    ∃ all, SetsUp first (before ++ after) result last (targets ++ more) missing all := by
  have hfailed : failed = made.findSome? SetUp.failure? := by simpa using h.result
  cases hstops : made.findSome? SetUp.failure? with
  | some error =>
    obtain ⟨rfl, rfl, rfl⟩ := hstopped error (hfailed.trans hstops)
    refine ⟨made, h.inTurn.append_of_stopped hstops more, by simpa using h.deeds,
      by simpa using h.wirings, h.last, ?_⟩
    rw [hstops]
    rfl
  | none =>
    obtain ⟨others, hothers⟩ := hgoesOn (hfailed.trans hstops)
    refine ⟨made ++ others, h.inTurn.append hstops hothers.inTurn, ?_, ?_, ?_, ?_⟩
    · rw [Session.deeds_append, h.deeds, hothers.deeds, List.map_append]
    · rw [Session.wirings_append, h.wirings, hothers.wirings, List.append_nil]
    · rw [hothers.last, h.last, remember_remember, List.map_append]
    · rw [hothers.result, List.findSome?_append, hstops]
      rfl

end SetsUp

private theorem ends_setUpOne {preparer : Preparer} {device : Device} {build : Option Build}
    (h : (setUpOne preparer device build).Ends first trace result last)
    (horderly : Session.Orderly trace) :
    ∃ made, SetsUp first trace result last (Target.ofPreparers device build [preparer]) none
      made := by
  rw [setUpOne] at h
  split at h
  · rename_i hdisabled
    obtain ⟨before, after, rfl, hbefore, hdone⟩ := ends_log_bind h
    obtain ⟨rfl, rfl, rfl⟩ := Flow.ends_pure.mp hdone
    refine ⟨[], ?_⟩
    simpa [Target.ofPreparers, hdisabled] using SetsUp.nothing last none hbefore
  · rename_i henabled
    rw [Flow.ends_modify_bind] at h
    obtain ⟨exit, rest, rfl, hsettle⟩ := Flow.ends_request_bind.mp h
    have hkind : exit ≠ .error .other := (Session.orderly_cons.mp horderly).1
    rw [settle_eq hkind, pure_bind] at hsettle
    let call : SetUp := ⟨.device preparer device build, exit⟩
    have hended : rest = [] ∧ result = .ok call.failure? ∧
        last = first.remember [call.target] := by
      unfold SetUp.failure?
      cases hfailure : call.exit.failure? preparer.name .targetSetup with
      | none =>
        rw [hfailure] at hsettle
        obtain ⟨rfl, rfl, rfl⟩ := Flow.ends_pure.mp hsettle
        simp [call, remember, Target.prepared?, Target.preparedMulti?, Target.name, hfailure]
      | some error =>
        rw [hfailure] at hsettle
        obtain ⟨rfl, rfl, rfl⟩ := Flow.ends_pure.mp hsettle
        simp [call, remember, Target.prepared?, Target.preparedMulti?, Target.name, hfailure]
    obtain ⟨rfl, rfl, rfl⟩ := hended
    refine ⟨[call], ?_, rfl, rfl, rfl, by simp⟩
    simpa [Target.ofPreparers, henabled] using InTurn.single SetUp.target SetUp.failure? call

private theorem ends_setUpDevice {device : Device} {build : Option Build}
    {preparers : List Preparer}
    (h : (setUpDevice device build preparers).Ends first trace result last)
    (horderly : Session.Orderly trace) :
    ∃ made, SetsUp first trace result last (Target.ofPreparers device build preparers) none
      made := by
  induction preparers generalizing first trace with
  | nil =>
    obtain ⟨rfl, rfl, rfl⟩ := Flow.ends_pure.mp h
    exact ⟨[], .nothing _ _ Session.idling_nil⟩
  | cons preparer rest ih =>
    rw [setUpDevice] at h
    rw [Target.ofPreparers_cons]
    rcases Flow.ends_bind.mp h with
      ⟨thrown, hthrown, -⟩ | ⟨failed, before, after, mid, rfl, hone, hrest⟩
    · obtain ⟨_, hmade⟩ := ends_setUpOne hthrown horderly
      cases hmade.result
    · obtain ⟨hbefore, hafter⟩ := Session.orderly_append.mp horderly
      obtain ⟨made, hmade⟩ := ends_setUpOne hone hbefore
      refine hmade.andThen (fun error hfailed => ?_) fun hgoesOn => ?_
      · rw [hfailed] at hrest
        exact Flow.ends_pure.mp hrest
      · rw [hgoesOn] at hrest
        exact ih hrest hafter

private theorem ends_setUpDevices {entries : List (String × List Preparer)}
    (h : (setUpDevices entries).Ends first trace result last)
    (horderly : Session.Orderly trace) :
    ∃ made, SetsUp first trace result last (first.deviceTargets entries)
      (first.missingDevice entries) made := by
  induction entries generalizing first trace with
  | nil =>
    obtain ⟨rfl, rfl, rfl⟩ := Flow.ends_pure.mp h
    exact ⟨[], .nothing _ _ Session.idling_nil⟩
  | cons entry rest ih =>
    rw [setUpDevices, Flow.ends_get_bind] at h
    split at h
    · rename_i hnone
      obtain ⟨rfl, rfl, rfl⟩ := Flow.ends_pure.mp h
      refine ⟨[], ?_⟩
      simpa [deviceTargets, missingDevice, resolves, hnone] using
        SetsUp.nothing last _ Session.idling_nil
    · rename_i device hsome
      have htargets : first.deviceTargets (entry :: rest) =
          Target.ofPreparers device (first.resolveBuild entry.1) entry.2 ++
            first.deviceTargets rest := by
        simp [deviceTargets, resolves, entryTargets, hsome]
      have hmissing : first.missingDevice (entry :: rest) = first.missingDevice rest := by
        simp [missingDevice, resolves, hsome]
      rw [htargets, hmissing]
      rcases Flow.ends_bind.mp h with
        ⟨thrown, hthrown, -⟩ | ⟨failed, before, after, mid, rfl, hdevice, hrest⟩
      · obtain ⟨_, hmade⟩ := ends_setUpDevice hthrown horderly
        cases hmade.result
      · obtain ⟨hbefore, hafter⟩ := Session.orderly_append.mp horderly
        obtain ⟨made, hmade⟩ := ends_setUpDevice hdevice hbefore
        refine hmade.andThen (fun error hfailed => ?_) fun hgoesOn => ?_
        · rw [hfailed] at hrest
          exact Flow.ends_pure.mp hrest
        · rw [hgoesOn] at hrest
          -- What there is to set up does not depend on what is remembered.
          obtain rfl := hmade.last
          exact ih hrest hafter

private theorem ends_setUpAll {preparers : List MultiPreparer}
    (h : (setUpAll preparers).Ends first trace result last)
    (horderly : Session.Orderly trace) :
    ∃ made, SetsUp first trace result last (Target.ofMultiPreparers first.context preparers) none
      made := by
  induction preparers generalizing first trace with
  | nil =>
    obtain ⟨rfl, rfl, rfl⟩ := Flow.ends_pure.mp h
    exact ⟨[], .nothing _ _ Session.idling_nil⟩
  | cons preparer rest ih =>
    rw [setUpAll] at h
    rw [Target.ofMultiPreparers_cons]
    split at h
    · rename_i hdisabled
      simpa [Target.ofMultiPreparers, hdisabled] using ih h horderly
    · rename_i henabled
      rw [Flow.ends_modify_bind, Flow.ends_get_bind] at h
      obtain ⟨exit, later, rfl, hsettle⟩ := Flow.ends_request_bind.mp h
      obtain ⟨hkind, hlater⟩ := Session.orderly_cons.mp horderly
      rw [settle_eq hkind, pure_bind] at hsettle
      let call : SetUp := ⟨.all preparer first.context, exit⟩
      have hone : SetsUp first [⟨.inl (.setUpAll preparer first.context), exit⟩]
          (.ok call.failure?) { first with preparedMulti := first.preparedMulti ++ [preparer] }
          (Target.ofMultiPreparers first.context [preparer]) none [call] := by
        refine ⟨?_, rfl, rfl, ?_, by simp⟩
        · simpa [Target.ofMultiPreparers, henabled] using
            InTurn.single SetUp.target SetUp.failure? call
        · simp [call, remember, Target.prepared?, Target.preparedMulti?]
      refine hone.andThen (fun error hfailed => ?_) fun hgoesOn => ?_
      · obtain ⟨returned, hreturned, rfl⟩ := Option.map_eq_some_iff.mp hfailed
        have hexit : Exit.failure? preparer.name .targetSetup exit = some returned := hreturned
        rw [hexit] at hsettle
        exact Flow.ends_pure.mp hsettle
      · have hexit : Exit.failure? preparer.name .targetSetup exit = none :=
          Option.map_eq_none_iff.mp hgoesOn
        rw [hexit] at hsettle
        exact ih hsettle hlater

/-- Preparing calls for the targets in turn; it fails as the first failing call did, or for want of
a device. -/
theorem ends_prepare (h : prepare.Ends first trace result last)
    (horderly : Session.Orderly trace) :
    ∃ made, SetsUp first trace result last first.targets (first.missingDevice first.preparers)
      made := by
  rw [prepare, Flow.ends_get_bind] at h
  rcases Flow.ends_bind.mp h with
    ⟨thrown, hthrown, -⟩ | ⟨failed, before, after, mid, rfl, hdevices, hrest⟩
  · obtain ⟨_, hmade⟩ := ends_setUpDevices hthrown horderly
    cases hmade.result
  · obtain ⟨hbefore, hafter⟩ := Session.orderly_append.mp horderly
    obtain ⟨made, hmade⟩ := ends_setUpDevices hdevices hbefore
    rw [targets]
    cases hmissing : first.missingDevice first.preparers with
    | some error =>
      rw [hmissing] at hmade
      cases failed with
      | none => simpa using hmade.result
      | some failure =>
        obtain ⟨rfl, rfl, rfl⟩ := Flow.ends_pure.mp hrest
        exact ⟨made, by simpa using hmade⟩
    | none =>
      rw [hmissing] at hmade
      refine hmade.andThen (fun error hfailed => ?_) fun hgoesOn => ?_
      · rw [hfailed] at hrest
        exact Flow.ends_pure.mp hrest
      · rw [hgoesOn] at hrest
        obtain rfl := hmade.last
        exact ends_setUpAll (Flow.ends_get_bind.mp hrest) hafter

end Module

end Fleet
