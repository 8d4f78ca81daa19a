import Fleet.Proofs.Module.Preparation

/-!
# What a module cleans up

What was set up is cleaned up in the opposite order, all devices at once before single ones. No
failing call keeps the next one from being made, and all of them are told of the same failure.
-/

namespace Fleet

variable {E : Interface}

/-- What a preparer that is remembered cleans up. -/
def PreparedTarget.target (prepared : PreparedTarget) : Target :=
  .device prepared.preparer prepared.device prepared.build

namespace Module

/-- All that is to be cleaned up, in order. -/
def leftovers (module : Module) : List Target :=
  module.preparedMulti.reverse.map (.all · module.context) ++
    (module.prepared.reverse.filter (·.preparer.cleaner)).map PreparedTarget.target

/-- A preparer for all devices is called with the module's own context. -/
theorem context_of_mem_targets {module : Module} {preparer : MultiPreparer} {context : Context}
    (h : Target.all preparer context ∈ module.targets) : context = module.context := by
  rw [targets, List.mem_append] at h
  rcases h with h | h
  · obtain ⟨entry, -, hentry⟩ := List.mem_flatMap.mp h
    rw [entryTargets] at hentry
    split at hentry
    · simp at hentry
    · simp [Target.ofPreparers] at hentry
  · split at h
    · obtain ⟨_, -, heq⟩ := List.mem_map.mp h
      exact (Target.all.inj heq).2.symm
    · simp at h

private theorem map_preparedMulti {targets : List Target} {context : Context}
    (h : ∀ preparer other, Target.all preparer other ∈ targets → other = context) :
    (targets.filterMap Target.preparedMulti?).map (.all · context) =
      targets.filter (·.isAll) := by
  induction targets with
  | nil => rfl
  | cons target rest ih =>
    have hrest := ih fun preparer other hmem => h preparer other (List.mem_cons_of_mem _ hmem)
    cases target with
    | device preparer device build =>
      rw [List.filterMap_cons_none rfl, List.filter_cons_of_neg (by simp [Target.isAll]), hrest]
    | all preparer other =>
      obtain rfl := h preparer other List.mem_cons_self
      have hkept : (Target.all preparer other).preparedMulti? = some preparer := rfl
      rw [List.filterMap_cons_some hkept, List.filter_cons_of_pos rfl, List.map_cons, hrest]

private theorem map_prepared (targets : List Target) :
    ((targets.filterMap Target.prepared?).filter (·.preparer.cleaner)).map
      PreparedTarget.target = targets.filter (·.isCleaned) := by
  induction targets with
  | nil => rfl
  | cons target rest ih =>
    cases target with
    | device preparer device build =>
      have hkept : (Target.device preparer device build).prepared? =
          some { preparer, device, build } :=
        rfl
      rw [List.filterMap_cons_some hkept]
      by_cases hcleaner : preparer.cleaner = true
      · rw [List.filter_cons_of_pos (by simpa using hcleaner),
          List.filter_cons_of_pos (by simpa [Target.isCleaned] using hcleaner), List.map_cons, ih]
        rfl
      · rw [List.filter_cons_of_neg (by simpa using hcleaner),
          List.filter_cons_of_neg (by simpa [Target.isCleaned] using hcleaner), ih]
    | all preparer context =>
      rw [List.filterMap_cons_none rfl, List.filter_cons_of_neg (by simp [Target.isCleaned]), ih]

/-- What is to be cleaned up is what was called for, backwards: all devices at once, then the single
ones whose preparers clean up. -/
theorem leftovers_remember {module : Module} {targets : List Target}
    (hprepared : module.prepared = []) (hpreparedMulti : module.preparedMulti = [])
    (hcontext : ∀ preparer context, Target.all preparer context ∈ targets →
      context = module.context) :
    (module.remember targets).leftovers =
      (targets.filter (·.isAll)).reverse ++ (targets.filter (·.isCleaned)).reverse := by
  rw [← map_preparedMulti hcontext, ← map_prepared]
  simp [leftovers, remember, hprepared, hpreparedMulti, List.map_reverse, List.filter_reverse]

variable {first last : Module} {trace before after : List (Session.Exchange (World E))}
  {result : Except Thrown (Option TaskError)} {failure : Option TaskError}
  {targets more : List Target} {undone others : List TearDown}

/-- In the conversation these calls are made for these targets, told of this failure. -/
structure Undoes (trace : List (Session.Exchange (World E))) (failure : Option TaskError)
    (targets : List Target) (undone : List TearDown) : Prop where
  targets : undone.map TearDown.target = targets
  told : ∀ call ∈ undone, call.told = failure
  deeds : Session.deeds trace = undone.map .tornDown
  wirings : Session.wirings trace = []

private theorem undoes_nil : Undoes ([] : List (Session.Exchange (World E))) failure [] [] :=
  ⟨rfl, by simp, rfl, rfl⟩

private theorem Undoes.append (h : Undoes before failure targets undone)
    (hmore : Undoes after failure more others) :
    Undoes (before ++ after) failure (targets ++ more) (undone ++ others) where
  targets := by rw [List.map_append, h.targets, hmore.targets]
  told := List.forall_mem_append.mpr ⟨h.told, hmore.told⟩
  deeds := by rw [Session.deeds_append, h.deeds, hmore.deeds, List.map_append]
  wirings := by rw [Session.wirings_append, h.wirings, hmore.wirings, List.append_nil]

private theorem ends_noteTearDown {name : String} {earlier failed : Option TaskError}
    (h : (noteTearDown name earlier (.ofFailure failed)).Ends first trace result last) :
    Session.Idling trace ∧ result = .ok (earlier <|> failed) ∧ last = first := by
  cases failed with
  | none =>
    obtain ⟨rfl, rfl, rfl⟩ := Flow.ends_pure.mp h
    exact ⟨Session.idling_nil, by cases earlier <;> rfl, rfl⟩
  | some error =>
    obtain ⟨before, after, rfl, hbefore, hdone⟩ := ends_log_bind h
    obtain ⟨rfl, rfl, rfl⟩ := Flow.ends_pure.mp hdone
    exact ⟨by simpa using hbefore, rfl, rfl⟩

/-- A call to clean up is made and its failure is noted; then cleaning up goes on. -/
theorem ends_noted (call : TearDown) {earlier : Option TaskError}
    {f : Option TaskError → Flow E Module (Option TaskError)} (hkind : call.exit ≠ .error .other)
    (h : (settle call.target.name .targetSetup call.exit >>= fun outcome =>
      noteTearDown call.target.name earlier outcome >>= f).Ends first trace result last) :
    ∃ before after, trace = before ++ after ∧ Session.Idling before ∧
      (f (earlier <|> call.failure?)).Ends first after result last := by
  rw [settle_eq hkind, pure_bind] at h
  rcases Flow.ends_bind.mp h with
    ⟨thrown, hthrown, -⟩ | ⟨noted, before, after, mid, rfl, hnoted, hrest⟩
  · obtain ⟨-, hnot, -⟩ := ends_noteTearDown hthrown
    cases hnot
  · obtain ⟨hbefore, hresult, rfl⟩ := ends_noteTearDown hnoted
    obtain rfl := Except.ok.inj hresult
    exact ⟨before, after, rfl, hbefore, hrest⟩

private theorem orElse_findSome?_cons (earlier : Option TaskError) (call : TearDown) :
    ((earlier <|> call.failure?) <|> others.findSome? TearDown.failure?) =
      (earlier <|> (call :: others).findSome? TearDown.failure?) := by
  cases earlier <;> cases hfailure : call.failure? <;> simp [hfailure]

private theorem ends_tearDownAll {preparers : List MultiPreparer} {earlier : Option TaskError}
    (h : (tearDownAll failure earlier preparers).Ends first trace result last)
    (horderly : Session.Orderly trace) :
    ∃ undone, Undoes trace failure (preparers.map (.all · first.context)) undone ∧
      result = .ok (earlier <|> undone.findSome? TearDown.failure?) ∧ last = first := by
  induction preparers generalizing trace earlier with
  | nil =>
    obtain ⟨rfl, rfl, rfl⟩ := Flow.ends_pure.mp h
    exact ⟨[], undoes_nil, by simp, rfl⟩
  | cons preparer rest ih =>
    rw [tearDownAll, Flow.ends_get_bind] at h
    obtain ⟨exit, later, rfl, hsettle⟩ := Flow.ends_request_bind.mp h
    obtain ⟨hkind, hlater⟩ := Session.orderly_cons.mp horderly
    let call : TearDown := ⟨.all preparer first.context, failure, exit⟩
    obtain ⟨before, after, rfl, hbefore, hrest⟩ := ends_noted call hkind hsettle
    obtain ⟨undone, hundone, rfl, rfl⟩ := ih hrest (Session.orderly_append.mp hlater).2
    have hcall : Undoes (⟨.inl (.tearDownAll preparer last.context failure), exit⟩ :: before)
        failure [.all preparer last.context] [call] :=
      ⟨rfl, by simp [call], by rw [Session.deeds_request, hbefore.deeds]; rfl, hbefore.wirings⟩
    exact ⟨call :: undone, hcall.append hundone, by rw [orElse_findSome?_cons], rfl⟩

private theorem ends_tearDownDevices {targets : List PreparedTarget} {earlier : Option TaskError}
    (h : (tearDownDevices failure earlier targets).Ends first trace result last)
    (horderly : Session.Orderly trace) :
    ∃ undone, Undoes trace failure
        ((targets.filter (·.preparer.cleaner)).map PreparedTarget.target) undone ∧
      result = .ok (earlier <|> undone.findSome? TearDown.failure?) ∧ last = first := by
  induction targets generalizing trace earlier with
  | nil =>
    obtain ⟨rfl, rfl, rfl⟩ := Flow.ends_pure.mp h
    exact ⟨[], undoes_nil, by simp, rfl⟩
  | cons target rest ih =>
    rw [tearDownDevices] at h
    split at h
    · rename_i hcleaner
      obtain ⟨exit, later, rfl, hsettle⟩ := Flow.ends_request_bind.mp h
      obtain ⟨hkind, hlater⟩ := Session.orderly_cons.mp horderly
      let call : TearDown := ⟨target.target, failure, exit⟩
      obtain ⟨before, after, rfl, hbefore, hrest⟩ := ends_noted call hkind hsettle
      obtain ⟨undone, hundone, rfl, rfl⟩ := ih hrest (Session.orderly_append.mp hlater).2
      have hcall : Undoes (⟨.inl (.tearDown target.preparer target.device target.build failure),
          exit⟩ :: before) failure [target.target] [call] :=
        ⟨rfl, by simp [call], by rw [Session.deeds_request, hbefore.deeds]; rfl, hbefore.wirings⟩
      rw [show (target :: rest).filter (·.preparer.cleaner) =
        target :: rest.filter (·.preparer.cleaner) by simp [hcleaner]]
      exact ⟨call :: undone, hcall.append hundone, by rw [orElse_findSome?_cons], rfl⟩
    · rename_i hplain
      simpa [hplain] using ih h horderly

/-- All that was set up is cleaned up and forgotten; it fails as the first failing call did. -/
theorem ends_tearDown (h : (tearDown failure).Ends first trace result last)
    (horderly : Session.Orderly trace) :
    ∃ undone, Undoes trace failure first.leftovers undone ∧
      result = .ok (undone.findSome? TearDown.failure?) ∧
      last = { first with prepared := [], preparedMulti := [] } := by
  rw [tearDown, Flow.ends_get_bind] at h
  rcases Flow.ends_bind.mp h with
    ⟨thrown, hthrown, -⟩ | ⟨noted, before, after, mid, rfl, hall, hrest⟩
  · obtain ⟨_, -, hnot, -⟩ := ends_tearDownAll hthrown horderly
    cases hnot
  · obtain ⟨hbefore, hafter⟩ := Session.orderly_append.mp horderly
    obtain ⟨undone, hundone, hnoted, rfl⟩ := ends_tearDownAll hall hbefore
    obtain rfl := Except.ok.inj hnoted
    rw [Flow.ends_get_bind] at hrest
    rcases Flow.ends_bind.mp hrest with
      ⟨thrown, hthrown, -⟩ | ⟨noted, single, done, mid, rfl, hdevices, hdone⟩
    · obtain ⟨_, -, hnot, -⟩ := ends_tearDownDevices hthrown hafter
      cases hnot
    · obtain ⟨others, hothers, hnoted, rfl⟩ :=
        ends_tearDownDevices hdevices (Session.orderly_append.mp hafter).1
      obtain rfl := Except.ok.inj hnoted
      rw [Flow.ends_modify_bind] at hdone
      obtain ⟨rfl, rfl, rfl⟩ := Flow.ends_pure.mp hdone
      rw [List.append_nil]
      refine ⟨undone ++ others, hundone.append hothers, ?_, rfl⟩
      rw [List.findSome?_append]
      cases undone.findSome? TearDown.failure? <;> simp

end Module

end Fleet
