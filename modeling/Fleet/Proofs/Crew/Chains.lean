import Fleet.Proofs.Crew.Career
import Fleet.Proofs.Crew.SignOut
import Fleet.Proofs.Invocation.OpenRuns
import Fleet.Proofs.Poller.Chain

/-!
# Chains of collectors in a career

A poller wires its collectors once in a run, before its first unit. From then on every unit that
wires none itself reports to the outermost collector. Its events pass through all of them to the
poller's own listener, as long as no unit before it has started a collector again. Once one has,
nothing that such a unit tells is sent any more.
-/

namespace Fleet

variable {E : Interface}

namespace Poller

/-- The first collectors have been put around the poller's own listener, each around the one
before. -/
structure Wired (reached : Nat) (poller : Poller) : Prop
    extends Network.Seated poller.resources.collectors poller.network where
  linked : ∀ position, position < reached → ∃ meter : Collector,
    poller.network[collectorNode position]? = some (.collector meter (some position)) ∧
      meter.context = poller.resources.context
  entry : poller.entry = reached

/-- A poller that has not started is ready to wire its collectors. -/
theorem wired_ofResources (resources : Resources) : (ofResources resources).Wired 0 where
  exit := rfl
  seats position id hid := by
    refine ⟨{ id }, none, ?_, rfl⟩
    rw [ofResources, collectorNode, List.getElem?_cons_succ, List.getElem?_map]
    exact congrArg (Option.map _) hid
  silent place listener hplace hlistener := by
    have hlength := (List.getElem?_eq_some_iff.mp hlistener).1
    simp only [ofResources, List.length_cons, List.length_map] at hplace hlength
    omega
  linked := nofun
  entry := rfl

variable {poller : Poller}

/-- When all collectors are wired, the chain is intact. -/
theorem Wired.chain (h : poller.Wired poller.resources.collectors.length) :
    poller.network.Chain poller.resources.collectors poller.resources.context
      poller.resources.collectors.length where
  toSeated := h.toSeated
  intact_le := Nat.le_refl _
  linked := h.linked
  adrift place listener hplace hlistener := by
    rw [h.silent place listener hplace hlistener]
    trivial

/-- One more collector is put around the others. -/
theorem Wired.wrap {reached : Nat} {last : Network} {trace : List (Session.Exchange (World E))}
    (h : poller.Wired reached) (hreached : reached < poller.resources.collectors.length)
    (hwrap : (Network.wrap (collectorNode reached) poller.resources.context poller.entry).Ends
      poller.network trace (.ok ()) last) :
    Wired (reached + 1) { poller with network := last, entry := collectorNode reached } := by
  obtain ⟨meter, next, hmeter, -⟩ := h.seats reached _ (List.getElem?_eq_getElem hreached)
  obtain ⟨-, ⟨-, rfl⟩ | ⟨_, hnot, -⟩⟩ := Network.ends_wrap hmeter hwrap
  swap
  · cases hnot
  refine ⟨h.toSeated.set hmeter rfl, fun position hposition => ?_, rfl⟩
  rcases Nat.lt_succ_iff_lt_or_eq.mp hposition with hlower | rfl
  · obtain ⟨kept, hkept, hstarted⟩ := h.linked position hlower
    have hne : collectorNode reached ≠ collectorNode position := by
      simp only [collectorNode]
      omega
    exact ⟨kept, (List.getElem?_set_ne hne).trans hkept, hstarted⟩
  · have hlength := (List.getElem?_eq_some_iff.mp hmeter).1
    have hset := List.getElem?_set_self (l := poller.network)
      (a := Listener.collector { meter with context := poller.resources.context } poller.entry)
      hlength
    rw [h.entry] at hset ⊢
    exact ⟨_, hset, rfl⟩

end Poller

namespace Station

variable {conducts : Conducts E} {first last : Station}
  {trace : List (Session.Exchange (World E))}

/-- Put the collector at a position around those before it. -/
def putUp (context : Option Context) (position : Nat) : Flow E Station Unit := do
  onNetwork (Network.wrap (Poller.collectorNode position) context (← get).poller.entry)
  modify (updatePoller ({ · with entry := Poller.collectorNode position }))

private theorem wireCollectors_eq : wireCollectors (E := E) = do
    let resources := (← get).poller.resources
    (List.range resources.collectors.length).forM (putUp resources.context)
    return .seekingGated :=
  rfl

/-- Collectors that are put up one after the other are wired. -/
theorem wired_of_forM {resources : Resources} {count reached : Nat} {ended : Unit}
    (hcount : reached + count = resources.collectors.length)
    (hresources : first.poller.resources = resources) (h : first.poller.Wired reached)
    (hforM : ((List.range' reached count).forM (putUp (E := E) resources.context)).Ends first trace
      (.ok ended) last) :
    last.poller.resources = resources ∧ last.poller.Wired resources.collectors.length := by
  induction count generalizing reached first trace with
  | zero =>
    obtain ⟨-, -, rfl⟩ := Flow.ends_pure.mp hforM
    exact ⟨hresources, hcount ▸ h⟩
  | succ count ih =>
    rw [List.range'_succ, List.forM] at hforM
    rcases Flow.ends_bind.mp hforM with ⟨_, -, hnot⟩ | ⟨⟨⟩, _, _, mid, -, hputUp, hrest⟩
    · cases hnot
    rw [putUp, Flow.ends_get_bind] at hputUp
    rcases Flow.ends_bind.mp hputUp with ⟨_, -, hnot⟩ | ⟨⟨⟩, _, _, between, -, hwrapped, hentry⟩
    · cases hnot
    obtain ⟨network, hwrap, rfl⟩ := Flow.ends_within.mp hwrapped
    obtain ⟨-, -, rfl⟩ := Flow.ends_modify.mp hentry
    have hreached : reached < first.poller.resources.collectors.length := by
      rw [hresources]
      omega
    have hwired := h.wrap hreached (hresources ▸ hwrap)
    have hleft : reached + 1 + count = resources.collectors.length := by omega
    refine ih hleft ?_ hwired hrest
    exact hresources

/-- Once its collectors are wired, the poller reports to the outermost one. -/
theorem wired_of_wireCollectors {phase : Phase} (h : first.poller.Wired 0)
    (hwires : wireCollectors.Ends first trace (.ok phase) last) :
    last.poller.resources = first.poller.resources ∧
      last.poller.Wired first.poller.resources.collectors.length := by
  rw [wireCollectors_eq, Flow.ends_get_bind] at hwires
  rcases Flow.ends_bind.mp hwires with ⟨_, -, hnot⟩ | ⟨⟨⟩, _, _, mid, -, hforM, hdone⟩
  · cases hnot
  obtain ⟨-, -, rfl⟩ := Flow.ends_pure.mp hdone
  rw [List.range_eq_range'] at hforM
  exact wired_of_forM (Nat.zero_add _) rfl h hforM

/-- The listeners of the poller are those it is equipped with. -/
def Seated (ids : List Nat) (station : Station) : Prop :=
  station.poller.network.Seated ids

private theorem Discreet.keeps_seated {α : Type} {ids : List Nat} {flow : Flow E Station α}
    (h : Discreet flow) : flow.Keeps (Seated ids) := by
  refine Flow.keeps_iff.mpr fun first trace result last hends hfirst => ?_
  rw [Seated, (h hends).moved.network]
  exact hfirst

private theorem keeps_seated_wireCollectors {ids : List Nat} :
    (wireCollectors (E := E)).Keeps (Seated ids) := by
  rw [wireCollectors_eq]
  refine .bind .get fun station => .bind (.forM fun position => ?_) fun _ => .pure _
  exact .bind .get fun mid => .bind
    (Flow.Keeps.within Network.Seated.keeps_wrap (fun _ h => h) fun _ _ h => h) fun _ =>
      .modify fun _ h => h

private theorem keeps_seated_reportUnit {ids : List Nat} {unit : TestUnit} {message : String} :
    (reportUnit conducts unit message).Keeps (Seated ids) := by
  unfold reportUnit
  split
  · exact .bind (.modify fun _ h => h) fun _ =>
      Flow.Keeps.within Poller.keeps_seated_play (fun _ h => h) fun _ _ h => h
  · exact .bind (.modify fun _ h => h) fun _ => .bind .get fun _ => .work (.trivial _)

private theorem keeps_seated_finalReport {ids : List Nat} :
    (finalReport conducts).Keeps (Seated ids) :=
  obeys_finalReport (fun _ _ h => h) (fun _ _ => keeps_seated_reportUnit) fun _ =>
    .bind .get fun _ => .work (.trivial _)

/-- A poller that wires its collectors, or has decided how it leaves, leaves its listeners at their
places. -/
theorem seated_of_step {ids : List Nat}
    (hphase : first.poller.phase = .wiringCollectors ∨
      ∃ exit, first.poller.phase.decided? = some exit)
    (hstep : (first.step conducts).Path trace last) (h : first.Seated ids) : last.Seated ids := by
  obtain ⟨result, mid, hact, rfl⟩ := ends_of_step hstep
  have hkeeps : (act conducts first.poller.phase).Keeps (Seated ids) := by
    cases hbefore : first.poller.phase with
    | wiringCollectors => exact keeps_seated_wireCollectors
    | leaving exit => exact discreet_signOut.keeps_seated
    | reporting exit => exact .bind keeps_seated_finalReport fun _ => .pure _
    | left exit => exact .pure _
    | _ =>
      rw [hbefore] at hphase
      rcases hphase with hnot | ⟨_, hnot⟩ <;> cases hnot
  have hmid : mid.Seated ids := (hkeeps hact).moved h
  exact hmid

/-- A poller wires its collectors first only. -/
theorem Move.phase_ne_wiringCollectors (h : first.Move conducts trace last) :
    last.poller.phase ≠ .wiringCollectors := by
  cases h with
  | @seek fallback found _ _ _ _ hphase =>
    cases found with
    | some unit => nofun
    | none =>
      intro hwiring
      obtain rfl : fallback = .wiringCollectors := hwiring
      generalize first.poller.phase = before at hphase
      cases hphase
  | @handle next dropped _ _ _ hhandles =>
    intro hwiring
    obtain rfl : next = .wiringCollectors := hwiring
    generalize first.poller.phase = before at hhandles
    cases hhandles with
    | executed _ hnext => rcases hnext with hnot | ⟨_, hnot⟩ | ⟨_, hnot⟩ <;> cases hnot
  | signOut =>
    dsimp only
    split <;> nofun
  | report => nofun
  | rest hphase =>
    rw [hphase]
    nofun

/-- The execution of a unit frays the chain as far as the unit starts collectors. -/
theorem frays_of_execute {ids : List Nat} {context : Option Context} {intact : Nat}
    {unit : TestUnit} {result : Except Thrown Phase}
    (h : first.poller.network.Chain ids context intact)
    (hexecute : (execute conducts unit).Ends first trace result last) :
    ∃ left, last.poller.network.Chain ids context left ∧
      last.poller.entry = first.poller.entry ∧ last.poller.resources = first.poller.resources ∧
      Poller.Frays ids.length (Poller.target unit first.poller.entry) intact left trace := by
  obtain ⟨run, rest, ran, network, rfl, hquiet, hrun, hnetwork, hentry, hresources, hlogs⟩ :=
    ends_execute_discreet hexecute
  obtain ⟨left, hchain, hfrays⟩ := Poller.frays_execute h hrun
  have hstarted : Session.started rest = [] :=
    Session.started_eq_nil fun exchange hexchange =>
      World.Logging.unstarting (hlogs exchange hexchange)
  exact ⟨left, hnetwork ▸ hchain, hentry, hresources,
    hfrays.append (.refl hstarted fun _ => Session.sent_of_deeds_nil hquiet)⟩

end Station

private theorem Phase.started_ne_nil {phase : Phase} :
    phase.started ≠ [] ↔ ∃ unit, phase = .executing unit := by
  cases phase <;> simp [started]

private theorem Phase.executing_of_started {phase : Phase} {unit : TestUnit}
    (h : phase.started = [unit]) :
    phase = .executing unit := by
  cases phase <;> simp_all [started]

/-- A unit is run in this step and starts a collector. -/
def Stint.Restarts (stint : Stint E) : Prop :=
  (∃ unit, stint.before.poller.phase = .executing unit) ∧ Session.started stint.said ≠ []

instance {stint : Stint E} : Decidable stint.Restarts :=
  decidable_of_iff (stint.before.poller.phase.started ≠ [] ∧ Session.started stint.said ≠ [])
    (and_congr_left' Phase.started_ne_nil)

namespace Conduct

/-- Units that start the collectors at these positions again, if they are handed any, and then tell
events. -/
def restarting (positions : List Nat) (events : List Event) : Conducts .silent := fun unit =>
  { idle with
    run := fun _ => do
      if unit.capabilities.collectors then
        positions.forM fun position => do
          let _ ← Performance.wrap position none
      let _ ← Performance.sendAll events
      return .ok (.ok ()) }

variable {positions : List Nat} {events : List Event} {unit : TestUnit}
  {received : List Dependency}

/-- The event is told, whatever the listener makes of it. -/
theorem told_restarting {event : Event} (hraw : unit.capabilities.collectors = false)
    {played : List (Session.Exchange (stage.sum .silent))} {result : Except Thrown Outcome}
    (h : ((restarting positions [event] unit).run received).Path played result) :
    Performance.told played = [event] := by
  simp only [restarting, hraw] at h
  obtain ⟨sent, before, after, rfl, hsends, hrest⟩ := Session.path_seq.mp h
  obtain ⟨rfl, -⟩ := Session.path_pure.mp hrest
  obtain ⟨answer, later, rfl, hlater⟩ := Session.path_ask.mp hsends
  cases answer with
  | ok _ | error _ =>
    obtain ⟨rfl, -⟩ := Session.path_pure.mp hlater
    rfl

private theorem plain_restarting (hraw : unit.capabilities.collectors = false) :
    ((restarting positions events unit).run received).Plain := by
  simp only [restarting, hraw]
  exact Performance.plain_sendAll.bind fun _ => trivial

end Conduct

namespace Poller

variable {conducts : Conducts E} {poller last : Poller} {intact : Nat} {first next : Station}
  {trace : List (Session.Exchange (World E))} {earlier later : List (Stint E)} {stint : Stint E}

/-- The poller reports to the outermost collector of a chain that is intact as far as this. -/
structure Holds (intact : Nat) (poller : Poller) : Prop where
  chain : poller.network.Chain poller.resources.collectors poller.resources.context intact
  entry : poller.entry = poller.resources.collectors.length

private theorem Holds.of_sameListeners (h : first.poller.Holds intact)
    (hsame : first.SameListeners next) :
    next.poller.Holds intact where
  chain := by
    rw [hsame.network, hsame.resources]
    exact h.chain
  entry := by rw [hsame.entry, hsame.resources, h.entry]

/-- As long as a poller has not decided how it leaves, its chain changes only when a unit starts a
collector. -/
theorem Holds.of_step (h : first.poller.Holds intact)
    (hundecided : first.poller.phase.decided? = none)
    (hphase : first.poller.phase ≠ .wiringCollectors)
    (hstep : (first.step conducts).Path trace next) :
    ∃ left, next.poller.Holds left ∧ next.poller.resources = first.poller.resources ∧
      (left < first.poller.resources.collectors.length ↔
        intact < first.poller.resources.collectors.length ∨
          Stint.Restarts ⟨first, trace, next⟩) := by
  obtain ⟨result, mid, hact, rfl⟩ := Station.ends_of_step hstep
  -- In every phase but one the listeners stay the same.
  have hdiscreet : (∀ unit, first.poller.phase ≠ .executing unit) → first.SameListeners mid →
      ∃ left, Holds left { mid.poller with phase := Station.nextPhase result } ∧
        mid.poller.resources = first.poller.resources ∧
        (left < first.poller.resources.collectors.length ↔
          intact < first.poller.resources.collectors.length ∨
            Stint.Restarts ⟨first, trace, mid.updatePoller
              ({ · with phase := Station.nextPhase result })⟩) := by
    intro hnot hsame
    have hmid := h.of_sameListeners hsame
    refine ⟨intact, ⟨hmid.chain, hmid.entry⟩, hsame.resources, (or_iff_left ?_).symm⟩
    rintro ⟨⟨unit, hunit⟩, -⟩
    exact hnot unit hunit
  cases hbefore : first.poller.phase with
  | wiringCollectors => exact absurd hbefore hphase
  | seekingGated =>
    rw [hbefore] at hact
    exact hdiscreet (by simp [hbefore]) (Station.discreet_seekGated hact).moved
  | seekingGeneric =>
    rw [hbefore] at hact
    exact hdiscreet (by simp [hbefore]) (Station.discreet_seekGeneric hact).moved
  | dispatching unit =>
    rw [hbefore] at hact
    exact hdiscreet (by simp [hbefore]) (Station.discreet_dispatch hact).moved
  | recovering unit error =>
    rw [hbefore] at hact
    exact hdiscreet (by simp [hbefore]) (Station.discreet_recover hact).moved
  | executing unit =>
    rw [hbefore] at hact
    obtain ⟨left, hchain, hentry, hresources, hfrays⟩ := Station.frays_of_execute h.chain hact
    rw [← hresources] at hchain
    refine ⟨left, ⟨hchain, ?_⟩, hresources, fun hleft => ?_, ?_⟩
    · exact (hentry.trans h.entry).trans (congrArg (·.collectors.length) hresources.symm)
    · by_cases hstarted : Session.started trace = []
      · exact .inl (hfrays.kept hstarted ▸ hleft)
      · exact .inr ⟨⟨unit, hbefore⟩, hstarted⟩
    · rintro (hintact | ⟨-, hstarted⟩)
      · exact Nat.lt_of_le_of_lt hfrays.le hintact
      · exact hfrays.broken hstarted
  | leaving exit | reporting exit | left exit =>
    rw [hbefore] at hundecided
    cases hundecided

/-- Before a step at which it is undecided how a poller leaves, it is always undecided. -/
theorem Career.undecided (h : poller.Career conducts (earlier ++ stint :: later) last)
    (hstint : stint.before.poller.phase.decided? = none) : poller.phase.decided? = none := by
  induction earlier generalizing poller with
  | nil =>
    cases h
    exact hstint
  | cons _ earlier ih =>
    cases h with
    | goesOn hformed hstep hlater =>
      refine Option.eq_none_iff_forall_ne_some.mpr fun exit hexit => ?_
      have hdecided := (Station.move_of_step hformed hstep).decided hexit
      rw [ih hlater] at hdecided
      cases hdecided

/-- In a career the chain is intact, as long as no unit starts a collector. -/
theorem Career.holds (h : poller.Career conducts (earlier ++ stint :: later) last)
    (hstint : stint.before.poller.phase.decided? = none) (hholds : poller.Holds intact)
    (hphase : poller.phase ≠ .wiringCollectors) :
    ∃ left, stint.before.poller.Holds left ∧ stint.before.poller.resources = poller.resources ∧
      (left < poller.resources.collectors.length ↔
        intact < poller.resources.collectors.length ∨ ∃ stint ∈ earlier, stint.Restarts) := by
  induction earlier generalizing poller intact with
  | nil =>
    cases h
    exact ⟨intact, hholds, rfl, by simp⟩
  | cons _ earlier ih =>
    have hundecided := h.undecided hstint
    cases h with
    | goesOn hformed hstep hlater =>
      obtain ⟨mid, hmid, hresources, hstep_iff⟩ := hholds.of_step hundecided hphase hstep
      obtain ⟨left, hleft, hsame, hlater_iff⟩ :=
        ih hlater hmid (Station.move_of_step hformed hstep).phase_ne_wiringCollectors
      refine ⟨left, hleft, hsame.trans hresources, ?_⟩
      rw [hresources] at hlater_iff
      rw [hlater_iff, hstep_iff, List.exists_mem_cons_iff, or_assoc]

/-- A poller that goes on after it has wired its collectors holds an intact chain. -/
theorem holds_of_wiring (h : first.poller.Wired 0) (hphase : first.poller.phase = .wiringCollectors)
    (hstep : (first.step conducts).Path trace next)
    (hundecided : next.poller.phase.decided? = none) :
    next.poller.resources = first.poller.resources ∧
      next.poller.Holds first.poller.resources.collectors.length := by
  obtain ⟨result, mid, hact, rfl⟩ := Station.ends_of_step hstep
  rw [hphase] at hact
  cases result with
  | error thrown => cases hundecided
  | ok phase =>
    obtain ⟨hsame, hwired⟩ := Station.wired_of_wireCollectors h hact
    rw [← hsame] at hwired ⊢
    exact ⟨rfl, hwired.chain, hwired.entry⟩

/-- As long as it is undecided how a poller leaves, it is about to wire its collectors or holds a
chain of them; its listeners are always those it is equipped with. -/
structure Orderly (poller : Poller) : Prop where
  seated : poller.network.Seated poller.resources.collectors
  wires : poller.phase = .wiringCollectors → poller.Wired 0
  holds : poller.phase ≠ .wiringCollectors → poller.phase.decided? = none →
    ∃ intact, poller.Holds intact

private theorem Orderly.of_step (h : first.poller.Orderly) (hformed : first.floor.pool.WellFormed)
    (hstep : (first.step conducts).Path trace next) : next.poller.Orderly := by
  have hmove := Station.move_of_step hformed hstep
  have hresources := hmove.resources_eq
  have hholds : (∃ intact, next.poller.Holds intact) → next.poller.Orderly :=
    fun ⟨intact, hholds⟩ => ⟨hholds.chain.toSeated, fun hwiring =>
      absurd hwiring hmove.phase_ne_wiringCollectors, fun _ _ => ⟨intact, hholds⟩⟩
  have hdecided : ∀ exit, next.poller.phase.decided? = some exit →
      next.poller.network.Seated first.poller.resources.collectors → next.poller.Orderly :=
    fun exit hexit hseated => ⟨hresources ▸ hseated, fun hwiring =>
      absurd hwiring hmove.phase_ne_wiringCollectors, fun _ hnone => by
        rw [hnone] at hexit
        cases hexit⟩
  cases hbefore : first.poller.phase.decided? with
  | some exit =>
    exact hdecided exit (hmove.decided hbefore)
      (Station.seated_of_step (.inr ⟨exit, hbefore⟩) hstep h.seated)
  | none =>
    by_cases hphase : first.poller.phase = .wiringCollectors
    · cases hafter : next.poller.phase.decided? with
      | none => exact hholds ⟨_, (holds_of_wiring (h.wires hphase) hphase hstep hafter).2⟩
      | some exit =>
        exact hdecided exit hafter (Station.seated_of_step (.inl hphase) hstep h.seated)
    · obtain ⟨intact, hfirst⟩ := h.holds hphase hbefore
      obtain ⟨left, hnext, -⟩ := hfirst.of_step hbefore hphase hstep
      exact hholds ⟨left, hnext⟩

private theorem Orderly.of_career (h : poller.Orderly) {stints : List (Stint E)}
    (hcareer : poller.Career conducts stints last) : last.Orderly := by
  induction hcareer with
  | rest => exact h
  | goesOn hformed hstep _ ih => exact ih (h.of_step hformed hstep)

/-- A poller at the start of a run: it is a new one, or it has left and runs once more. -/
inductive Starts (E : Interface) : Poller → Prop where
  | new (resources : Resources) : Starts E (ofResources resources)
  | again {conducts : Conducts E} {poller last : Poller} {stints : List (Stint E)} {exit : Exit}
      (starts : Starts E poller) (career : poller.Career conducts stints last)
      (left : last.phase = .left exit) : Starts E last.again

private theorem Wired.orderly (h : poller.Wired 0) (hphase : poller.phase = .wiringCollectors) :
    poller.Orderly :=
  ⟨h.toSeated, fun _ => h, fun hnot => absurd hphase hnot⟩

/-- At the start of a run, a poller is ready to wire its collectors. -/
theorem Starts.wired (h : poller.Starts E) :
    poller.phase = .wiringCollectors ∧ poller.Wired 0 := by
  induction h with
  | new resources => exact ⟨rfl, wired_ofResources resources⟩
  | again _ career _ ih =>
    obtain ⟨hphase, hwired⟩ := ih
    exact ⟨rfl, ((hwired.orderly hphase).of_career career).seated, nofun, rfl⟩

/-- Whenever a poller is about to run a unit, its chain is intact unless a unit before has started a
collector. -/
theorem Career.holds_of_executing {unit : TestUnit} (hstarts : poller.Starts E)
    (h : poller.Career conducts (earlier ++ stint :: later) last)
    (hexecuting : stint.before.poller.phase = .executing unit) :
    ∃ left, stint.before.poller.Holds left ∧ stint.before.poller.resources = poller.resources ∧
      (left < poller.resources.collectors.length ↔ ∃ stint ∈ earlier, stint.Restarts) := by
  have hundecided : stint.before.poller.phase.decided? = none := by rw [hexecuting]; rfl
  obtain ⟨hphase, hwired⟩ := hstarts.wired
  cases earlier with
  | nil =>
    cases h
    rw [hexecuting] at hphase
    cases hphase
  | cons wiring earlier =>
    cases h with
    | @goesOn before after said _ _ hformed hstep hlater =>
      -- Had the wiring thrown, the poller would leave and not get to run a unit.
      obtain ⟨hsame, hholds⟩ := holds_of_wiring hwired hphase hstep (hlater.undecided hundecided)
      obtain ⟨left, hleft, hresources, hlater_iff⟩ := hlater.holds hundecided hholds
        (Station.move_of_step hformed hstep).phase_ne_wiringCollectors
      have hnot : ¬Stint.Restarts ⟨before, said, after⟩ := by
        rintro ⟨⟨unit, hunit⟩, -⟩
        rw [hphase] at hunit
        cases hunit
      refine ⟨left, hleft, hresources.trans hsame, ?_⟩
      rw [hsame] at hlater_iff
      rw [hlater_iff, List.exists_mem_cons_iff, or_iff_right hnot,
        or_iff_right (Nat.lt_irrefl _)]

/-- What is sent while a unit is executed is what went past its guard, but for metrics. -/
theorem Executes.bare_sent {outlet guard : Nat} {conduct : Conduct E} {resources : Resources}
    {unit : TestUnit} {line after : Line} {passed : List Event} {result : Except Thrown Outcome}
    (h : Executes outlet conduct resources unit guard line passed trace result after) :
    (Session.sent trace).map Event.bare = passed.map Event.bare := by
  cases h with
  | settled performs => exact performs.bare_sent
  | failed performs fails closes staged quiet =>
    rw [Session.sent_append, Session.sent_append, Session.sent_of_deeds_nil quiet, List.append_nil,
      List.map_append, performs.bare_sent, staged.bare_sent, List.map_append]

/-- In a run of a poller, a unit that wires no collectors itself is executed. If no unit before it
in the run has started a collector, its events go through all collectors of the poller, from the
last one to the first, and on to the poller's own listener: what is sent there is what the unit
told, in order, but for metrics. If a unit before it has started a collector, the events come to the
place of a guard that is gone. That nothing is sent then says that the poller's own listener is out
of reach; the silence itself stands for undefined behaviour. -/
theorem chain_stands_until_restarted {unit : TestUnit} (hstarts : poller.Starts E)
    (hcareer : poller.Career conducts (earlier ++ stint :: later) last)
    (hexecuting : stint.before.poller.phase = .executing unit)
    (hraw : unit.capabilities.collectors = false) :
    ((∀ other ∈ earlier, ¬other.Restarts) →
      ((conducts unit).run (poller.resources.received unit.capabilities)).Plain →
      ∃ collectors run rest passed result after,
        Collector.roll collectors = (poller.resources.collectors.mapIdx fun position id =>
          (collectorNode position, id)).reverse ∧
        (∀ entry ∈ collectors, entry.2.context = poller.resources.context) ∧
        stint.said = run ++ rest ∧ Session.deeds rest = [] ∧
        Executes 0 (conducts unit) poller.resources unit stint.before.poller.network.length
          (Line.ofCollectors collectors) passed run result after ∧
        (Session.sent stint.said).map Event.bare = passed.map Event.bare) ∧
    ((∃ other ∈ earlier, other.Restarts) → Session.sent stint.said = []) := by
  obtain ⟨left, hholds, hresources, hrestarted⟩ := hcareer.holds_of_executing hstarts hexecuting
  obtain ⟨-, -, hstep⟩ := hcareer.step_of_mem (List.mem_append_right _ List.mem_cons_self)
  obtain ⟨result, mid, hact, -⟩ := Station.ends_of_step hstep
  rw [hexecuting] at hact
  have htarget : target unit stint.before.poller.entry = poller.resources.collectors.length := by
    rw [target, hraw, hholds.entry, hresources]
    rfl
  have hchain := hholds.chain
  rw [hresources] at hchain
  -- The chain is intact to its end exactly if no unit has started a collector again.
  refine ⟨fun hnever hplain => ?_, fun hrestart => ?_⟩
  · have hintact : poller.resources.collectors.length ≤ left := by
      refine Nat.le_of_not_lt fun hleft => ?_
      obtain ⟨other, hother, hrestarts⟩ := hrestarted.mp hleft
      exact hnever other hother hrestarts
    obtain ⟨collectors, hroll, hcontext, hleads⟩ := hchain.leads_of_le hintact
    obtain ⟨run, rest, ran, network, hsaid, hquiet, hexecute, -⟩ :=
      Station.ends_execute_discreet hact
    rw [hresources] at hexecute
    obtain ⟨passed, after, hexecutes, -⟩ :=
      executes_of_execute (htarget ▸ hleads) (hplain.wires _) hexecute
    refine ⟨collectors, run, rest, passed, ran, after, ?_, hcontext, hsaid, hquiet, hexecutes, ?_⟩
    · rw [hroll, List.take_length]
    · rw [hsaid, Session.sent_append, Session.sent_of_deeds_nil hquiet, List.append_nil,
        hexecutes.bare_sent]
  · obtain ⟨_, -, -, -, hfrays⟩ := Station.frays_of_execute hchain hact
    exact hfrays.unsent (htarget ▸ hrestarted.mpr hrestart)

/-- A unit that ends a test, one that starts both collectors again, and one like the first: what the
last one tells is not sent. -/
theorem chain_stands_until_restarted_three_units :
    let ended : Event := .testEnded ⟨"Suite", "case"⟩ .empty
    let first := TestUnit.plain 0 "a" []
    let wiring := { TestUnit.plain 1 "b" [] with capabilities := { collectors := true } }
    let second := TestUnit.plain 2 "c" []
    let resources : Resources := { device := { serial := "d1" }, collectors := [7, 8] }
    let conducts : Conducts .silent := .restarting [0, 1] [ended]
    ∃ last : Poller, last.executed = [first, wiring, second] ∧
      (∃ earlier stint later collectors run rest passed result after,
        (ofResources resources).Career conducts (earlier ++ stint :: later) last ∧
        stint.before.poller.phase = .executing first ∧ stint.said = run ++ rest ∧
        Collector.roll collectors = [(2, 8), (1, 7)] ∧
        Executes 0 (conducts first) resources first stint.before.poller.network.length
          (Line.ofCollectors collectors) passed run result after ∧
        Session.sent stint.said = [ended]) ∧
      ∃ earlier stint later,
        (ofResources resources).Career conducts (earlier ++ stint :: later) last ∧
        stint.before.poller.phase = .executing second ∧ Session.sent stint.said = [] := by
  intro ended first wiring second resources conducts
  let answer := Session.obligingWorld (fun _ _ => false) Interface.silence
  let station : Station := {
    poller := ofResources resources
    floor :=
      { pool := .ofUnits WorkPool.asGiven [some first, some wiring, some second] [] none
        running := 1 } }
  let career := station.career conducts answer (List.replicate 13 1)
  have hcareer : (ofResources resources).Career conducts career.1 career.2 :=
    @Station.career_career _ conducts answer _ station WorkPool.wellFormed_ofUnits
  obtain ⟨early, hearly, hstarted⟩ : ∃ stint, career.1[4]? = some stint ∧
      (stint.before.poller.phase.started, Session.sent stint.said) = ([first], [ended]) :=
    Option.map_eq_some_iff.mp (by decide +kernel)
  have hdozen : career.1[12]?.map (·.before.poller.phase.started) = some [second] := by
    decide +kernel
  obtain ⟨late, hlate, hrestarted⟩ := Option.map_eq_some_iff.mp hdozen
  obtain ⟨hfirst, hsent⟩ := Prod.mk.inj hstarted
  have hfirst := Phase.executing_of_started hfirst
  have hsecond := Phase.executing_of_started hrestarted
  obtain ⟨collectors, run, rest, passed, result, after, hroll, -, hsaid, -, hexecutes, -⟩ :=
    (chain_stands_until_restarted (.new resources) (hcareer.split hearly) hfirst rfl).1
      (by decide +kernel) (Conduct.plain_restarting rfl)
  have hunsent := (chain_stands_until_restarted (.new resources) (hcareer.split hlate) hsecond
    rfl).2 (by decide +kernel)
  exact ⟨_, by decide +kernel,
    ⟨_, _, _, collectors, run, rest, passed, result, after, hcareer.split hearly, hfirst, hsaid,
      hroll, hexecutes, hsent⟩, _, _, _, hcareer.split hlate, hsecond, hunsent⟩

/-- A unit that starts the collector again and ends a test, and one that gets no collectors and ends
a test as well: nobody hears of the second test. -/
theorem unheard_after_restart :
    let ended : Event := .testEnded ⟨"Suite", "case"⟩ .empty
    let wiring := { TestUnit.plain 0 "a" [] with capabilities := { collectors := true } }
    let raw := TestUnit.plain 1 "b" []
    let resources : Resources := { device := { serial := "d1" }, collectors := [7] }
    let conducts : Conducts .silent := .restarting [0] [ended]
    (∀ received played result, ((conducts raw).run received).Path played result →
      Performance.told played = [ended]) ∧
    ∃ (earlier : List (Stint .silent)) (stint : Stint .silent) (later : List (Stint .silent))
      (last : Poller), (ofResources resources).Career conducts (earlier ++ stint :: later) last ∧
      last.executed = [wiring, raw] ∧ stint.before.poller.phase = .executing raw ∧
      Session.sent (Stint.conversation earlier) = [ended] ∧ Session.sent stint.said = [] := by
  intro ended wiring raw resources conducts
  refine ⟨fun _ _ _ h => Conduct.told_restarting rfl h, ?_⟩
  let answer := Session.obligingWorld (fun _ _ => false) Interface.silence
  let station : Station := {
    poller := ofResources resources
    floor := { pool := .ofUnits WorkPool.asGiven [some wiring, some raw] [] none, running := 1 } }
  let career := station.career conducts answer (List.replicate 9 1)
  have hcareer : (ofResources resources).Career conducts career.1 career.2 :=
    @Station.career_career _ conducts answer _ station WorkPool.wellFormed_ofUnits
  obtain ⟨stint, hstint, hfacts⟩ : ∃ stint, career.1[8]? = some stint ∧
      (stint.before.poller.phase.started, Session.sent stint.said) = ([raw], []) :=
    Option.map_eq_some_iff.mp (by decide +kernel)
  obtain ⟨hstarted, hsent⟩ := Prod.mk.inj hfacts
  exact ⟨_, stint, _, _, hcareer.split hstint, by decide +kernel,
    Phase.executing_of_started hstarted, by decide +kernel, hsent⟩

end Poller

end Fleet
