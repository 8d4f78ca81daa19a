import Fleet.Proofs.Crew.SignOut

/-!
# The books of a poller

A poller keeps book of the units it withdrew, ran, dropped, asked to report and gave up. In a calm
conversation its books are right after every sound move: each unit that leaves the pool gets into
one of them, and what the books say is what is heard in the conversation. With tame units every move
is sound.
-/

namespace Fleet

private theorem Phase.Seeks.inHand {phase fallback : Phase} (h : phase.Seeks fallback) :
    phase.inHand = [] ∧ fallback.inHand = [] := by
  cases h <;> exact ⟨rfl, rfl⟩

namespace Poller

/-- The calls the books of a poller tell of. -/
def calls (poller : Poller) : List UnitCall :=
  poller.executed.map .run ++ poller.asked.map .report

/-- The complaints the books of a poller tell of. -/
def complaints (poller : Poller) : List String :=
  poller.unreportable.map (·.complaint)

/-- The units that left the pool with a poller. -/
def taken (poller : Poller) : List TestUnit :=
  poller.withdrawn ++ (poller.asked ++ poller.unreportable)

end Poller

namespace Station

variable {E : Interface} {conducts : Conducts E} {trace : List (Session.Exchange (World E))}
  {station last : Station}

/-- The units that a move can be about. -/
def inReach (station : Station) : List TestUnit :=
  station.poller.phase.inHand ++ station.floor.pool.units

/-- A unit in hand is in reach. -/
theorem mem_inReach_of_inHand {unit : TestUnit} (h : unit ∈ station.poller.phase.inHand) :
    unit ∈ station.inReach :=
  List.mem_append_left _ h

/-- A unit in the pool is in reach. -/
theorem mem_inReach_of_pool {unit : TestUnit} (h : unit ∈ station.floor.pool.units) :
    unit ∈ station.inReach :=
  List.mem_append_right _ h

/-- The poller contains whatever is thrown, and a final report empties the pool. -/
structure Sound (station last : Station) : Prop where
  contained : ∀ thrown, last.poller.phase ≠ .leaving (.error thrown)
  emptied : ∀ exit, station.poller.phase = .reporting exit → last.floor.pool.units = []

/-- With a tame unit in hand, or with none, a poller contains whatever is thrown. -/
theorem Move.contained (h : station.Move conducts trace last) (hcalm : Session.Calm trace)
    (htame : ∀ unit ∈ station.poller.phase.inHand, (conducts unit).Tame) :
    ∀ thrown, last.poller.phase ≠ .leaving (.error thrown) := by
  intro thrown
  cases h with
  | seek hphase hwithdraws hvain huneventful =>
    rename_i fallback found pool lifecycle network entry
    cases found with
    | some unit => nofun
    | none =>
      generalize station.poller.phase = phase at hphase
      cases hphase <;> nofun
  | handle hhandles =>
    dsimp only
    generalize station.poller.phase = phase at hhandles htame
    cases hhandles with
    | executed honce hnext =>
      rcases hnext with rfl | ⟨error, rfl⟩ | ⟨error, rfl⟩ <;> nofun
    | crashed hphase hcause => exact absurd hcalm (hcause htame)
    | _ => nofun
  | signOut hphase huneventful =>
    dsimp only
    split <;> nofun
  | report hphase hdrained hreported hemptied => nofun
  | rest hphase huneventful =>
    rw [hphase]
    nofun

/-- The final report of tame units empties the pool. -/
theorem Move.empties {exit : Exit} (h : station.Move conducts trace last)
    (hcalm : Session.Calm trace) (htame : ∀ unit ∈ station.inReach, (conducts unit).Tame)
    (hphase : station.poller.phase = .reporting exit) : last.floor.pool.units = [] := by
  cases h with
  | seek hseeks hwithdraws hvain huneventful =>
    rw [hphase] at hseeks
    cases hseeks
  | handle hhandles =>
    have hcounted := hhandles.counted.1
    rw [hphase] at hcounted
    cases hcounted
  | signOut hleaving huneventful =>
    rw [hphase] at hleaving
    cases hleaving
  | report hreporting hdrained hreported hemptied =>
    exact hemptied hcalm fun unit hunit => htame unit (mem_inReach_of_pool hunit)
  | rest hleft huneventful =>
    rw [hphase] at hleft
    cases hleft

/-- In a move with tame units in reach, the poller contains whatever is thrown, and a final report
empties the pool. -/
theorem Move.sound (h : station.Move conducts trace last) (hcalm : Session.Calm trace)
    (htame : ∀ unit ∈ station.inReach, (conducts unit).Tame) : station.Sound last where
  contained := h.contained hcalm fun unit hunit => htame unit (mem_inReach_of_inHand hunit)
  emptied _ hphase := h.empties hcalm htame hphase

/-- Some units leave the pool in a move, to be handled or to be reported. What the move adds to the
books of the poller is what is heard in the conversation. -/
structure Books (conducts : Conducts E) (trace : List (Session.Exchange (World E)))
    (station last : Station) (withdrawn executed dropped drained : List TestUnit) : Prop where
  pool : station.floor.pool.units.Perm (withdrawn ++ drained ++ last.floor.pool.units)
  withdrawals : last.poller.withdrawn = station.poller.withdrawn ++ withdrawn
  executions : last.poller.executed = station.poller.executed ++ executed
  drops : last.poller.dropped = station.poller.dropped ++ dropped
  refused : ∀ unit ∈ dropped, (conducts unit).Refuses unit
  handled : station.poller.phase.inHand ++ withdrawn =
    executed ++ dropped ++ last.poller.phase.inHand
  asked : last.poller.asked = station.poller.asked ++ reporters drained
  unreportable : last.poller.unreportable = station.poller.unreportable ++ nonReporters drained
  reporting : drained = [] ∨ ∃ exit, station.poller.phase = .reporting exit
  calls : ∀ announced, (∀ unit ∈ station.inReach, (conducts unit).Announces announced unit) →
    (Session.errands trace).filterMap announced =
      executed.map .run ++ (reporters drained).map .report
  complaints : Session.complaints trace = (nonReporters drained).map (·.complaint)

namespace Books

variable {withdrawn executed dropped drained : List TestUnit}

/-- What a poller has taken grows by what it withdraws and drains. -/
theorem taken (h : Books conducts trace station last withdrawn executed dropped drained) :
    last.poller.taken.Perm (station.poller.taken ++ (withdrawn ++ drained)) := by
  apply List.perm_iff_count.mpr
  intro unit
  have hreported : (reporters drained ++ nonReporters drained).Perm drained :=
    List.filter_append_perm _ drained
  have hcount := hreported.count_eq unit
  simp only [Poller.taken, h.withdrawals, h.asked, h.unreportable, List.count_append] at hcount ⊢
  omega

/-- Units are told to run when they are executed, and to report when they are drained. -/
theorem told (h : Books conducts trace station last withdrawn executed dropped drained) :
    last.poller.calls.Perm
      (station.poller.calls ++ (executed.map .run ++ (reporters drained).map .report)) := by
  apply List.perm_iff_count.mpr
  intro call
  simp only [Poller.calls, h.executions, h.asked, List.map_append, List.count_append]
  omega

/-- A complaint is made about each drained unit that cannot report. -/
theorem complained (h : Books conducts trace station last withdrawn executed dropped drained) :
    last.poller.complaints.Perm
      (station.poller.complaints ++ (nonReporters drained).map (·.complaint)) := by
  rw [Poller.complaints, h.unreportable, List.map_append]
  exact .refl _

end Books

/-- What is heard when a unit is handled, where the unit is afterwards, and why it is dropped, if it
is. -/
theorem heard_of_handles {phase next : Phase} {dropped : List TestUnit}
    (h : phase.Handles conducts trace next dropped) (hcalm : Session.Calm trace)
    (hcontained : ∀ thrown, next ≠ .leaving (.error thrown)) :
    (∀ announced, (∀ unit ∈ phase.inHand, (conducts unit).Announces announced unit) →
      (Session.errands trace).filterMap announced = phase.started.map .run) ∧
    Session.complaints trace = [] ∧
    phase.inHand = phase.started ++ dropped ++ next.inHand ∧
    ∀ unit ∈ dropped, (conducts unit).Refuses unit := by
  have hquiet : Session.Uneventful trace → ∀ announced : E.Question → Option UnitCall,
      (Session.errands trace).filterMap announced = [] :=
    fun huneventful announced => by rw [huneventful.errands]; rfl
  cases h with
  | executed honce hnext =>
    obtain ⟨⟨received, played, ended, hplayed, herrands⟩, hcomplaints⟩ := honce hcalm
    refine ⟨?_, hcomplaints, ?_, List.forall_mem_nil _⟩
    · intro announced hannounces
      rw [herrands]
      exact (hannounces _ List.mem_cons_self).run received played ended hplayed
    · rcases hnext with rfl | ⟨error, rfl⟩ | ⟨error, rfl⟩ <;> rfl
  | crashed hphase hcause => exact absurd rfl (hcontained _)
  | dropped hrefuses huneventful =>
    exact ⟨fun announced _ => hquiet huneventful announced, huneventful.complaints, rfl,
      List.forall_mem_singleton.mpr hrefuses⟩
  | wired huneventful | validated huneventful | recovered huneventful | lost huneventful =>
    exact ⟨fun announced _ => hquiet huneventful announced, huneventful.complaints, rfl,
      List.forall_mem_nil _⟩

/-- Nothing happens to a unit, but one may be withdrawn. -/
theorem Books.of_uneventful {withdrawn : List TestUnit} (huneventful : Session.Uneventful trace)
    (hpool : station.floor.pool.units.Perm (withdrawn ++ last.floor.pool.units))
    (hwithdrawals : last.poller.withdrawn = station.poller.withdrawn ++ withdrawn)
    (hhandled : station.poller.phase.inHand ++ withdrawn = last.poller.phase.inHand)
    (hexecuted : last.poller.executed = station.poller.executed)
    (hdropped : last.poller.dropped = station.poller.dropped)
    (hasked : last.poller.asked = station.poller.asked)
    (hunreportable : last.poller.unreportable = station.poller.unreportable) :
    Books conducts trace station last withdrawn [] [] [] where
  pool := by rwa [List.append_nil]
  withdrawals := hwithdrawals
  executions := by rw [hexecuted, List.append_nil]
  drops := by rw [hdropped, List.append_nil]
  refused := List.forall_mem_nil _
  handled := hhandled
  asked := by rw [hasked]; exact (List.append_nil _).symm
  unreportable := by rw [hunreportable]; exact (List.append_nil _).symm
  reporting := .inl rfl
  calls announced _ := by rw [huneventful.errands]; rfl
  complaints := huneventful.complaints

/-- Every sound move keeps the books. -/
theorem Move.books (h : station.Move conducts trace last) (hcalm : Session.Calm trace)
    (hsound : station.Sound last) :
    ∃ withdrawn executed dropped drained,
      Books conducts trace station last withdrawn executed dropped drained := by
  cases h with
  | seek hphase hwithdraws hvain huneventful =>
    rename_i fallback found pool lifecycle network entry
    obtain ⟨hempty, hfallback⟩ := hphase.inHand
    refine ⟨found.toList, [], [], [],
      .of_uneventful huneventful hwithdraws.units rfl ?_ rfl rfl rfl rfl⟩
    rw [hempty]
    cases found with
    | none => exact hfallback.symm
    | some unit => rfl
  | handle hhandles =>
    rename_i next dropped lifecycle network entry
    obtain ⟨hcalls, hcomplaints, hinHand, hrefused⟩ :=
      heard_of_handles hhandles hcalm hsound.contained
    refine ⟨[], station.poller.phase.started, dropped, [], .refl _, (List.append_nil _).symm, rfl,
      rfl, hrefused, ?_, (List.append_nil _).symm, (List.append_nil _).symm, .inl rfl,
      ?_, hcomplaints⟩
    · rw [List.append_nil, hinHand]
    · intro announced hannounces
      rw [hcalls announced fun unit hunit => hannounces unit (mem_inReach_of_inHand hunit)]
      exact (List.append_nil _).symm
  | signOut hphase huneventful =>
    refine ⟨[], [], [], [], .of_uneventful huneventful (.refl _) (List.append_nil _).symm ?_ rfl rfl
      rfl rfl⟩
    rw [hphase]
    dsimp only
    split <;> rfl
  | report hphase hdrained hreported hemptied =>
    rename_i exit drained network pool
    refine ⟨[], [], [], drained, hdrained.units, (List.append_nil _).symm, (List.append_nil _).symm,
      (List.append_nil _).symm, List.forall_mem_nil _, ?_, rfl, rfl, .inr ⟨exit, hphase⟩, ?_,
      hreported.complaints⟩
    · rw [hphase]
      rfl
    · intro announced hannounces
      exact hreported.asked announced fun unit hunit =>
        hannounces unit (mem_inReach_of_pool (hdrained.mem_of_mem_returned hunit))
  | rest hphase huneventful =>
    exact ⟨[], [], [], [], .of_uneventful huneventful (.refl _) (List.append_nil _).symm
      (List.append_nil _) rfl rfl rfl rfl⟩

end Station

/-- The books of a poller are right: what it withdrew has been run or dropped or is in hand, and it
reports units only if it was the last one out, each one as it can be reported. -/
structure Poller.Accounted (poller : Poller) : Prop where
  withdrawn : poller.withdrawn.Perm (poller.executed ++ poller.dropped ++ poller.phase.inHand)
  reporters : ∀ unit ∈ poller.asked, unit.capabilities.notExecutedReport = true
  nonReporters : ∀ unit ∈ poller.unreportable, unit.capabilities.notExecutedReport = false
  silent : poller.reportedNotExecuted = false → poller.asked = [] ∧ poller.unreportable = [] ∧
    ∀ exit, poller.phase ≠ .reporting exit
  flagged : poller.reportedNotExecuted = true → poller.phase.counted = 0

/-- A poller starts with its books balanced. -/
theorem Poller.accounted_ofResources (resources : Resources) :
    (Poller.ofResources resources).Accounted where
  withdrawn := .nil
  reporters _ hunit := absurd hunit List.not_mem_nil
  nonReporters _ hunit := absurd hunit List.not_mem_nil
  silent _ := ⟨rfl, rfl, fun _ hphase => by cases hphase⟩
  flagged h := by cases h

namespace Station

variable {E : Interface} {conducts : Conducts E} {trace : List (Session.Exchange (World E))}
  {station last : Station}

/-- A poller becomes the last one out when it signs out, and stays it. -/
theorem Move.flagged (h : station.Move conducts trace last) (hbefore : station.poller.Accounted) :
    (last.poller.reportedNotExecuted = false →
      station.poller.reportedNotExecuted = false ∧ ∀ exit, last.poller.phase ≠ .reporting exit) ∧
    (last.poller.reportedNotExecuted = true → last.poller.phase.counted = 0) := by
  rcases h.course with
    ⟨hone, hcounted, -, -, hsame⟩ | ⟨exit, -, hphase, -, -, hflag⟩ |
    ⟨exit, hreporting, hphase, -, -, hsame⟩ | ⟨-, rfl⟩
  · constructor
    · intro hquiet
      refine ⟨hsame ▸ hquiet, ?_⟩
      intro exit hphase
      rw [hphase] at hcounted
      cases hcounted
    · intro hflag
      have hnot := hbefore.flagged (hsame ▸ hflag)
      omega
  · constructor
    · intro hquiet
      rw [hquiet, eq_comm, Bool.or_eq_false_iff, decide_eq_false_iff_not] at hflag
      rw [hphase, if_neg hflag.2]
      exact ⟨hflag.1, fun _ hnot => by cases hnot⟩
    · intro _
      rw [hphase]
      split <;> rfl
  · constructor
    · intro hquiet
      refine ⟨hsame ▸ hquiet, ?_⟩
      intro exit hnot
      rw [hphase] at hnot
      cases hnot
    · intro _
      rw [hphase]
      rfl
  · exact ⟨fun hquiet => ⟨hquiet, (hbefore.silent hquiet).2.2⟩, hbefore.flagged⟩

/-- After every sound move the books are right. -/
theorem Move.accounted (h : station.Move conducts trace last) (hcalm : Session.Calm trace)
    (hsound : station.Sound last) (hbefore : station.poller.Accounted) :
    last.poller.Accounted := by
  obtain ⟨withdrawn, executed, dropped, drained, hbooks⟩ := h.books hcalm hsound
  obtain ⟨hquiet, hflag⟩ := h.flagged hbefore
  constructor
  case withdrawn =>
    apply List.perm_iff_count.mpr
    intro unit
    have hwithdrawn := hbefore.withdrawn.count_eq unit
    have hhandled := congrArg (List.count unit) hbooks.handled
    rw [hbooks.withdrawals, hbooks.executions, hbooks.drops]
    simp only [List.count_append] at hwithdrawn hhandled ⊢
    omega
  case reporters =>
    intro unit hunit
    rw [hbooks.asked] at hunit
    rcases List.mem_append.mp hunit with hold | hnew
    · exact hbefore.reporters unit hold
    · exact (List.mem_filter.mp hnew).2
  case nonReporters =>
    intro unit hunit
    rw [hbooks.unreportable] at hunit
    rcases List.mem_append.mp hunit with hold | hnew
    · exact hbefore.nonReporters unit hold
    · simpa using (List.mem_filter.mp hnew).2
  case silent =>
    intro hsilent
    obtain ⟨hbeforeQuiet, hphase⟩ := hquiet hsilent
    obtain ⟨hasked, hunreportable, hnot⟩ := hbefore.silent hbeforeQuiet
    rcases hbooks.reporting with rfl | ⟨exit, hreporting⟩
    · rw [hbooks.asked, hbooks.unreportable, hasked, hunreportable]
      exact ⟨rfl, rfl, hphase⟩
    · exact absurd hreporting (hnot exit)
  case flagged => exact hflag

/-- When the last poller out leaves, the pool is empty. -/
theorem Move.emptied {exit : Exit} (h : station.Move conducts trace last)
    (hsound : station.Sound last) (hbefore : station.poller.Accounted)
    (hempty : ∀ exit, station.poller.reportedNotExecuted = true →
      station.poller.phase = .left exit → station.floor.pool.units = [])
    (hflag : last.poller.reportedNotExecuted = true) (hleft : last.poller.phase = .left exit) :
    last.floor.pool.units = [] := by
  rcases h.course with
    ⟨-, hcounted, -⟩ | ⟨leaving, hphase, hafter, -, -, hsame⟩ | ⟨_, hreporting, -⟩ | ⟨-, rfl⟩
  · rw [hleft] at hcounted
    cases hcounted
  · -- The poller was not the last one out, so it had not been before either.
    have hrunning : station.floor.running ≠ 1 := by
      intro hone
      rw [hleft, if_pos hone] at hafter
      cases hafter
    rw [hflag, decide_eq_false hrunning, Bool.or_false] at hsame
    have hnot := hbefore.flagged hsame.symm
    rw [hphase] at hnot
    cases hnot
  · exact hsound.emptied _ hreporting
  · exact hempty exit hflag hleft

end Station

end Fleet
