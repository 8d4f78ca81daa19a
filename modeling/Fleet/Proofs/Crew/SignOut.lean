import Fleet.Proofs.Crew.FinalReport
import Fleet.Proofs.Crew.Progress

/-!
# Signing out

Whichever way its run ends, a poller signs out once, after its last look into the pool. The count
of running pollers is exact at every point, so one poller alone finds that it is the last one; it
drains the pool when all others have left for good.
-/

namespace Fleet

namespace Phase

/-- How many running pollers a poller in this phase stands for. -/
def counted : Phase → Nat
  | .reporting _ | .left _ => 0
  | _ => 1

/-- How the poller's run ends, once that is decided. -/
def decided? : Phase → Option Exit
  | .leaving exit | .reporting exit | .left exit => some exit
  | _ => none

/-- A poller is no longer counted once it reports or has left. -/
theorem counted_eq_zero {phase : Phase} :
    phase.counted = 0 ↔ (∃ exit, phase = .reporting exit) ∨ ∃ exit, phase = .left exit := by
  cases phase <;> simp [counted]

/-- A poller is counted while it seeks a unit. -/
theorem Seeks.counted {phase fallback : Phase} (h : phase.Seeks fallback) :
    phase.counted = 1 ∧ fallback.counted = 1 ∧ phase.decided? = none := by
  cases h <;> exact ⟨rfl, rfl, rfl⟩

/-- A poller is counted before and after it handles a unit. -/
theorem Handles.counted {E : Interface} {conducts : Conducts E}
    {trace : List (Session.Exchange (World E))} {phase next : Phase} {dropped : List TestUnit}
    (h : phase.Handles conducts trace next dropped) :
    phase.counted = 1 ∧ next.counted = 1 ∧ phase.decided? = none := by
  cases h with
  | executed honce hnext =>
    refine ⟨rfl, ?_, rfl⟩
    rcases hnext with rfl | ⟨error, rfl⟩ | ⟨error, rfl⟩ <;> rfl
  | crashed hphase hcause =>
    rcases hphase with rfl | ⟨unit, rfl⟩ | ⟨unit, rfl⟩ <;> exact ⟨rfl, rfl, rfl⟩
  | _ => exact ⟨rfl, rfl, rfl⟩

end Phase

/-- A poller has an exit exactly once it has left with it. -/
theorem Poller.exit?_eq_some {poller : Poller} {exit : Exit} :
    poller.exit? = some exit ↔ poller.phase = .left exit := by
  unfold exit?
  split
  · rename_i hphase
    rw [hphase, Option.some.injEq, Phase.left.injEq]
  · rename_i hnot
    exact ⟨nofun, fun hphase => absurd hphase (hnot exit)⟩

namespace Turn

/-- The poller changed the count of running pollers. -/
def signsOut (turn : Turn) : Bool :=
  turn.after.floor.running ≠ turn.before.floor.running

/-- The poller found that it was the last one. -/
def signsOutLast (turn : Turn) : Bool :=
  turn.signsOut && turn.after.floor.running = 0

/-- The poller did the final report. -/
def drains (turn : Turn) : Bool :=
  match turn.before.poller.phase with
  | .reporting _ => true
  | _ => false

private theorem drains_iff {turn : Turn} :
    turn.drains = true ↔ ∃ exit, turn.before.poller.phase = .reporting exit := by
  unfold drains
  split <;> simp_all

/-- The poller had left, and nothing happened. -/
def Idle (turn : Turn) : Prop :=
  (∃ exit, turn.before.poller.phase = .left exit) ∧ turn.after = turn.before

/-- An idle turn drains nothing. -/
theorem Idle.drains {turn : Turn} (h : turn.Idle) : turn.drains = false := by
  obtain ⟨⟨exit, hleft⟩, -⟩ := h
  rw [← Bool.not_eq_true, drains_iff, hleft]
  simp

end Turn

namespace Station

variable {E : Interface} {conducts : Conducts E} {trace : List (Session.Exchange (World E))}
  {station last : Station}

/-- What a move does to the count: the poller goes on as one that is counted, signs out, or has
signed out before. -/
theorem Move.course (h : station.Move conducts trace last) :
    (station.poller.phase.counted = 1 ∧ last.poller.phase.counted = 1 ∧
      station.poller.phase.decided? = none ∧ last.floor.running = station.floor.running ∧
      last.poller.reportedNotExecuted = station.poller.reportedNotExecuted) ∨
    (∃ exit, station.poller.phase = .leaving exit ∧
      last.poller.phase = (if station.floor.running = 1 then .reporting exit else .left exit) ∧
      last.floor.running = countBefore station.floor.running ∧
      last.poller.withdrawn = station.poller.withdrawn ∧
      last.poller.reportedNotExecuted =
        (station.poller.reportedNotExecuted || station.floor.running = 1)) ∨
    (∃ exit, station.poller.phase = .reporting exit ∧ last.poller.phase = .left exit ∧
      last.floor.running = station.floor.running ∧
      last.poller.withdrawn = station.poller.withdrawn ∧
      last.poller.reportedNotExecuted = station.poller.reportedNotExecuted) ∨
    (∃ exit, station.poller.phase = .left exit) ∧ last = station := by
  cases h with
  | seek hphase hwithdraws hvain huneventful =>
    rename_i fallback found pool lifecycle network entry
    obtain ⟨hcounted, hfallback, hdecided⟩ := hphase.counted
    refine .inl ⟨hcounted, ?_, hdecided, rfl, rfl⟩
    cases found with
    | none => exact hfallback
    | some unit => rfl
  | handle hhandles =>
    obtain ⟨hcounted, hnext, hdecided⟩ := hhandles.counted
    exact .inl ⟨hcounted, hnext, hdecided, rfl, rfl⟩
  | signOut hphase huneventful =>
    refine .inr (.inl ⟨_, hphase, ?_, rfl, rfl, rfl⟩)
    simp [Floor.countDown]
  | report hphase hdrained hreported hemptied =>
    exact .inr (.inr (.inl ⟨_, hphase, rfl, rfl, rfl, rfl⟩))
  | rest hphase huneventful => exact .inr (.inr (.inr ⟨⟨_, hphase⟩, rfl⟩))

/-- A poller that has signed out withdraws nothing; it does its final report or rests. -/
theorem Move.spent (h : station.Move conducts trace last)
    (hcounted : station.poller.phase.counted = 0) :
    last.poller.withdrawn = station.poller.withdrawn ∧
      last.poller.reportedNotExecuted = station.poller.reportedNotExecuted ∧
      ((∃ exit, station.poller.phase = .reporting exit ∧ last.poller.phase = .left exit) ∨
        (∃ exit, station.poller.phase = .left exit) ∧ last = station) := by
  rcases h.course with
    ⟨hone, -⟩ | ⟨_, hphase, -⟩ | ⟨exit, hphase, hlast, -, hwithdrawn, hflag⟩ | ⟨hleft, rfl⟩
  · omega
  · rw [hphase] at hcounted
    cases hcounted
  · exact ⟨hwithdrawn, hflag, .inl ⟨exit, hphase, hlast⟩⟩
  · exact ⟨rfl, rfl, .inr ⟨hleft, rfl⟩⟩

/-- Once decided, how the run of a poller ends does not change, whatever the final report throws. -/
theorem Move.decided (h : station.Move conducts trace last) {exit : Exit}
    (hexit : station.poller.phase.decided? = some exit) :
    last.poller.phase.decided? = some exit := by
  rcases h.course with ⟨-, -, hnone, -⟩ | ⟨_, hphase, hlast, -⟩ | ⟨_, hphase, hlast, -⟩ | ⟨-, rfl⟩
  · rw [hnone] at hexit
    cases hexit
  · rw [hphase] at hexit
    rw [hlast]
    split <;> exact hexit
  · rw [hphase] at hexit
    rw [hlast]
    exact hexit
  · exact hexit

end Station

namespace Crew

variable {E : Interface} {conducts : Conducts E} {trace : List (Session.Exchange (World E))}
  {crew next last : Crew} {turn : Turn} {count : Nat}

/-- The last poller has signed out, at the turn `final`: it alone may still have a turn that
matters, in which it drains the pool. -/
structure Concluded (crew : Crew) (earlier : List Turn) (final : Turn) (later : List Turn) :
    Prop where
  turns : crew.turns = earlier ++ final :: later
  signsOutLast : final.signsOutLast
  before : ∀ turn ∈ earlier, turn.signsOutLast = false ∧ turn.drains = false
  since : ∀ turn ∈ later, turn.signsOut = false ∧ (turn.index ≠ final.index → turn.Idle)
  flagged : ∀ index poller, crew.pollers[index]? = some poller →
    (poller.reportedNotExecuted = true ↔ index = final.index)
  others : ∀ index poller, crew.pollers[index]? = some poller → index ≠ final.index →
    ∃ exit, poller.phase = .left exit
  reporter : ∃ poller, crew.pollers[final.index]? = some poller ∧
    ((∃ exit, poller.phase = .reporting exit) ∧ later.countP (·.drains) = 0 ∨
      (∃ exit, poller.phase = .left exit) ∧ later.countP (·.drains) = 1)

/-- The count of running pollers and the record of turns are in step. -/
structure Tallied (count : Nat) (crew : Crew) : Prop where
  formed : crew.floor.pool.WellFormed
  length : crew.pollers.length = count
  running : crew.floor.running = crew.total (·.phase.counted)
  signOuts : ∀ index poller, crew.pollers[index]? = some poller →
    (crew.turns.countP fun turn => turn.index = index && turn.signsOut) + poller.phase.counted = 1
  decrements : ∀ turn ∈ crew.turns, turn.signsOut →
    turn.after.floor.running = turn.before.floor.running - 1
  settled : crew.turns.Pairwise fun earlier later => earlier.signsOut →
    later.index = earlier.index →
      later.after.poller.withdrawn = later.before.poller.withdrawn ∧ (later.drains ∨ later.Idle)
  decided : ∀ turn ∈ crew.turns, ∀ exit, turn.before.poller.phase.decided? = some exit →
    ∀ poller, crew.pollers[turn.index]? = some poller → poller.phase.decided? = some exit
  pending : crew.floor.running ≠ 0 →
    (∀ (index : Nat) (poller : Poller), crew.pollers[index]? = some poller →
      poller.reportedNotExecuted = false ∧
        ∀ exit, poller.phase ≠ .reporting exit) ∧
    ∀ turn ∈ crew.turns, turn.signsOutLast = false ∧ turn.drains = false
  concluded : crew.floor.running = 0 → ∃ earlier final later, crew.Concluded earlier final later

/-- At the start every poller is counted. -/
theorem total_counted_start {pool : WorkPool} {resources : List Resources} :
    (start pool resources).total (·.phase.counted) = resources.length := by
  have hones : (resources.map Poller.ofResources).map (·.phase.counted) =
      List.replicate resources.length 1 := by
    rw [List.map_map]
    exact List.map_const'
  rw [start, total, hones, List.sum_replicate_nat, Nat.mul_one]

/-- A crew starts with its tally right. -/
theorem tallied_start {pool : WorkPool} {resources : List Resources} (hformed : pool.WellFormed)
    (hcrew : resources ≠ []) : (start pool resources).Tallied resources.length where
  formed := hformed
  length := List.length_map _
  running := by rw [total_counted_start]; rfl
  signOuts index poller hpoller := by
    obtain ⟨_, -, rfl⟩ := List.mem_map.mp (List.mem_of_getElem? hpoller)
    rfl
  decrements _ hturn := absurd hturn List.not_mem_nil
  settled := .nil
  decided _ hturn := absurd hturn List.not_mem_nil
  pending _ := by
    refine ⟨fun index poller hpoller => ?_, fun _ hturn => absurd hturn List.not_mem_nil⟩
    obtain ⟨_, -, rfl⟩ := List.mem_map.mp (List.mem_of_getElem? hpoller)
    exact ⟨rfl, fun exit hphase => by cases hphase⟩
  concluded hzero := by
    have hlength := List.length_pos_iff.mpr hcrew
    simp only [start] at hzero
    omega

namespace Tallied

/-- A turn changes the count by what the poller that takes it no longer stands for. -/
theorem exact (h : crew.Tallied count) (hturn : crew.Takes conducts trace turn) :
    turn.after.floor.running = turn.before.floor.running - (if turn.signsOut then 1 else 0) ∧
      turn.before.poller.phase.counted =
        turn.after.poller.phase.counted + if turn.signsOut then 1 else 0 := by
  have hrunning := h.running
  rw [← hturn.floor] at hrunning
  have htotal := hturn.total_after (·.phase.counted)
  rcases hturn.move.course with
    ⟨hbefore, hafter, -, hsame, -⟩ | ⟨exit, hphase, hlast, hcount, -⟩ |
    ⟨exit, hphase, hlast, hsame, -⟩ | ⟨-, hsame⟩
  · simp [Turn.signsOut, hsame, hbefore, hafter]
  · have hafter : turn.after.poller.phase.counted = 0 := by
      rw [hlast]
      split <;> rfl
    have hbefore : turn.before.poller.phase.counted = 1 := by rw [hphase]; rfl
    have hpositive : 1 ≤ turn.before.floor.running := by omega
    have hdown : turn.after.floor.running = turn.before.floor.running - 1 := by
      rw [hcount, countBefore, if_neg (by omega)]
    have hsignsOut : turn.signsOut = true := by
      simp only [Turn.signsOut, ne_eq, decide_not, Bool.not_eq_true', decide_eq_false_iff_not]
      omega
    simp [hsignsOut, hdown, hbefore, hafter]
  · simp [Turn.signsOut, hsame, hphase, hlast, Phase.counted]
  · simp [Turn.signsOut, hsame]

private theorem running_after (h : crew.Tallied count) (hturn : crew.Takes conducts trace turn) :
    (crew.after turn).floor.running = (crew.after turn).total (·.phase.counted) := by
  obtain ⟨hcount, hcounted⟩ := h.exact hturn
  have hbefore := h.running
  have htotal := hturn.total_after (·.phase.counted)
  change turn.after.floor.running = _
  rw [hcount, hturn.floor, hbefore]
  split at hcounted <;> simp only [*, if_true, Bool.false_eq_true, if_false] <;> omega

private theorem signOuts_after (h : crew.Tallied count) (hturn : crew.Takes conducts trace turn)
    (index : Nat) (poller : Poller) (hpoller : (crew.after turn).pollers[index]? = some poller) :
    ((crew.after turn).turns.countP fun turn => turn.index = index && turn.signsOut) +
      poller.phase.counted = 1 := by
  obtain ⟨-, hcounted⟩ := h.exact hturn
  have hturns : (crew.after turn).turns = crew.turns ++ [turn] := rfl
  rw [hturns, List.countP_append, List.countP_singleton]
  rcases hturn.cases_after hpoller with ⟨rfl, rfl⟩ | ⟨hindex, hpoller⟩
  · have hbefore := h.signOuts turn.index turn.before.poller hturn.poller
    simp only [decide_true, Bool.true_and] at hbefore ⊢
    omega
  · have hbefore := h.signOuts index poller hpoller
    simp only [Ne.symm hindex, decide_false, Bool.false_and, Bool.false_eq_true, if_false]
    omega

private theorem settled_after (h : crew.Tallied count) (hturn : crew.Takes conducts trace turn) :
    (crew.after turn).turns.Pairwise fun earlier later => earlier.signsOut →
      later.index = earlier.index →
        later.after.poller.withdrawn = later.before.poller.withdrawn ∧
          (later.drains ∨ later.Idle) := by
  refine List.pairwise_append.mpr ⟨h.settled, List.pairwise_singleton _ _, ?_⟩
  intro earlier hearlier later hlater hsignsOut hindex
  obtain rfl := List.mem_singleton.mp hlater
  have hout := h.signOuts later.index later.before.poller hturn.poller
  have hcount : 0 < crew.turns.countP fun turn => turn.index = later.index && turn.signsOut :=
    List.countP_pos_iff.mpr ⟨earlier, hearlier, by simp [hindex, hsignsOut]⟩
  obtain ⟨hwithdrawn, -, ⟨exit, hreporting, -⟩ | hidle⟩ := hturn.move.spent (by omega)
  · exact ⟨hwithdrawn, .inl (Turn.drains_iff.mpr ⟨exit, hreporting⟩)⟩
  · exact ⟨hwithdrawn, .inr hidle⟩

/-- When the count is zero, every poller has signed out, and nobody signs out again. -/
theorem signsOut_of_running (h : crew.Tallied count) (hturn : crew.Takes conducts trace turn)
    (hzero : crew.floor.running = 0) :
    turn.before.poller.phase.counted = 0 ∧ turn.signsOut = false := by
  have htotal := h.running
  rw [hzero, eq_comm, Int.natCast_eq_zero, total_eq_zero] at htotal
  have hnone := htotal _ (List.mem_of_getElem? hturn.poller)
  obtain ⟨-, hcounted⟩ := h.exact hturn
  refine ⟨hnone, Bool.eq_false_iff.mpr ?_⟩
  intro hsignsOut
  rw [if_pos hsignsOut] at hcounted
  omega

private theorem pending_after (h : crew.Tallied count) (hturn : crew.Takes conducts trace turn)
    (hrunning : (crew.after turn).floor.running ≠ 0) :
    (∀ (index : Nat) (poller : Poller), (crew.after turn).pollers[index]? = some poller →
      poller.reportedNotExecuted = false ∧ ∀ exit, poller.phase ≠ .reporting exit) ∧
    ∀ other ∈ (crew.after turn).turns, other.signsOutLast = false ∧ other.drains = false := by
  change turn.after.floor.running ≠ 0 at hrunning
  have hbefore : crew.floor.running ≠ 0 := by
    intro hzero
    obtain ⟨hcount, -⟩ := h.exact hturn
    obtain ⟨-, hsignsOut⟩ := h.signsOut_of_running hturn hzero
    rw [hturn.floor, hzero, hsignsOut] at hcount
    exact hrunning hcount
  obtain ⟨hpollers, hturns⟩ := h.pending hbefore
  obtain ⟨hflag, hreporting⟩ := hpollers _ _ hturn.poller
  have hafter : turn.after.poller.reportedNotExecuted = false ∧
      ∀ exit, turn.after.poller.phase ≠ .reporting exit := by
    rcases hturn.move.course with
      ⟨-, hcounted, -, -, hsame⟩ | ⟨exit, -, hphase, hcount, -, hlast⟩ | ⟨exit, hphase, -⟩ |
      ⟨-, hsame⟩
    · refine ⟨hsame.trans hflag, ?_⟩
      intro exit hphase
      rw [hphase] at hcounted
      cases hcounted
    · have hone : turn.before.floor.running ≠ 1 := by
        intro hone
        rw [hone] at hcount
        exact hrunning hcount
      rw [if_neg hone] at hphase
      exact ⟨by simp [hlast, hflag, hone], by simp [hphase]⟩
    · exact absurd hphase (hreporting exit)
    · exact hsame ▸ ⟨hflag, hreporting⟩
  constructor
  · intro index poller hpoller
    rcases hturn.cases_after hpoller with ⟨-, rfl⟩ | ⟨-, hpoller⟩
    · exact hafter
    · exact hpollers index poller hpoller
  · intro other hother
    rcases List.mem_append.mp hother with hold | hnew
    · exact hturns other hold
    · obtain rfl := List.mem_singleton.mp hnew
      refine ⟨by simp [Turn.signsOutLast, hrunning], ?_⟩
      rw [← Bool.not_eq_true, Turn.drains_iff]
      exact fun ⟨exit, hphase⟩ => hreporting exit hphase

/-- The poller whose turn takes the count to zero goes on to the final report. -/
theorem reporting_of_zero (h : crew.Tallied count) (hturn : crew.Takes conducts trace turn)
    (hbefore : crew.floor.running ≠ 0) (hafter : turn.after.floor.running = 0) :
    turn.signsOut = true ∧ turn.after.poller.reportedNotExecuted = true ∧
      ∃ exit, turn.after.poller.phase = .reporting exit := by
  obtain ⟨hcount, -⟩ := h.exact hturn
  have hsignsOut : turn.signsOut = true := by
    apply Decidable.byContradiction
    intro hnot
    rw [if_neg hnot, hafter, hturn.floor] at hcount
    omega
  have hmoved : turn.after.floor.running ≠ turn.before.floor.running := by
    simpa [Turn.signsOut] using hsignsOut
  rcases hturn.move.course with
    ⟨-, -, -, hsame, -⟩ | ⟨exit, -, hphase, -, -, hflag⟩ | ⟨_, -, -, hsame, -⟩ | ⟨-, hsame⟩
  · exact absurd hsame hmoved
  · have hone : turn.before.floor.running = 1 := by
      rw [if_pos hsignsOut] at hcount
      omega
    exact ⟨hsignsOut, by simp [hflag, hone], exit, by simpa [hone] using hphase⟩
  · exact absurd hsame hmoved
  · exact absurd (by rw [hsame]) hmoved

/-- The turn at which the count reaches zero. -/
theorem concluded_now (h : crew.Tallied count) (hturn : crew.Takes conducts trace turn)
    (hbefore : crew.floor.running ≠ 0) (hafter : (crew.after turn).floor.running = 0) :
    (crew.after turn).Concluded crew.turns turn [] := by
  have hrunning := h.running_after hturn
  change turn.after.floor.running = 0 at hafter
  obtain ⟨hpollers, hturns⟩ := h.pending hbefore
  obtain ⟨hsignsOut, hflag, exit, hphase⟩ := h.reporting_of_zero hturn hbefore hafter
  constructor
  case turns => rfl
  case signsOutLast => simp [Turn.signsOutLast, hsignsOut, hafter]
  case before => exact hturns
  case since => simp
  case flagged =>
    intro index poller hpoller
    rcases hturn.cases_after hpoller with ⟨hindex, rfl⟩ | ⟨hindex, hpoller⟩
    · simp [hindex, hflag]
    · simp [hindex, (hpollers index poller hpoller).1]
  case others =>
    intro index poller hpoller hindex
    have hcounted : poller.phase.counted = 0 := by
      change turn.after.floor.running = _ at hrunning
      rw [hafter, eq_comm, Int.natCast_eq_zero, total_eq_zero] at hrunning
      exact hrunning poller (List.mem_of_getElem? hpoller)
    rw [hturn.getElem?_after, if_neg hindex] at hpoller
    obtain ⟨-, hreporting⟩ := hpollers index poller hpoller
    rcases Phase.counted_eq_zero.mp hcounted with ⟨exit, hnot⟩ | hleft
    · exact absurd hnot (hreporting exit)
    · exact hleft
  case reporter =>
    refine ⟨turn.after.poller, ?_, .inl ⟨⟨exit, hphase⟩, rfl⟩⟩
    rw [hturn.getElem?_after, if_pos rfl]

/-- After the count has reached zero, only the last poller out still moves. -/
theorem idle_of_concluded (h : crew.Tallied count) (hturn : crew.Takes conducts trace turn)
    (hzero : crew.floor.running = 0) {earlier later : List Turn} {final : Turn}
    (hconcluded : crew.Concluded earlier final later) (hindex : turn.index ≠ final.index) :
    turn.Idle := by
  obtain ⟨hcounted, -⟩ := h.signsOut_of_running hturn hzero
  obtain ⟨exit, hleft⟩ := hconcluded.others _ _ hturn.poller hindex
  obtain ⟨-, -, ⟨_, hreporting, -⟩ | hrests⟩ := hturn.move.spent hcounted
  · rw [hleft] at hreporting
    cases hreporting
  · exact hrests

/-- The last poller out drains the pool in its next turn, and in no other. -/
theorem reporter_after (h : crew.Tallied count) (hturn : crew.Takes conducts trace turn)
    (hzero : crew.floor.running = 0) {earlier later : List Turn} {final : Turn}
    (hconcluded : crew.Concluded earlier final later) :
    ∃ poller, (crew.after turn).pollers[final.index]? = some poller ∧
      ((∃ exit, poller.phase = .reporting exit) ∧ (later ++ [turn]).countP (·.drains) = 0 ∨
        (∃ exit, poller.phase = .left exit) ∧ (later ++ [turn]).countP (·.drains) = 1) := by
  obtain ⟨poller, hpoller, hphase⟩ := hconcluded.reporter
  rw [List.countP_append, List.countP_singleton, hturn.getElem?_after]
  by_cases hsame : final.index = turn.index
  · rw [if_pos hsame]
    rw [hsame, hturn.poller] at hpoller
    obtain rfl := Option.some.inj hpoller
    refine ⟨turn.after.poller, rfl, .inr ?_⟩
    obtain ⟨hcounted, -⟩ := h.signsOut_of_running hturn hzero
    obtain ⟨-, -, ⟨exit, hreporting, hleft⟩ | ⟨⟨exit, hleft⟩, hrests⟩⟩ := hturn.move.spent hcounted
    · have hnone : later.countP (·.drains) = 0 := by simpa [hreporting] using hphase
      exact ⟨⟨exit, hleft⟩, by simp [hnone, Turn.drains_iff.mpr ⟨_, hreporting⟩]⟩
    · have hone : later.countP (·.drains) = 1 := by simpa [hleft] using hphase
      exact ⟨⟨exit, hrests ▸ hleft⟩, by simp [hone, Turn.Idle.drains ⟨⟨exit, hleft⟩, hrests⟩]⟩
  · rw [if_neg hsame]
    have hidle := h.idle_of_concluded hturn hzero hconcluded (Ne.symm hsame)
    refine ⟨poller, hpoller, ?_⟩
    simpa [hidle.drains] using hphase

/-- What is concluded stays so. -/
theorem concluded_still (h : crew.Tallied count) (hturn : crew.Takes conducts trace turn)
    (hzero : crew.floor.running = 0) {earlier later : List Turn} {final : Turn}
    (hconcluded : crew.Concluded earlier final later) :
    (crew.after turn).Concluded earlier final (later ++ [turn]) := by
  obtain ⟨hcounted, hsignsOut⟩ := h.signsOut_of_running hturn hzero
  obtain ⟨-, hflag, -⟩ := hturn.move.spent hcounted
  have hidle := h.idle_of_concluded hturn hzero hconcluded
  constructor
  case turns =>
    change crew.turns ++ [turn] = _
    rw [hconcluded.turns, List.append_assoc, List.cons_append]
  case signsOutLast => exact hconcluded.signsOutLast
  case before => exact hconcluded.before
  case since =>
    intro other hother
    rcases List.mem_append.mp hother with hold | hnew
    · exact hconcluded.since other hold
    · obtain rfl := List.mem_singleton.mp hnew
      exact ⟨hsignsOut, hidle⟩
  case flagged =>
    intro index poller hpoller
    rcases hturn.cases_after hpoller with ⟨rfl, rfl⟩ | ⟨-, hpoller⟩
    · rw [hflag]
      exact hconcluded.flagged _ _ hturn.poller
    · exact hconcluded.flagged index poller hpoller
  case others =>
    intro index poller hpoller hindex
    rcases hturn.cases_after hpoller with ⟨rfl, rfl⟩ | ⟨-, hpoller⟩
    · obtain ⟨hleft, hrests⟩ := hidle hindex
      exact hrests ▸ hleft
    · exact hconcluded.others index poller hpoller hindex
  case reporter => exact h.reporter_after hturn hzero hconcluded

private theorem decided_after (h : crew.Tallied count) (hturn : crew.Takes conducts trace turn) :
    ∀ other ∈ (crew.after turn).turns, ∀ exit, other.before.poller.phase.decided? = some exit →
      ∀ poller, (crew.after turn).pollers[other.index]? = some poller →
        poller.phase.decided? = some exit := by
  intro other hother exit hexit poller hpoller
  rcases List.mem_append.mp hother with hold | hnew
  · rcases hturn.cases_after hpoller with ⟨hindex, rfl⟩ | ⟨-, hpoller⟩
    · have hbefore := h.decided other hold exit hexit _ (hindex ▸ hturn.poller)
      exact hturn.move.decided hbefore
    · exact h.decided other hold exit hexit poller hpoller
  · obtain rfl := List.mem_singleton.mp hnew
    rcases hturn.cases_after hpoller with ⟨-, rfl⟩ | ⟨hindex, -⟩
    · exact hturn.move.decided hexit
    · exact absurd rfl hindex

/-- A turn leaves the tally right. -/
theorem after (h : crew.Tallied count) (hturn : crew.Takes conducts trace turn) :
    (crew.after turn).Tallied count where
  formed := hturn.move.formed (hturn.floor ▸ h.formed)
  length := (List.length_set).trans h.length
  running := h.running_after hturn
  signOuts := h.signOuts_after hturn
  decrements other hother hsignsOut := by
    rcases List.mem_append.mp hother with hold | hnew
    · exact h.decrements other hold hsignsOut
    · obtain rfl := List.mem_singleton.mp hnew
      simpa [hsignsOut] using (h.exact hturn).1
  settled := h.settled_after hturn
  decided := h.decided_after hturn
  pending := h.pending_after hturn
  concluded hzero := by
    by_cases hbefore : crew.floor.running = 0
    · obtain ⟨earlier, final, later, hconcluded⟩ := h.concluded hbefore
      exact ⟨earlier, final, _, h.concluded_still hturn hbefore hconcluded⟩
    · exact ⟨_, _, _, h.concluded_now hturn hbefore hzero⟩

/-- A step leaves the tally right. -/
theorem step (h : crew.Tallied count) {index : Nat}
    (hstep : (crew.step conducts index).Path trace next) : next.Tallied count := by
  rcases takes_of_step h.formed hstep with ⟨-, -, rfl⟩ | ⟨turn, -, hturn, rfl⟩
  · exact h
  · exact h.after hturn

/-- Every schedule leaves the tally right. -/
theorem play (h : crew.Tallied count) {schedule : List Nat}
    (hplay : (crew.play conducts schedule).Path trace last) : last.Tallied count :=
  Session.invariant_follow (fun _ crew => crew.Tallied count) (fun h hstep => h.step hstep) h hplay

end Tallied

/-- Every poller that is given enough steps leaves. -/
theorem Tallied.allLeft_play (h : crew.Tallied count) {schedule : List Nat}
    (hplay : (crew.play conducts schedule).Path trace last)
    (hfair : ∀ index < count, crew.outstanding index ≤ schedule.count index) : last.AllLeft := by
  intro poller hpoller
  obtain ⟨index, hindex, rfl⟩ := List.getElem_of_mem hpoller
  have hshare := hfair index ((h.play hplay).length ▸ hindex)
  have houtstanding := outstanding_play h.formed hplay index
  exact left_of_outstanding (by omega) (List.getElem?_eq_getElem hindex)

/-- When all pollers have left, the count is zero. -/
theorem Tallied.running_eq_zero (h : crew.Tallied count) (hleft : crew.AllLeft) :
    crew.floor.running = 0 := by
  have hcounted : ∀ poller ∈ crew.pollers, poller.phase.counted = 0 :=
    fun poller hpoller => Phase.counted_eq_zero.mpr (.inr (hleft poller hpoller))
  rw [h.running, total_eq_zero.mpr hcounted]
  rfl

/-- Pollers that share a pool and a count of as many as they are take their steps in any order, and
their runs end in whatever way. Given enough steps, they all leave. Then each has signed out once,
after its last withdrawal, and the count is zero. Exactly one found that it was the last one: after
that the others have left and do nothing, and it drains the pool once. When the pool is drained,
units have their reports until it is empty or a report throws. How a run ends is not changed by what
the final report throws. -/
theorem signs_out_once_whatever_schedule {generic gated : List (Option TestUnit)}
    {registry : Option TokenRegistry} {rank : TestUnit → Nat} {resources : List Resources}
    {schedule : List Nat} (hcrew : resources ≠ [])
    (hplay : ((start (.ofUnits rank generic gated registry) resources).play conducts schedule).Path
      trace last) :
    ((∀ index < resources.length,
        8 * (WorkPool.ofUnits rank generic gated registry).size + 5 ≤ schedule.count index) →
      last.AllLeft) ∧
    (last.AllLeft →
      last.floor.running = 0 ∧
      (∀ index < resources.length,
        (last.turns.countP fun turn => turn.index = index && turn.signsOut) = 1) ∧
      (∃ earlier final later, last.turns = earlier ++ final :: later ∧ final.signsOutLast ∧
        (∀ turn ∈ earlier, ¬turn.signsOutLast ∧ ¬turn.drains) ∧
        (∀ turn ∈ later, ¬turn.signsOut) ∧
        (∀ turn ∈ later, turn.index ≠ final.index → turn.Idle) ∧
        later.countP (·.drains) = 1 ∧
        ∀ index poller, last.pollers[index]? = some poller →
          (poller.reportedNotExecuted ↔ index = final.index))) ∧
    (∀ turn ∈ last.turns, turn.signsOut →
      turn.after.floor.running = turn.before.floor.running - 1) ∧
    (last.turns.Pairwise fun earlier later => earlier.signsOut → later.index = earlier.index →
      later.after.poller.withdrawn = later.before.poller.withdrawn ∧
        (later.drains ∨ later.Idle)) ∧
    (∀ turn ∈ last.turns, turn.drains → ∃ said reports, said <:+: trace ∧
      turn.Drained conducts said reports) ∧
    ∀ turn ∈ last.turns, ∀ exit, turn.before.poller.phase.decided? = some exit →
      ∀ poller, last.pollers[turn.index]? = some poller → poller.phase.decided? = some exit := by
  have hstart : (start (.ofUnits rank generic gated registry) resources).Tallied resources.length :=
    tallied_start WorkPool.wellFormed_ofUnits hcrew
  have hlast := hstart.play hplay
  refine ⟨?_, ?_, hlast.decrements, hlast.settled, ?_, hlast.decided⟩
  · intro hfair
    apply hstart.allLeft_play hplay
    intro index hindex
    rw [outstanding_start hindex]
    exact hfair index hindex
  · intro hleft
    have hzero := hlast.running_eq_zero hleft
    refine ⟨hzero, ?_, ?_⟩
    · intro index hindex
      have hpoller := List.getElem?_eq_getElem (hlast.length.symm ▸ hindex)
      have hsignOuts := hlast.signOuts index _ hpoller
      obtain ⟨exit, hexit⟩ := hleft _ (List.getElem_mem (hlast.length.symm ▸ hindex))
      rwa [hexit, Phase.counted, Nat.add_zero] at hsignOuts
    · obtain ⟨earlier, final, later, hconcluded⟩ := hlast.concluded hzero
      obtain ⟨poller, hpoller, hphase⟩ := hconcluded.reporter
      refine ⟨earlier, final, later, hconcluded.turns, hconcluded.signsOutLast, ?_, ?_, ?_, ?_,
        hconcluded.flagged⟩
      · simpa using hconcluded.before
      · simpa using fun turn hturn => (hconcluded.since turn hturn).1
      · exact fun turn hturn => (hconcluded.since turn hturn).2
      · obtain ⟨exit, hleft⟩ := hleft poller (List.mem_of_getElem? hpoller)
        simpa [hleft] using hphase
  · intro turn hturn hdrains
    obtain ⟨exit, hphase⟩ := Turn.drains_iff.mp hdrains
    obtain ⟨hformed, said, hsaid, hstep⟩ :=
      exists_step_of_turn WorkPool.wellFormed_ofUnits rfl hplay turn hturn
    obtain ⟨reports, hdrained⟩ := Turn.drained_of_step hformed hphase hstep
    exact ⟨said, reports, hsaid, hdrained⟩

/-- Two pollers, a unit that throws out the poller that runs it, and one whose report throws. -/
theorem signs_out_once_two_pollers :
    let resources : List Resources :=
      [{ device := ⟨"one", .physical⟩ }, { device := ⟨"two", .physical⟩ }]
    let gated : TestUnit :=
      { TestUnit.plain 1 "b" ["sim"] with capabilities := { notExecutedReport := true } }
    let pool : WorkPool := .ofUnits WorkPool.asGiven [some (.plain 0 "a" [])] [some gated] none
    let conducts : Conducts .silent := fun _ =>
      { options := .ok []
        run := fun _ => return .error .other
        reportNotExecuted := fun _ => return .error .other }
    let schedule := (List.replicate 21 [0, 1]).flatten
    ∃ trace, ∃ last : Crew,
      resources ≠ [] ∧ ((start pool resources).play conducts schedule).Path trace last ∧
      last.AllLeft ∧ last.floor.running = 0 ∧
      (∀ index < 2, (last.turns.countP fun turn => turn.index = index && turn.signsOut) = 1) ∧
      ∃ reporter, ∀ (index : Nat) (poller : Poller), last.pollers[index]? = some poller →
        (poller.reportedNotExecuted ↔ index = reporter) := by
  intro resources gated pool conducts schedule
  let session : Work .silent Crew := (start pool resources).play conducts schedule
  let course := session.converse (Session.obligingWorld (fun _ _ => true) Interface.silence)
  have hcrew : resources ≠ [] := by decide
  have hplay : session.Path course.1 course.2 := Session.path_converse _ session
  obtain ⟨hfair, hdone, -⟩ := signs_out_once_whatever_schedule hcrew hplay
  have hleft : course.2.AllLeft := hfair (by decide)
  obtain ⟨hzero, hsignOuts, -, final, -, -, -, -, -, -, -, hflagged⟩ := hdone hleft
  exact ⟨course.1, course.2, hcrew, hplay, hleft, hzero, hsignOuts, final.index, hflagged⟩

end Crew

end Fleet
