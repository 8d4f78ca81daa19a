import Fleet.Proofs.Crew.SignOut
import Fleet.Proofs.Invocation.Relay

/-!
# Plays of an invocation

The pollers of an invocation are a crew: whatever the schedule, what a play of the invocation does
to its floor and its pollers, a play of the crew with the same schedule does. A schedule that gives
every seat enough turns lets all seats be closed.
-/

namespace Fleet

variable {E : Interface} {conducts : Conducts E} {trace : List (Session.Exchange (World E))}

namespace Invocation

variable {invocation next last : Invocation} {crew : Crew} {index : Nat} {schedule : List Nat}

/-- To play an invocation is to follow its schedule. -/
theorem play_eq_follow : invocation.play conducts schedule =
    Session.follow (fun index invocation => step conducts index invocation) schedule
      invocation := by
  induction schedule generalizing invocation with
  | nil => rfl
  | cons index schedule ih =>
    rw [play, Session.follow]
    exact bind_congr fun _ => ih

/-- A poller that has not left takes its steps behind its buffer. -/
theorem path_stepSeat {name : String} {floor last : Floor} {seat after : Seat}
    (hexit : seat.poller.exit? = none)
    (h : (stepSeat conducts name floor seat).Path trace (last, after)) :
    ∃ inner, (Station.step conducts { poller := seat.poller, floor }).Path inner
        { poller := after.poller, floor := last } ∧
      Seat.Buffered seat.buffer inner trace after.buffer ∧
      after = { seat with poller := after.poller, buffer := after.buffer } := by
  rw [stepSeat, hexit] at h
  obtain ⟨⟨station, buffer⟩, before, _, rfl, hrelay, hpair⟩ := Session.path_seq.mp h
  obtain ⟨rfl, hsame⟩ := Session.path_pure.mp hpair
  obtain ⟨rfl, rfl⟩ := Prod.mk.inj hsame
  obtain ⟨inner, hinner, hbuffered⟩ := Seat.path_relay hrelay
  rw [List.append_nil]
  exact ⟨inner, hinner, hbuffered, rfl⟩

/-- A step is one of the poller it names, if there is one. The seat is closed in the step after the
poller has left. -/
theorem path_step (h : (invocation.step conducts index).Path trace next) :
    (invocation.seats.length ≤ index ∧ trace = [] ∧ next = invocation) ∨
    ∃ (seat last : Seat) (station : Station) (inner : List (Session.Exchange (World E))),
      invocation.seats[index]? = some seat ∧
      (Station.step conducts { poller := seat.poller, floor := invocation.floor }).Path inner
        station ∧
      seat.Tends inner trace last ∧ last.poller = station.poller ∧
      last.closed = (seat.closed || seat.poller.exit?.isSome) ∧
      next = { invocation with
        floor := station.floor
        seats := invocation.seats.set index last } := by
  rw [step] at h
  split at h
  · rename_i hnone
    obtain ⟨rfl, rfl⟩ := Session.path_pure.mp h
    exact .inl ⟨List.getElem?_eq_none_iff.mp hnone, rfl, rfl⟩
  rename_i seat hseat
  obtain ⟨⟨floor, after⟩, act, _, rfl, hact, hdone⟩ := Session.path_seq.mp h
  obtain ⟨rfl, rfl⟩ := Session.path_pure.mp hdone
  rw [List.append_nil]
  cases hexit : seat.poller.exit? with
  | some exit =>
    rw [stepSeat, hexit] at hact
    have hrest := (@Station.path_step_of_left E conducts
      { poller := seat.poller, floor := invocation.floor } _ [] exit
      (Poller.exit?_eq_some.mp hexit)).mpr ⟨rfl, rfl⟩
    dsimp only at hact
    split at hact
    · rename_i hclosed
      obtain ⟨rfl, hsame⟩ := Session.path_pure.mp hact
      obtain ⟨rfl, rfl⟩ := Prod.mk.inj hsame
      exact .inr ⟨after, after, _, [], hseat, hrest, .rested, rfl, by rw [hclosed]; rfl, rfl⟩
    · obtain ⟨closed, before, _, rfl, hclose, hpair⟩ := Session.path_seq.mp hact
      obtain ⟨rfl, hsame⟩ := Session.path_pure.mp hpair
      obtain ⟨rfl, rfl⟩ := Prod.mk.inj hsame
      obtain ⟨_, _, _, _, -, -, -, hlast, -⟩ := Seat.path_close hclose
      rw [List.append_nil]
      refine .inr ⟨seat, after, _, [], hseat, hrest, .closed hexit hclose, by rw [hlast], ?_, rfl⟩
      rw [hlast, hexit, Option.isSome_some, Bool.or_true]
  | none =>
    obtain ⟨inner, hinner, hbuffered, hafter⟩ := path_stepSeat hexit hact
    refine .inr ⟨seat, after, _, inner, hseat, hinner, ?_, rfl, ?_, rfl⟩
    · exact .relayed hexit hbuffered hafter
    · rw [hafter, hexit, Option.isSome_none, Bool.or_false]

/-- What becomes, seat by seat, of what the pollers say in a play of an invocation. -/
inductive Conveys : Invocation → List (Session.Exchange (World E)) →
    List (Session.Exchange (World E)) → Invocation → Prop where
  | rested {invocation : Invocation} : Conveys invocation [] [] invocation
  | turned {invocation last : Invocation} {index : Nat} {floor : Floor} {seat after : Seat}
      {inner outer innerMore more : List (Session.Exchange (World E))}
      (seated : invocation.seats[index]? = some seat) (tends : seat.Tends inner outer after)
      (rest : Conveys { invocation with floor, seats := invocation.seats.set index after }
        innerMore more last) :
      Conveys invocation (inner ++ innerMore) (outer ++ more) last

namespace Conveys

variable {inner innerMore more : List (Session.Exchange (World E))}

private theorem trans (h : Conveys invocation inner trace next)
    (hlater : Conveys next innerMore more last) :
    Conveys invocation (inner ++ innerMore) (trace ++ more) last := by
  induction h with
  | rested => exact hlater
  | turned hseat htends _ ih =>
    rw [List.append_assoc, List.append_assoc]
    exact .turned hseat htends (ih hlater)

/-- What an invocation conveys shows the same units. -/
theorem alike (h : Conveys invocation inner trace last) : Session.Alike trace inner := by
  induction h with
  | rested => exact .refl []
  | turned _ htends _ ih => exact htends.alike.append ih

end Conveys

/-- A crew with the floor and the pollers of an invocation. -/
structure Mirrors (invocation : Invocation) (crew : Crew) : Prop where
  floor : crew.floor = invocation.floor
  pollers : crew.pollers = invocation.seats.map (·.poller)

namespace Mirrors

/-- A step of an invocation conveys a step of the crew it mirrors. -/
theorem step (h : invocation.Mirrors crew)
    (hstep : (invocation.step conducts index).Path trace next) :
    ∃ inner after, (crew.step conducts index).Path inner after ∧ next.Mirrors after ∧
      Conveys invocation inner trace next := by
  rcases path_step hstep with
    ⟨hindex, rfl, rfl⟩ | ⟨seat, last, station, inner, hseat, hinner, htends, hpoller, -, rfl⟩
  · have hnone : crew.pollers[index]? = none := by
      rw [h.pollers, List.getElem?_map, List.getElem?_eq_none hindex]
      rfl
    refine ⟨[], crew, ?_, h, .rested⟩
    rw [Crew.step, hnone]
    exact Session.path_pure.mpr ⟨rfl, rfl⟩
  · have hsome : crew.pollers[index]? = some seat.poller := by
      rw [h.pollers, List.getElem?_map, hseat]
      rfl
    rw [← h.floor] at hinner
    let before : Station := { poller := seat.poller, floor := crew.floor }
    refine ⟨inner, crew.after { index, before, after := station }, ?_, ⟨rfl, ?_⟩, ?_⟩
    · rw [Crew.step, hsome, ← List.append_nil inner]
      exact Session.path_seq.mpr ⟨_, _, _, rfl, hinner, Session.path_pure.mpr ⟨rfl, rfl⟩⟩
    · rw [Crew.after, h.pollers, List.map_set, hpoller]
    · rw [← List.append_nil inner, ← List.append_nil trace]
      exact .turned hseat htends .rested

/-- A play of an invocation is a play of its crew, conveyed by the seats. -/
theorem play (h : invocation.Mirrors crew)
    (hplay : (invocation.play conducts schedule).Path trace last) :
    ∃ inner after, (crew.play conducts schedule).Path inner after ∧ last.Mirrors after ∧
      Conveys invocation inner trace last := by
  induction schedule generalizing invocation crew trace with
  | nil =>
    obtain ⟨rfl, rfl⟩ := Session.path_pure.mp hplay
    exact ⟨[], crew, Session.path_pure.mpr ⟨rfl, rfl⟩, h, .rested⟩
  | cons index schedule ih =>
    obtain ⟨mid, before, after, rfl, hstep, hrest⟩ := Session.path_seq.mp hplay
    obtain ⟨innerBefore, crewMid, hcrewStep, hmid, hfirst⟩ := h.step hstep
    obtain ⟨innerAfter, crewLast, hcrewRest, hlast, hlater⟩ := ih hmid hrest
    exact ⟨_, crewLast, Session.path_seq.mpr ⟨_, _, _, rfl, hcrewStep, hcrewRest⟩, hlast,
      hfirst.trans hlater⟩

end Mirrors

/-- Every seat is closed. -/
def Over (invocation : Invocation) : Prop :=
  ∀ seat ∈ invocation.seats, seat.closed = true

/-- A seat is closed only after its poller has left. -/
def ClosedLast (invocation : Invocation) : Prop :=
  ∀ seat ∈ invocation.seats, seat.closed = true → ∃ exit, seat.poller.phase = .left exit

private theorem ClosedLast.step (h : invocation.ClosedLast)
    (hstep : (invocation.step conducts index).Path trace next) : next.ClosedLast := by
  rcases path_step hstep with
    ⟨-, -, rfl⟩ | ⟨seat, last, station, inner, hseat, hinner, -, hpoller, hclosed, rfl⟩
  · exact h
  intro other hother hotherClosed
  rcases List.mem_or_eq_of_mem_set hother with hold | rfl
  · exact h other hold hotherClosed
  · have hleft : ∃ exit, seat.poller.phase = .left exit := by
      rw [hclosed, Bool.or_eq_true] at hotherClosed
      rcases hotherClosed with hbefore | hexit
      · exact h seat (List.mem_of_getElem? hseat) hbefore
      · obtain ⟨exit, hexit⟩ := Option.isSome_iff_exists.mp hexit
        exact ⟨exit, Poller.exit?_eq_some.mp hexit⟩
    obtain ⟨exit, hphase⟩ := hleft
    obtain ⟨-, rfl⟩ := (Station.path_step_of_left hphase).mp hinner
    exact ⟨exit, hpoller ▸ hphase⟩

/-- After any schedule, seats are closed only once their pollers have left. -/
theorem ClosedLast.play (h : invocation.ClosedLast)
    (hplay : (invocation.play conducts schedule).Path trace last) : last.ClosedLast :=
  Session.invariant_follow (fun _ invocation => invocation.ClosedLast)
    (fun h hstep => h.step hstep) h (play_eq_follow ▸ hplay)

end Invocation

namespace Seat

variable {seat last : Seat} {floor : Floor} {station : Station}

/-- How many turns a seat needs at most until it is closed. -/
def waiting (floor : Floor) (seat : Seat) : Nat :=
  if seat.closed then 0 else Station.outstanding { poller := seat.poller, floor } + 1

/-- A turn of a seat brings it nearer to being closed. -/
theorem waiting_turn (hformed : floor.pool.WellFormed)
    (hstep : (Station.step conducts { poller := seat.poller, floor }).Path trace station)
    (hpoller : last.poller = station.poller)
    (hclosed : last.closed = (seat.closed || seat.poller.exit?.isSome)) :
    last.waiting station.floor ≤ seat.waiting floor - 1 := by
  have hmove := Station.move_of_step hformed hstep
  rw [waiting, waiting, hclosed, hpoller]
  cases seat.closed with
  | true => exact Nat.zero_le _
  | false =>
    rw [Bool.false_or, if_neg Bool.false_ne_true]
    split
    · exact Nat.zero_le _
    · rename_i hexit
      have hsteps : Station.stepsLeft seat.poller.phase ≠ 0 := by
        intro hzero
        obtain ⟨exit, hleft⟩ := Station.stepsLeft_eq_zero.mp hzero
        rw [Poller.exit?_eq_some.mpr hleft] at hexit
        exact hexit rfl
      have hbefore : 0 < Station.outstanding { poller := seat.poller, floor } :=
        Station.outstanding_pos hsteps
      have hafter := hmove.outstanding_le
      change station.outstanding + 1 ≤ _
      omega

/-- No turn of another seat takes a seat further away from being closed. -/
theorem waiting_mono {other : Floor} (h : other.pool.size ≤ floor.pool.size) :
    seat.waiting other ≤ seat.waiting floor := by
  unfold waiting
  split
  · exact Nat.le_refl _
  · apply Nat.succ_le_succ
    exact Station.outstanding_mono h

end Seat

namespace Invocation

variable {invocation next last : Invocation} {index : Nat} {schedule : List Nat}

/-- How many turns the seat at a place needs at most until it is closed. -/
def waiting (party : Nat) (invocation : Invocation) : Nat :=
  match invocation.seats[party]? with
  | none => 0
  | some seat => seat.waiting invocation.floor

/-- Nobody waits in a seat that does not exist. -/
theorem waiting_of_length_le {party : Nat} (h : invocation.seats.length ≤ party) :
    invocation.waiting party = 0 := by
  rw [waiting, List.getElem?_eq_none h]

/-- The steps that a party waits for are those of its seat. -/
theorem waiting_eq {party : Nat} {seat : Seat} (h : invocation.seats[party]? = some seat) :
    invocation.waiting party = seat.waiting invocation.floor := by
  rw [waiting, h]

private theorem waiting_step (hformed : invocation.floor.pool.WellFormed)
    (hstep : (invocation.step conducts index).Path trace next) (party : Nat) :
    next.floor.pool.WellFormed ∧
      next.waiting party ≤ invocation.waiting party - if index = party then 1 else 0 := by
  rcases path_step hstep with
    ⟨hindex, -, rfl⟩ | ⟨seat, last, station, inner, hseat, hinner, -, hpoller, hclosed, rfl⟩
  · refine ⟨hformed, ?_⟩
    split
    · rename_i hparty
      subst hparty
      have hnone := waiting_of_length_le hindex
      omega
    · exact Nat.le_refl _
  have hmove := Station.move_of_step hformed hinner
  refine ⟨hmove.formed hformed, ?_⟩
  by_cases hparty : index = party
  · subst hparty
    have hlast : (invocation.seats.set index last)[index]? = some last :=
      List.getElem?_set_self (List.getElem?_eq_some_iff.mp hseat).1
    rw [if_pos rfl, waiting_eq hseat, waiting_eq hlast]
    exact Seat.waiting_turn hformed hinner hpoller hclosed
  · have hother : (invocation.seats.set index last)[party]? = invocation.seats[party]? :=
      List.getElem?_set_ne hparty
    rw [if_neg hparty, Nat.sub_zero, waiting, waiting, hother]
    cases invocation.seats[party]? with
    | none => exact Nat.le_refl _
    | some other => exact Seat.waiting_mono hmove.size_le

/-- Each turn of a party is one step less to wait for. -/
theorem waiting_play (hformed : invocation.floor.pool.WellFormed)
    (hplay : (invocation.play conducts schedule).Path trace last) (party : Nat) :
    last.floor.pool.WellFormed ∧
      last.waiting party ≤ invocation.waiting party - schedule.count party := by
  refine ⟨?_, ?_⟩
  · exact Session.invariant_follow (fun _ invocation => invocation.floor.pool.WellFormed)
      (fun hformed hstep => (waiting_step hformed hstep party).1) hformed (play_eq_follow ▸ hplay)
  · exact Session.measure_follow (·.floor.pool.WellFormed) (waiting party)
      (fun hformed hstep => waiting_step hformed hstep party) hformed (play_eq_follow ▸ hplay)

/-- An invocation is over when no seat waits any more. -/
theorem over_of_waiting (h : ∀ index < invocation.seats.length, invocation.waiting index = 0) :
    invocation.Over := by
  intro seat hseat
  obtain ⟨index, hindex, rfl⟩ := List.getElem_of_mem hseat
  have hzero := h index hindex
  rw [waiting_eq (List.getElem?_eq_getElem hindex), Seat.waiting] at hzero
  split at hzero
  · assumption
  · cases hzero

end Invocation

end Fleet
