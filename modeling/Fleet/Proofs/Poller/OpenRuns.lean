import Fleet.Proofs.Poller.Containment
import Fleet.Proofs.Poller.Stage

/-!
# Runs a unit leaves open

A unit runs behind a guard that counts the runs it leaves open. If it fails, the runs are failed and
ended for it, one after the other, in front of what stands behind the guard.
-/

namespace Fleet

variable {E : Interface}

/-- How many runs events leave open. -/
def openRunsOf (events : List Event) : Nat :=
  events.foldl openRunsAfter 0

namespace Poller

/-- Where a unit reports: to the poller's own listener if it wires collectors itself, and else to
the entry. -/
def target (unit : TestUnit) (entry : Nat) : Nat :=
  if unit.capabilities.collectors then ownListener else entry

/-- A unit has been run behind a guard in front of a line: the events it told, the conversation with
the outside, how the run ended, and what has become of the line. -/
inductive Performs (outlet : Nat) (conduct : Conduct E) (resources : Resources) (unit : TestUnit)
    (guard : Nat) (line : Line) :
    List Event → List (Session.Exchange (World E)) → Except Thrown Outcome → Line → Prop where
  | ran {played : List (Session.Exchange (stage.sum E))}
      {trace : List (Session.Exchange (World E))} {ended : Except Thrown Outcome}
      {front after : Line}
      (run : (conduct.run (resources.received unit.capabilities)).Path played ended)
      (staged : Staged outlet ((guard, .guard 0) :: line) played trace
        (front ++ (guard, .guard (openRunsOf (Performance.told played))) :: after)) :
      Performs outlet conduct resources unit guard line (Performance.told played)
        ((if unit.capabilities.collectors then handover resources unit (.ok ()) else []) ++ trace)
        ended after
  /-- The unit would not take its collectors. -/
  | refused {thrown : Thrown} (wires : unit.capabilities.collectors = true) :
      Performs outlet conduct resources unit guard line []
        (handover resources unit (.error thrown)) (.error thrown) line

/-- A unit has been executed behind a guard in front of a line: the events that went past the guard,
the conversation with the outside, what the execution comes to, and what has become of the line. -/
inductive Executes (outlet : Nat) (conduct : Conduct E) (resources : Resources) (unit : TestUnit)
    (guard : Nat) (line : Line) :
    List Event → List (Session.Exchange (World E)) → Except Thrown Outcome → Line → Prop where
  | settled {told : List Event} {trace : List (Session.Exchange (World E))}
      {ended : Except Thrown Outcome} {after : Line}
      (performs : Performs outlet conduct resources unit guard line told trace ended after)
      (settles : ∀ error, contain unit resources.device.serial ended ≠ .ok (.error error)) :
      Executes outlet conduct resources unit guard line told trace
        (contain unit resources.device.serial ended) after
  /-- The runs that a failed unit left open are closed. -/
  | failed {told : List Event} {performed closing rest : List (Session.Exchange (World E))}
      {closed : List (Session.Exchange (stage.sum E))} {ended : Except Thrown Outcome}
      {error : TaskError} {answer : Except Thrown Unit} {mid after : Line}
      (performs : Performs outlet conduct resources unit guard line told performed ended mid)
      (fails : contain unit resources.device.serial ended = .ok (.error error))
      (closes : (Performance.sendAll (closingEvents error.message (openRunsOf told))).Path closed
        answer)
      (staged : Staged outlet mid closed closing after) (quiet : Session.deeds rest = []) :
      Executes outlet conduct resources unit guard line (told ++ Performance.told closed)
        (performed ++ closing ++ rest) (answer.map fun _ => .error error) after

variable {outlet exit place guard : Nat} {line : Line} {first last : Network} {conduct : Conduct E}
  {resources : Resources} {unit : TestUnit} {trace : List (Session.Exchange (World E))}

/-- Sending events to the head of a line is telling them in front of the line. -/
theorem staged_of_forM_send {events : List Event} {result : Except Thrown Unit}
    (hleads : first.Leads outlet exit place line)
    (h : (events.forM (Network.send place)).Ends first trace result last) :
    ∃ played after, (Performance.sendAll (E := E) events).Path played result ∧
      Staged outlet line played trace after ∧ last.Leads outlet exit place after ∧
      after.places = line.places ∧ first.KeptBut line.places last := by
  induction events generalizing first trace line with
  | nil =>
    obtain ⟨rfl, rfl, rfl⟩ := Flow.ends_pure.mp h
    exact ⟨[], line, .done _, .done, hleads, rfl, .refl ..⟩
  | cons event rest ih =>
    rw [List.forM] at h
    rcases Flow.ends_bind.mp h with
      ⟨thrown, hthrown, rfl⟩ | ⟨⟨⟩, before, after, mid, rfl, hsend, hrest⟩
    · obtain ⟨hooks, passed, after, hpass, rfl, hlast, hkept⟩ :=
        Network.ends_send_of_leads hleads hthrown
      exact ⟨[⟨.inl (.send event), .error thrown⟩], after, .ask (.done _), .sent hpass .done, hlast,
        Line.places_of_pass hpass, hkept⟩
    · obtain ⟨hooks, passed, between, hpass, rfl, hmid, hkept⟩ :=
        Network.ends_send_of_leads hleads hsend
      obtain ⟨played, after, hplayed, hstaged, hlast, hplaces, hlater⟩ := ih hmid hrest
      rw [Line.places_of_pass hpass] at hplaces hlater
      refine ⟨⟨.inl (.send event), .ok ()⟩ :: played, after, .ask hplayed, ?_, hlast, hplaces,
        hkept.trans hlater⟩
      rw [List.append_assoc]
      exact .sent hpass hstaged

/-- What a performance played in front of a line comes to. -/
theorem staged_of_play {α : Type} {performance : Performance E (Except Thrown α)}
    {result : Except Thrown α} (hleads : first.Leads outlet exit place line)
    (hwires : performance.Wires line.collectorPlaces)
    (h : (play place performance).Ends first trace result last) :
    ∃ played after, performance.Path played result ∧ Staged outlet line played trace after ∧
      ∃ head, last.Leads outlet exit head after := by
  obtain ⟨⟨ended, stage⟩, before, after, rfl, hperform, hdone⟩ := Session.path_seq.mp h
  obtain ⟨rfl, hended⟩ := Session.path_pure.mp hdone
  obtain ⟨rfl, rfl⟩ := Prod.mk.inj hended
  rw [List.append_nil]
  obtain ⟨played, after, hplayed, hstaged, hlast⟩ :=
    staged_of_perform hperform hleads (List.Subset.refl _) hwires
  exact ⟨played, after, hplayed, hstaged, stage.listener, hlast⟩

/-- To perform the run of a unit behind its guard is to run it there; the guard counts the runs the
unit leaves open. -/
theorem performs_of_performRun {result : Except Thrown Outcome}
    (hleads : first.Leads outlet exit guard ((guard, .guard 0) :: line))
    (hwires : (conduct.run (resources.received unit.capabilities)).Wires line.collectorPlaces)
    (h : (performRun conduct resources guard unit).Ends first trace result last) :
    ∃ told ended after, Performs outlet conduct resources unit guard line told trace ended after ∧
      result = contain unit resources.device.serial ended ∧ after.places = line.places ∧
      last.Leads outlet exit guard ((guard, .guard (openRunsOf told)) :: after) := by
  obtain ⟨ended, hresult, ⟨hcollectors, rfl, thrown, rfl, rfl⟩ | ⟨rest, rfl, hplay⟩⟩ :=
    ends_performRun h
  · exact ⟨[], .error thrown, line, .refused hcollectors, hresult, rfl, hleads⟩
  · obtain ⟨played, after, hplayed, hstaged, head, hlast⟩ := staged_of_play hleads hwires hplay
    obtain ⟨front, after, hplaces, rfl⟩ := hstaged.counts (List.nil_append _).symm
    exact ⟨Performance.told played, ended, after, .ran hplayed hstaged, hresult, hplaces,
      hlast.suffix⟩

/-- To close the open runs of a failed unit is to tell the closing events in front of what stands
behind its guard. -/
theorem staged_of_closeOpenRuns {openRuns : Nat} {serial : String} {error : TaskError}
    {result : Except Thrown Unit}
    (hleads : first.Leads outlet exit guard ((guard, .guard openRuns) :: line))
    (h : (closeOpenRuns guard unit serial error).Ends first trace result last) :
    ∃ closed closing rest after, trace = closing ++ rest ∧ Session.deeds rest = [] ∧
      (Performance.sendAll (E := E) (closingEvents error.message openRuns)).Path closed result ∧
      Staged outlet line closed closing after ∧ after.places = line.places ∧
      last.Leads outlet exit guard ((guard, .guard openRuns) :: after) := by
  have hguard : guard ∉ line.places := (List.nodup_cons.mp hleads.nodup).1
  cases hleads with
  | @link _ next _ _ hplace hline =>
    rw [closeOpenRuns, Flow.ends_get_bind, hplace] at h
    rcases Flow.ends_bind.mp h with
      ⟨thrown, hthrown, rfl⟩ | ⟨⟨⟩, before, rest, mid, rfl, hclosing, hrest⟩
    · obtain ⟨closed, after, hclosed, hstaged, hlast, hplaces, hkept⟩ :=
        staged_of_forM_send hline hthrown
      exact ⟨closed, trace, [], after, (List.append_nil trace).symm, rfl, hclosed, hstaged, hplaces,
        .link ((hkept.kept guard hguard).trans hplace) hlast⟩
    · obtain ⟨closed, after, hclosed, hstaged, hlast, hplaces, hkept⟩ :=
        staged_of_forM_send hline hclosing
      have hlogged : Session.deeds rest = [] ∧ result = .ok () ∧ last = mid := by
        split at hrest
        · obtain ⟨⟨⟩, hlogged, hresult, hlast⟩ := Flow.ends_work.mp hrest
          obtain rfl := Flow.path_request.mp hlogged
          exact ⟨rfl, hresult, hlast⟩
        · obtain ⟨rfl, hresult, hlast⟩ := Flow.ends_pure.mp hrest
          exact ⟨rfl, hresult, hlast⟩
      obtain ⟨hquiet, rfl, rfl⟩ := hlogged
      exact ⟨closed, before, rest, after, rfl, hquiet, hclosed, hstaged,
        hplaces, .link ((hkept.kept guard hguard).trans hplace) hlast⟩

/-- When its guard is gone, a unit's listener still leads down the line behind the guard. -/
theorem leads_of_guard {openRuns entry : Nat} {after : Line}
    (hfirst : first.Leads outlet exit entry line) (hplaces : after.places = line.places)
    (hlast : last.Leads outlet exit guard ((guard, .guard openRuns) :: after)) :
    Network.Leads (last.set guard .silent) outlet exit entry after := by
  have hguard : guard ∉ after.places := (List.nodup_cons.mp hlast.nodup).1
  cases hlast with
  | link hplace hrest =>
    rw [hfirst.place_eq, ← hplaces, ← hrest.place_eq]
    exact hrest.set hguard hplace Link.listener_ne_outlet

/-- A unit is executed behind a guard of its own, in front of the line its events go down. -/
theorem executes_of_execute {entry : Nat} {result : Except Thrown Outcome}
    (hleads : first.Leads outlet exit (target unit entry) line)
    (hwires : (conduct.run (resources.received unit.capabilities)).Wires line.collectorPlaces)
    (h : (execute conduct resources entry unit).Ends first trace result last) :
    ∃ passed after,
      Executes outlet conduct resources unit first.length line passed trace result after ∧
      after.places = line.places ∧ last.Leads outlet exit (target unit entry) after := by
  rw [execute, Flow.ends_get_bind, Flow.ends_modify_bind] at h
  obtain ⟨attempted, before, after, mid, rfl, hattempt, hrest⟩ := Flow.ends_attempt_bind.mp h
  rw [Flow.ends_modify_bind] at hrest
  obtain ⟨rfl, rfl, rfl⟩ := Flow.ends_resume.mp hrest
  rw [List.append_nil]
  have hguarded : Network.Leads (first ++ [.guard 0 (target unit entry)]) outlet exit first.length
      ((first.length, .guard 0) :: line) :=
    .link (by simp [Link.listener]) (hleads.append _)
  rcases Flow.ends_bind.mp hattempt with
    ⟨thrown, hthrown, rfl⟩ | ⟨outcome, performed, later, between, rfl, hperformed, hclosed⟩
  · obtain ⟨told, ended, after, hperforms, hresult, hplaces, hlast⟩ :=
      performs_of_performRun hguarded hwires hthrown
    refine ⟨told, after, hresult ▸ .settled hperforms ?_, hplaces,
      leads_of_guard hleads hplaces hlast⟩
    rw [← hresult]
    exact fun _ h => by cases h
  · obtain ⟨told, ended, after, hperforms, hresult, hplaces, hlast⟩ :=
      performs_of_performRun hguarded hwires hperformed
    cases outcome with
    | ok _ =>
      obtain ⟨rfl, rfl, rfl⟩ := Flow.ends_pure.mp hclosed
      rw [List.append_nil]
      refine ⟨told, after, hresult ▸ .settled hperforms ?_, hplaces,
        leads_of_guard hleads hplaces hlast⟩
      rw [← hresult]
      exact fun _ h => by cases h
    | error error =>
      have hresumed : ∃ answer : Except Thrown Unit, result = answer.map (fun _ => .error error) ∧
          (closeOpenRuns first.length unit resources.device.serial error).Ends between later answer
            mid := by
        rcases Flow.ends_bind.mp hclosed with
          ⟨thrown, hthrown, rfl⟩ | ⟨⟨⟩, closing, rest, _, rfl, hclosing, hdone⟩
        · exact ⟨.error thrown, rfl, hthrown⟩
        · obtain ⟨rfl, rfl, rfl⟩ := Flow.ends_pure.mp hdone
          exact ⟨.ok (), rfl, by rwa [List.append_nil]⟩
      obtain ⟨answer, rfl, hclosing⟩ := hresumed
      obtain ⟨closed, closing, rest, later, rfl, hquiet, hclosed, hstaged, hkept, hleft⟩ :=
        staged_of_closeOpenRuns hlast hclosing
      refine ⟨told ++ Performance.told closed, later, ?_, hkept.trans hplaces,
        leads_of_guard hleads (hkept.trans hplaces) hleft⟩
      rw [← List.append_assoc]
      exact .failed hperforms hresult.symm hclosed hstaged hquiet

end Poller

end Fleet
