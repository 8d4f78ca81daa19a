import Fleet.Poller.Execution
import Fleet.Proofs.Listener.Line
import Fleet.Proofs.Module.Units

/-!
# Performances in front of a line

A unit on stage reports to the head of a line. Every event it tells passes the line and is sent to
the outlet, and the unit hears what the outlet answers. A collector that the unit puts in front of
its listener becomes the new head. What leaves the line is what was told, but for metrics.
-/

namespace Fleet

variable {E : Interface} {α : Type}

namespace Performance

/-- No collector that stands at one of these places is put in front of the listener, and none is
twice. -/
def Wires : Performance E α → List Nat → Prop
  | .done _, _ => True
  | .ask (.inl (.send _)) next, places => ∀ answer, Wires (next answer) places
  | .ask (.inl (.wrap position _)) next, places =>
    Poller.collectorNode position ∉ places ∧
      Wires (next (.ok ())) (Poller.collectorNode position :: places) ∧
      ∀ thrown, Wires (next (.error thrown)) places
  | .ask (.inr _) next, places => ∀ answer, Wires (next answer) places

/-- No collector is put in front of the listener. -/
def Plain : Performance E α → Prop
  | .done _ => True
  | .ask (.inl (.wrap ..)) _ => False
  | .ask (.inl (.send _)) next => ∀ answer, Plain (next answer)
  | .ask (.inr _) next => ∀ answer, Plain (next answer)

/-- A plain performance wires no collectors, whatever the places are. -/
theorem Plain.wires {performance : Performance E α} (h : performance.Plain) (places : List Nat) :
    performance.Wires places := by
  induction performance with
  | done => trivial
  | ask question next ih =>
    match question with
    | .inl (.send _) => exact fun answer => ih answer (h answer)
    | .inl (.wrap ..) => exact h.elim
    | .inr _ => exact fun answer => ih answer (h answer)

/-- Two plain performances in a row are plain. -/
theorem Plain.bind {β : Type} {performance : Performance E α} {f : α → Performance E β}
    (h : performance.Plain) (hf : ∀ a, (f a).Plain) : Plain (performance >>= f) := by
  induction performance with
  | done a => exact hf a
  | ask question next ih =>
    match question with
    | .inl (.send _) => exact fun answer => ih answer (h answer)
    | .inl (.wrap ..) => exact h.elim
    | .inr _ => exact fun answer => ih answer (h answer)

/-- To tell events is plain. -/
theorem plain_sendAll {events : List Event} : Plain (sendAll (E := E) events) := by
  induction events with
  | nil => trivial
  | cons event rest ih =>
    intro answer
    cases answer with
    | ok _ => exact ih
    | error _ => trivial

end Performance

namespace Poller

/-- What a performance comes to in front of a line: the conversation with the outside, and the line
afterwards. -/
inductive Staged (outlet : Nat) : Line → List (Session.Exchange (stage.sum E)) →
    List (Session.Exchange (World E)) → Line → Prop where
  | done {line : Line} : Staged outlet line [] [] line
  | sent {line mid last : Line} {event passed : Event} {answer : Except Thrown Unit}
      {played : List (Session.Exchange (stage.sum E))}
      {hooks trace : List (Session.Exchange (World E))}
      (pass : (line.pass event).Path hooks (passed, mid))
      (rest : Staged outlet mid played trace last) :
      Staged outlet line (⟨.inl (.send event), answer⟩ :: played)
        (hooks ++ ⟨.inl (.send outlet passed), answer⟩ :: trace) last
  /-- A collector becomes the head of the line. -/
  | wrapped {line last : Line} {position : Nat} {context : Option Context} {collector : Collector}
      {played : List (Session.Exchange (stage.sum E))} {trace : List (Session.Exchange (World E))}
      (rest : Staged outlet
        ((collectorNode position, .collector { collector with context }) :: line)
        played trace last) :
      Staged outlet line (⟨.inl (.wrap position context), .ok ()⟩ :: played)
        (⟨.inl (.collectorInit collector.id context), .ok ()⟩ :: trace) last
  /-- A collector throws and does not join the line. -/
  | refused {line last : Line} {position collector : Nat} {context : Option Context}
      {thrown : Thrown} {played : List (Session.Exchange (stage.sum E))}
      {trace : List (Session.Exchange (World E))} (rest : Staged outlet line played trace last) :
      Staged outlet line (⟨.inl (.wrap position context), .error thrown⟩ :: played)
        (⟨.inl (.collectorInit collector context), .error thrown⟩ :: trace) last
  /-- There is no such collector. -/
  | missing {line last : Line} {position : Nat} {context : Option Context}
      {played : List (Session.Exchange (stage.sum E))} {trace : List (Session.Exchange (World E))}
      (rest : Staged outlet line played trace last) :
      Staged outlet line (⟨.inl (.wrap position context), .ok ()⟩ :: played) trace last
  | errand {line last : Line} {question : E.Question} {answer : E.Answer question}
      {played : List (Session.Exchange (stage.sum E))} {trace : List (Session.Exchange (World E))}
      (rest : Staged outlet line played trace last) :
      Staged outlet line (⟨.inr question, answer⟩ :: played) (⟨.inr question, answer⟩ :: trace) last

section Staged

variable {outlet openRuns guard : Nat} {line last front back : Line}
  {played : List (Session.Exchange (stage.sum E))} {trace : List (Session.Exchange (World E))}

/-- What is sent to the outlet is what was told, in order, but for metrics. -/
theorem Staged.bare_sent (h : Staged outlet line played trace last) :
    (Session.sent trace).map Event.bare = (Performance.told played).map Event.bare := by
  induction h with
  | done => rfl
  | sent hpass _ ih =>
    obtain ⟨hbare, hhooks⟩ := Line.bare_of_pass hpass
    rw [Session.sent_append, Session.sent_of_deeds_nil hhooks, List.nil_append, Session.sent_send,
      List.map_cons, hbare, ih]
    rfl
  | wrapped _ ih => exact ih
  | refused _ ih => exact ih
  | missing _ ih => exact ih
  | errand _ ih => exact ih

/-- A guard in the line counts the open runs of what was told, whatever stands in front of it, and
what stands behind it keeps its place. -/
theorem Staged.counts (h : Staged outlet line played trace last)
    (hguard : line = front ++ (guard, .guard openRuns) :: back) :
    ∃ front' back', Line.places back' = Line.places back ∧ last = front' ++ (guard, .guard
      ((Performance.told played).foldl openRunsAfter openRuns)) :: back' := by
  induction h generalizing openRuns front back with
  | done => exact ⟨front, back, rfl, hguard⟩
  | sent hpass _ ih =>
    rw [hguard] at hpass
    obtain ⟨between, before, later, front', rest, rfl, hfront, hback, rfl⟩ :=
      Line.path_pass_append hpass
    obtain ⟨taken, kept, back', before, later, rfl, hreceive, hpassed, rfl⟩ :=
      Line.path_pass_cons.mp hback
    obtain ⟨-, hkept⟩ := Session.path_pure.mp hreceive
    obtain ⟨-, rfl⟩ := Prod.mk.inj hkept
    rw [openRunsAfter_congr (Line.bare_of_pass hfront).1] at ih
    obtain ⟨front'', back'', hplaces, rfl⟩ := ih rfl
    exact ⟨front'', back'', hplaces.trans (Line.places_of_pass hpassed), rfl⟩
  | wrapped _ ih =>
    rw [hguard] at ih
    exact ih (List.cons_append ..).symm
  | refused _ ih => exact ih hguard
  | missing _ ih => exact ih hguard
  | errand _ ih => exact ih hguard

end Staged

variable {outlet exit place : Nat} {line : Line} {places : List Nat} {stage last : Stage}
  {network : Network} {trace : List (Session.Exchange (World E))}

/-- The network of a stage answers what a unit tells by passing it down the line. -/
theorem ends_answerStage_send {event : Event} {result : Except Thrown Unit}
    (hleads : stage.network.Leads outlet exit stage.listener line)
    (h : (answerStage (.send event)).Ends stage trace result last) :
    ∃ hooks passed after, (line.pass event).Path hooks (passed, after) ∧
      trace = hooks ++ [⟨.inl (.send outlet passed), result⟩] ∧
      last.network.Leads outlet exit last.listener after := by
  rw [answerStage, Flow.ends_get_bind] at h
  obtain ⟨inner, hsend, rfl⟩ := Flow.ends_within.mp h
  obtain ⟨hooks, passed, after, hpass, htrace, hlast, -⟩ := Network.ends_send_of_leads hleads hsend
  exact ⟨hooks, passed, after, hpass, htrace, hlast⟩

/-- Asked to put a collector in front of the listener, the stage does so, unless there is none or it
throws. -/
theorem ends_answerStage_wrap {position : Nat} {context : Option Context}
    {result : Except Thrown Unit}
    (h : (answerStage (.wrap position context)).Ends stage trace result last) :
    (trace = [] ∧ result = .ok () ∧ last = stage) ∨
      ∃ collector behind,
        stage.network[collectorNode position]? = some (.collector collector behind) ∧
        trace = [⟨.inl (.collectorInit collector.id context), result⟩] ∧
        ((result = .ok () ∧
            last.network = stage.network.set (collectorNode position)
              (.collector { collector with context } stage.listener) ∧
            last.listener = collectorNode position) ∨
          ∃ thrown, result = .error thrown ∧ last = stage) := by
  rw [answerStage, Flow.ends_get_bind] at h
  dsimp only at h
  split at h
  · rename_i collector behind hplace
    refine .inr ⟨collector, behind, hplace, ?_⟩
    rcases Flow.ends_bind.mp h with
      ⟨thrown, hthrown, rfl⟩ | ⟨⟨⟩, before, after, mid, rfl, hwrapped, hrest⟩
    · obtain ⟨inner, hwrap, rfl⟩ := Flow.ends_within.mp hthrown
      obtain ⟨rfl, ⟨hnot, -⟩ | ⟨_, -, rfl⟩⟩ := Network.ends_wrap hplace hwrap
      · cases hnot
      · exact ⟨rfl, .inr ⟨thrown, rfl, rfl⟩⟩
    · obtain ⟨inner, hwrap, rfl⟩ := Flow.ends_within.mp hwrapped
      obtain ⟨rfl, ⟨-, rfl⟩ | ⟨_, hnot, -⟩⟩ := Network.ends_wrap hplace hwrap
      · obtain ⟨rfl, rfl, rfl⟩ := Flow.ends_modify.mp hrest
        exact ⟨rfl, .inl ⟨rfl, rfl, rfl⟩⟩
      · cases hnot
  · exact .inl (Flow.ends_pure.mp h)

/-- A performance in front of a line that a collector joins at most once is staged there. -/
theorem staged_of_perform {performance : Performance E (Except Thrown α)}
    {result : Except Thrown α}
    (h : (Flow.perform answerStage performance).Ends stage trace result last)
    (hleads : stage.network.Leads outlet exit stage.listener line)
    (hplaces : line.collectorPlaces ⊆ places) (hwires : performance.Wires places) :
    ∃ played after, performance.Path played result ∧ Staged outlet line played trace after ∧
      last.network.Leads outlet exit last.listener after := by
  induction performance generalizing stage trace line places with
  | done ended =>
    obtain ⟨rfl, hdone⟩ := Session.path_pure.mp h
    obtain ⟨rfl, rfl⟩ := Prod.mk.inj hdone
    exact ⟨[], line, .done _, .done, hleads⟩
  | ask question next ih =>
    obtain ⟨⟨answer, mid⟩, before, trace, rfl, hasked, hrest⟩ := Session.path_seq.mp h
    match question with
    | .inl (.send event) =>
      obtain ⟨hooks, passed, between, hpass, rfl, hmid⟩ := ends_answerStage_send hleads hasked
      have hkept : Line.collectorPlaces between ⊆ places := by
        rwa [Line.collectorPlaces_of_pass hpass]
      obtain ⟨played, after, hplayed, hstaged, hlast⟩ := ih answer hrest hmid hkept (hwires answer)
      refine ⟨⟨.inl (.send event), answer⟩ :: played, after, .ask hplayed, ?_, hlast⟩
      rw [List.append_assoc]
      exact .sent hpass hstaged
    | .inl (.wrap position context) =>
      obtain ⟨hfresh, hjoined, hrefused⟩ := hwires
      rcases ends_answerStage_wrap hasked with
        ⟨rfl, rfl, rfl⟩ |
        ⟨collector, behind, hplace, rfl, ⟨rfl, hnetwork, hlistener⟩ | ⟨_, rfl, rfl⟩⟩
      · -- A collector that is missing leaves more places free than one that has joined.
        obtain ⟨played, after, hplayed, hstaged, hlast⟩ := ih (.ok ()) hrest hleads
          (List.subset_cons_of_subset _ hplaces) hjoined
        exact ⟨_, after, .ask hplayed, .missing hstaged, hlast⟩
      · have hmid : mid.network.Leads outlet exit mid.listener
            ((collectorNode position, .collector { collector with context }) :: line) := by
          rw [hnetwork, hlistener]
          have hnew : collectorNode position ∉ line.places := fun hmem =>
            hfresh (hplaces (hleads.mem_collectorPlaces hplace hmem))
          exact .link (List.getElem?_set_self (List.getElem?_eq_some_iff.mp hplace).1)
            (hleads.set hnew hplace nofun)
        obtain ⟨played, after, hplayed, hstaged, hlast⟩ := ih (.ok ()) hrest hmid
          (List.cons_subset_cons _ hplaces) hjoined
        exact ⟨_, after, .ask hplayed, .wrapped hstaged, hlast⟩
      · obtain ⟨played, after, hplayed, hstaged, hlast⟩ := ih (.error _) hrest hleads hplaces
          (hrefused _)
        exact ⟨_, after, .ask hplayed, .refused hstaged, hlast⟩
    | .inr errand =>
      obtain ⟨_, _, rfl, hdone⟩ := Session.path_ask.mp hasked
      obtain ⟨rfl, hanswer⟩ := Session.path_done.mp hdone
      obtain ⟨rfl, rfl⟩ := Prod.mk.inj hanswer
      obtain ⟨played, after, hplayed, hstaged, hlast⟩ :=
        ih answer hrest hleads hplaces (hwires answer)
      exact ⟨⟨.inr errand, answer⟩ :: played, after, .ask hplayed, .errand hstaged, hlast⟩

end Poller

end Fleet
