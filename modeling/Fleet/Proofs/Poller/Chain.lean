import Fleet.Proofs.Asking
import Fleet.Proofs.Listener.Routes
import Fleet.Proofs.Poller.Discreet
import Fleet.Proofs.Poller.OpenRuns

/-!
# The chain of a poller's collectors

At the start of a run the collectors are put around the poller's own listener, each around the one
before. A unit that wires collectors itself starts them again, in front of the guard it reports to,
and the guard is gone when the unit ends. From the first of these collectors on nothing leads back
to the poller's listener; before it the chain is as it was. Nothing else changes the chain.
-/

namespace Fleet

variable {E : Interface}

/-- The question starts no collector. -/
def World.Unstarting : (World E).Question → Prop
  | .inl (.collectorInit ..) => False
  | _ => True

/-- A log line starts no collector. -/
theorem World.Logging.unstarting {question : (World E).Question} (h : World.Logging question) :
    World.Unstarting question := by
  rcases question with question | errand
  · cases question <;> trivial
  · trivial

namespace Session

variable {trace before after : List (Exchange (World E))}

/-- The collector that is started in an exchange, if it does not throw. -/
def Exchange.started? : Exchange (World E) → Option Nat
  | ⟨.inl (.collectorInit id _), .ok ()⟩ => some id
  | _ => none

/-- The collectors that are started in a conversation, in order. -/
def started (trace : List (Exchange (World E))) : List Nat :=
  trace.filterMap Exchange.started?

@[simp] theorem started_append : started (before ++ after) = started before ++ started after :=
  List.filterMap_append

/-- Where no question starts a collector, none is started. -/
theorem started_eq_nil (h : ∀ exchange ∈ trace, World.Unstarting exchange.question) :
    started trace = [] := by
  refine List.filterMap_eq_nil_iff.mpr fun ⟨question, answer⟩ hexchange => ?_
  have hquestion : World.Unstarting question := h _ hexchange
  rcases question with question | errand
  · cases question <;> first | rfl | cases hquestion
  · rfl

end Session

namespace Network

/-- Events start no collector. -/
theorem delivery_unstarting : Delivery (Flow.Law.asking (E := E) Network World.Unstarting) where
  moves _ _ := trivial
  send _ _ := .send trivial
  save _ _ _ _ := trivial
  hook request h := by cases request <;> trivial
  log _ _ := trivial

/-- A silent listener adds nothing but itself. -/
theorem getElem?_append_silent {network : Network} {place : Nat} {listener : Listener}
    (h : (network ++ [.silent])[place]? = some listener) :
    network[place]? = some listener ∨ listener = .silent := by
  by_cases hplace : place < network.length
  · rw [List.getElem?_append_left hplace] at h
    exact .inl h
  · rw [List.getElem?_append_right (Nat.le_of_not_lt hplace)] at h
    exact .inr (List.mem_singleton.mp (List.mem_of_getElem? h))

/-- The listeners are those a poller is equipped with: its own one, and each collector at its place.
There are no others, but for guards that are gone. -/
structure Seated (ids : List Nat) (network : Network) : Prop where
  exit : network[Poller.ownListener]? = some (.outlet 0)
  seats : ∀ position id, ids[position]? = some id → ∃ meter next,
    network[Poller.collectorNode position]? = some (.collector meter next) ∧ meter.id = id
  silent : ∀ place listener, ids.length < place → network[place]? = some listener →
    listener = .silent

/-- The collectors stand in a chain in front of the poller's own listener. Each of the first ones,
as far as the chain is intact, passes events to the one before it; nothing behind these leads
back. -/
structure Chain (ids : List Nat) (context : Option Context) (intact : Nat) (network : Network) :
    Prop extends Seated ids network where
  intact_le : intact ≤ ids.length
  linked : ∀ position, position < intact → ∃ meter : Collector,
    network[Poller.collectorNode position]? = some (.collector meter (some position)) ∧
      meter.context = context
  adrift : network.Adrift intact

variable {ids : List Nat} {context : Option Context} {intact position : Nat}
  {network first last : Network} {meter : Collector} {behind : Option Nat}

namespace Seated

private theorem of_routes (h : first.Seated ids) (hroutes : last.routes = first.routes) :
    last.Seated ids where
  exit := by
    obtain ⟨listener, hlistener, hroute⟩ := exists_of_routes hroutes.symm h.exit
    cases listener <;> cases hroute
    exact hlistener
  seats position id hid := by
    obtain ⟨meter, next, hmeter, rfl⟩ := h.seats position id hid
    obtain ⟨listener, hlistener, hroute⟩ := exists_of_routes hroutes.symm hmeter
    cases listener with
    | collector kept behind =>
      obtain ⟨hkept, -⟩ := Listener.collector.inj hroute
      exact ⟨kept, behind, hlistener, (Collector.mk.inj hkept).1⟩
    | _ => cases hroute
  silent place listener hplace hlistener := by
    obtain ⟨old, hold, hroute⟩ := exists_of_routes hroutes hlistener
    obtain rfl := h.silent place old hplace hold
    cases listener <;> cases hroute
    rfl

private theorem length (h : network.Seated ids) : ids.length < network.length := by
  cases hcount : ids.length with
  | zero => exact (List.getElem?_eq_some_iff.mp h.exit).1
  | succ last =>
    have hlast : last < ids.length := hcount ▸ Nat.lt_succ_self last
    obtain ⟨meter, next, hmeter, -⟩ := h.seats last _ (List.getElem?_eq_getElem hlast)
    exact (List.getElem?_eq_some_iff.mp hmeter).1

private theorem lt_of_collector (h : network.Seated ids)
    (hplace : network[Poller.collectorNode position]? = some (.collector meter behind)) :
    position < ids.length := by
  by_contra hnot
  cases h.silent _ _ (Nat.lt_succ_of_le (Nat.le_of_not_lt hnot)) hplace

/-- A collector may be started with another context and in front of another listener. -/
theorem set (h : network.Seated ids) {other : Collector} {next : Option Nat}
    (hplace : network[Poller.collectorNode position]? = some (.collector meter behind))
    (hother : other.id = meter.id) :
    Seated ids (network.set (Poller.collectorNode position) (.collector other next)) := by
  have hlength := (List.getElem?_eq_some_iff.mp hplace).1
  have hkept : ∀ {place : Nat}, place ≠ Poller.collectorNode position →
      (network.set (Poller.collectorNode position) (.collector other next))[place]? =
        network[place]? := fun hne => List.getElem?_set_ne hne.symm
  refine ⟨(hkept (Nat.succ_ne_zero _).symm).trans h.exit, fun earlier id hid => ?_,
    fun place listener hbeyond hlistener => ?_⟩
  · obtain ⟨kept, after, hkept', rfl⟩ := h.seats earlier id hid
    by_cases hsame : Poller.collectorNode earlier = Poller.collectorNode position
    · rw [hsame, hplace] at hkept'
      obtain ⟨rfl, -⟩ := Listener.collector.inj (Option.some.inj hkept')
      exact ⟨other, next, by rw [hsame, List.getElem?_set_self hlength], hother⟩
    · exact ⟨kept, after, (hkept hsame).trans hkept', rfl⟩
  · have hne : place ≠ Poller.collectorNode position := by
      have hposition := h.lt_of_collector hplace
      simp only [Poller.collectorNode]
      omega
    exact h.silent place listener hbeyond ((hkept hne).symm.trans hlistener)

private theorem append_silent (h : network.Seated ids) : Seated ids (network ++ [.silent]) := by
  have hold : ∀ {place : Nat} {listener : Listener}, network[place]? = some listener →
      (network ++ [.silent])[place]? = some listener := fun hplace =>
    (List.getElem?_append_left (List.getElem?_eq_some_iff.mp hplace).1).trans hplace
  refine ⟨hold h.exit, fun position id hid => ?_, fun place listener hbeyond hlistener => ?_⟩
  · obtain ⟨meter, next, hmeter, hsame⟩ := h.seats position id hid
    exact ⟨meter, next, hold hmeter, hsame⟩
  · rcases getElem?_append_silent hlistener with hlistener | rfl
    · exact h.silent place listener hbeyond hlistener
    · rfl

private theorem keeps_send {target : Nat} {event : Event} :
    (send (E := E) target event).Keeps (Seated ids) :=
  Flow.keeps_iff.mpr fun _ _ _ _ hends h => h.of_routes ((keeps_routes_send hends).moved rfl)

/-- To wire a collector leaves every listener at its place. -/
theorem keeps_wrap {next : Nat} :
    (wrap (E := E) (Poller.collectorNode position) context next).Keeps (Seated ids) := by
  refine Flow.keeps_iff.mpr fun first trace result last hends h => ?_
  match hplace : first[Poller.collectorNode position]? with
  | some (.collector meter behind) =>
    obtain ⟨-, ⟨-, rfl⟩ | ⟨_, -, rfl⟩⟩ := ends_wrap hplace hends
    · exact h.set hplace rfl
    · exact h
  | none | some .silent | some (.outlet _) | some (.fan _) | some (.savingFan ..)
  | some (.shard ..) | some (.guard ..) =>
    rw [wrap, Flow.ends_get_bind, hplace] at hends
    obtain ⟨-, -, rfl⟩ := Flow.ends_pure.mp hends
    exact h

end Seated

namespace Chain

/-- Whether a chain is intact depends on the routes only. -/
theorem of_routes (h : Chain ids context intact first) (hroutes : last.routes = first.routes) :
    Chain ids context intact last where
  toSeated := h.toSeated.of_routes hroutes
  intact_le := h.intact_le
  linked position hposition := by
    obtain ⟨meter, hmeter, rfl⟩ := h.linked position hposition
    obtain ⟨listener, hlistener, hroute⟩ := exists_of_routes hroutes.symm hmeter
    cases listener with
    | collector kept next =>
      obtain ⟨hkept, rfl⟩ := Listener.collector.inj hroute
      exact ⟨kept, hlistener, (Collector.mk.inj hkept).2.1⟩
    | _ => cases hroute
  adrift := h.adrift.of_routes hroutes

/-- As far as the chain is intact, it leads to the poller's own listener. -/
theorem leads_of_le (h : Chain ids context intact network) {reached : Nat}
    (hreached : reached ≤ intact) :
    ∃ collectors : List (Nat × Collector),
      Collector.roll collectors = ((ids.take reached).mapIdx fun position id =>
        (Poller.collectorNode position, id)).reverse ∧
      (∀ entry ∈ collectors, entry.2.context = context) ∧
      network.Leads 0 Poller.ownListener reached (Line.ofCollectors collectors) := by
  induction reached with
  | zero => exact ⟨[], rfl, nofun, .outlet h.exit⟩
  | succ reached ih =>
    obtain ⟨collectors, hroll, hcontext, hleads⟩ := ih (Nat.le_of_succ_le hreached)
    have hlength : reached < ids.length := Nat.lt_of_lt_of_le hreached h.intact_le
    obtain ⟨meter, hmeter, hstarted⟩ := h.linked reached hreached
    obtain ⟨_, _, hseat, hid⟩ := h.seats reached _ (List.getElem?_eq_getElem hlength)
    obtain ⟨rfl, -⟩ := Listener.collector.inj (Option.some.inj (hmeter.symm.trans hseat))
    have hlink : network[Poller.collectorNode reached]? =
        some ((Link.collector meter).listener reached) := hmeter
    refine ⟨(Poller.collectorNode reached, meter) :: collectors, ?_,
      List.forall_mem_cons.mpr ⟨hstarted, hcontext⟩, .link hlink hleads⟩
    rw [← List.take_append_getElem hlength, List.mapIdx_concat, List.reverse_append, ← hroll, ← hid,
      List.length_take_of_le (Nat.le_of_lt hlength)]
    rfl

/-- If a collector is started again in front of what does not lead back, the chain is intact up to
this collector only. -/
theorem set (h : Chain ids context intact network) {next : Nat} {other : Collector}
    (hplace : network[Poller.collectorNode position]? = some (.collector meter behind))
    (hother : other.id = meter.id) (hnext : intact < next) :
    Chain ids context (min intact position)
      (network.set (Poller.collectorNode position) (.collector other (some next))) where
  toSeated := h.toSeated.set hplace hother
  intact_le := Nat.le_trans (Nat.min_le_left ..) h.intact_le
  linked earlier hearlier := by
    have hne : Poller.collectorNode position ≠ Poller.collectorNode earlier := by
      simp only [Poller.collectorNode]
      omega
    rw [List.getElem?_set_ne hne]
    exact h.linked earlier (by omega)
  adrift place listener hbeyond hlistener := by
    by_cases hsame : place = Poller.collectorNode position
    · subst hsame
      rw [List.getElem?_set_self (List.getElem?_eq_some_iff.mp hplace).1] at hlistener
      obtain rfl := Option.some.inj hlistener
      exact Nat.lt_of_le_of_lt (Nat.min_le_left ..) hnext
    rw [List.getElem?_set_ne (Ne.symm hsame)] at hlistener
    by_cases hadrift : intact < place
    · exact (h.adrift place listener hadrift hlistener).mono (Nat.min_le_left ..)
    -- A collector that stands further out than the one that was started passes events on to one
    -- that does so too, or to the one itself.
    obtain ⟨earlier, rfl⟩ : ∃ earlier, place = Poller.collectorNode earlier :=
      Nat.exists_eq_add_one.mpr (Nat.zero_lt_of_lt hbeyond)
    simp only [Poller.collectorNode] at hsame hadrift hbeyond
    obtain ⟨meter, hmeter, -⟩ := h.linked earlier (by omega)
    obtain rfl := Option.some.inj (hmeter.symm.trans hlistener)
    have hafter : position < earlier := by omega
    exact Nat.lt_of_le_of_lt (Nat.min_le_right ..) hafter

/-- A chain does not change if a silent listener is filed behind it. -/
theorem append_silent (h : Chain ids context intact network) :
    Chain ids context intact (network ++ [.silent]) where
  toSeated := h.toSeated.append_silent
  intact_le := h.intact_le
  linked position hposition := by
    obtain ⟨meter, hmeter, hstarted⟩ := h.linked position hposition
    have hplace := (List.getElem?_eq_some_iff.mp hmeter).1
    exact ⟨meter, (List.getElem?_append_left hplace).trans hmeter, hstarted⟩
  adrift place listener hplace hlistener := by
    rcases getElem?_append_silent hlistener with hlistener | rfl
    · exact h.adrift place listener hplace hlistener
    · trivial

end Chain

end Network

namespace Poller

open Network

variable {α : Type} {ids : List Nat} {context : Option Context}
  {count guard target intact mid left : Nat}
  {trace before after : List (Session.Exchange (World E))}

/-- A unit on stage that has no guard leaves the listeners at their places. -/
theorem keeps_seated_play {listener : Nat} {performance : Performance E (Except Thrown α)} :
    (play listener performance).Keeps (Seated ids) :=
  obeys_play (fun _ _ => Seated.keeps_send) (fun _ _ _ => Seated.keeps_wrap) (fun _ => trivial)
    listener performance

/-- In a conversation the chain has come to be intact as far as `left`: as far as before if no
collector was started, and else not up to its end. If the unit reports to where nothing leads back,
nothing is sent. -/
structure Frays (count target intact left : Nat) (trace : List (Session.Exchange (World E))) :
    Prop where
  le : left ≤ intact
  kept : Session.started trace = [] → left = intact
  broken : Session.started trace ≠ [] → left < count
  unsent : intact < target → Session.sent trace = []

namespace Frays

/-- Where no collector is started, the chain does not fray. -/
theorem refl (hstarted : Session.started trace = [])
    (hunsent : intact < target → Session.sent trace = []) :
    Frays count target intact intact trace :=
  ⟨Nat.le_refl _, fun _ => rfl, fun hnot => absurd hstarted hnot, hunsent⟩

/-- What frays in one conversation and then in another frays in both together. -/
theorem append (h : Frays count target intact mid before)
    (hafter : Frays count target mid left after) :
    Frays count target intact left (before ++ after) where
  le := Nat.le_trans hafter.le h.le
  kept hstarted := by
    rw [Session.started_append, List.append_eq_nil_iff] at hstarted
    exact (hafter.kept hstarted.2).trans (h.kept hstarted.1)
  broken hstarted := by
    by_cases hlater : Session.started after = []
    · rw [Session.started_append, hlater, List.append_nil] at hstarted
      exact Nat.lt_of_le_of_lt hafter.le (h.broken hstarted)
    · exact hafter.broken hlater
  unsent htarget := by
    rw [Session.sent_append, h.unsent htarget,
      hafter.unsent (Nat.lt_of_le_of_lt h.le htarget), List.append_nil]

end Frays

/-- A unit is on stage behind its guard, and the listener in force is none of the intact chain. -/
structure Staging (ids : List Nat) (context : Option Context) (guard target intact : Nat)
    (stage : Stage) : Prop where
  chain : Chain ids context intact (stage.network.take guard)
  guarded : ∃ openRuns, stage.network[guard]? = some (.guard openRuns target)
  length : stage.network.length = guard + 1
  listener : intact < stage.listener

namespace Staging

variable {stage last : Stage}

private theorem of_routes (h : Staging ids context guard target intact stage)
    (hroutes : last.network.routes = stage.network.routes)
    (hlistener : last.listener = stage.listener) :
    Staging ids context guard target intact last where
  chain := h.chain.of_routes (by
    rw [routes, List.map_take, ← routes, hroutes, routes, ← List.map_take, ← routes])
  guarded := by
    obtain ⟨openRuns, hguard⟩ := h.guarded
    obtain ⟨kept, hkept, hroute⟩ := exists_of_routes hroutes.symm hguard
    cases kept with
    | guard openRuns next =>
      obtain ⟨-, rfl⟩ := Listener.guard.inj hroute
      exact ⟨openRuns, hkept⟩
    | _ => cases hroute
  length := by
    have hlength := congrArg List.length hroutes
    simp only [routes, List.length_map] at hlength
    exact hlength.trans h.length
  listener := hlistener ▸ h.listener

/-- If the guard does not lead back either, nothing does. -/
theorem adrift (h : Staging ids context guard target intact stage) (htarget : intact < target) :
    stage.network.Adrift intact := by
  intro place listener hplace hlistener
  obtain ⟨openRuns, hguard⟩ := h.guarded
  have hlt : place < stage.network.length := (List.getElem?_eq_some_iff.mp hlistener).1
  rw [h.length] at hlt
  rcases Nat.lt_succ_iff_lt_or_eq.mp hlt with hlower | rfl
  · exact h.chain.adrift place listener hplace ((List.getElem?_take_of_lt hlower).trans hlistener)
  · obtain rfl := Option.some.inj (hguard.symm.trans hlistener)
    exact htarget

/-- When the guard is gone, the chain is as intact as before. -/
theorem chain_set (h : Staging ids context guard target intact stage) :
    Chain ids context intact (stage.network.set guard .silent) := by
  have hlt : guard < stage.network.length := h.length ▸ Nat.lt_succ_self guard
  rw [List.set_eq_take_append_cons_drop, if_pos hlt, ← h.length, List.drop_length]
  exact h.chain.append_silent

/-- An event that is told leaves the chain as it is, and is not sent if nothing leads back. -/
theorem frays_send (h : Staging ids context guard target intact stage) {event : Event}
    {result : Except Thrown Unit}
    (hact : (answerStage (.send event)).Ends stage trace result last) :
    Staging ids context guard target intact last ∧ Frays count target intact intact trace := by
  rw [answerStage, Flow.ends_get_bind] at hact
  obtain ⟨network, hsend, rfl⟩ := Flow.ends_within.mp hact
  refine ⟨h.of_routes ((keeps_routes_send hsend).moved rfl) rfl, .refl ?_ fun htarget => ?_⟩
  · exact Session.started_eq_nil (delivery_unstarting.sends _ _ hsend).asked
  · exact Session.sent_of_deeds_nil (unsent_of_send (h.adrift htarget) h.listener hsend)

/-- A collector that is put in front of the listener in force is taken out of the chain, unless it
throws. -/
theorem frays_wrap (h : Staging ids context guard target intact stage) {position : Nat}
    {asked : Option Context} {result : Except Thrown Unit}
    (hact : (answerStage (.wrap position asked)).Ends stage trace result last) :
    ∃ left, Staging ids context guard target left last ∧
      Frays ids.length target intact left trace := by
  rcases ends_answerStage_wrap hact with
    ⟨rfl, -, rfl⟩ | ⟨meter, behind, hplace, rfl, ⟨rfl, hnetwork, hlistener⟩ | ⟨thrown, rfl, rfl⟩⟩
  · exact ⟨intact, h, .refl rfl fun _ => rfl⟩
  · obtain ⟨openRuns, hguard⟩ := h.guarded
    have hne : collectorNode position ≠ guard := by
      intro hsame
      rw [hsame, hguard] at hplace
      cases hplace
    have hlt : collectorNode position < guard := by
      have hlength := (List.getElem?_eq_some_iff.mp hplace).1
      rw [h.length] at hlength
      omega
    have htaken : (stage.network.take guard)[collectorNode position]? =
        some (.collector meter behind) := (List.getElem?_take_of_lt hlt).trans hplace
    have hposition := h.chain.lt_of_collector htaken
    have hset : Chain ids context (min intact position) ((stage.network.take guard).set
        (collectorNode position) (.collector { meter with context := asked } stage.listener)) :=
      h.chain.set htaken rfl h.listener
    refine ⟨min intact position, ⟨?_, ⟨openRuns, ?_⟩, ?_, ?_⟩, ?_, fun hnot => ?_, fun _ => ?_,
      fun _ => rfl⟩
    · rwa [hnetwork, List.take_set]
    · rw [hnetwork, List.getElem?_set_ne hne, hguard]
    · rw [hnetwork, List.length_set, h.length]
    · rw [hlistener]
      exact Nat.lt_succ_of_le (Nat.min_le_right ..)
    · exact Nat.min_le_left ..
    · cases hnot
    · exact Nat.lt_of_le_of_lt (Nat.min_le_right ..) hposition
  · exact ⟨intact, h, .refl rfl fun _ => rfl⟩

/-- Whatever a unit does on stage frays the chain as far as the unit starts collectors. -/
theorem frays_perform {performance : Performance E (Except Thrown α)}
    {result : Except Thrown α} (h : Staging ids context guard target intact stage)
    (hperform : (Flow.perform answerStage performance).Ends stage trace result last) :
    ∃ left, Staging ids context guard target left last ∧
      Frays ids.length target intact left trace := by
  induction performance generalizing stage trace intact with
  | done ended =>
    obtain ⟨rfl, hdone⟩ := Session.path_pure.mp hperform
    obtain ⟨rfl, rfl⟩ := Prod.mk.inj hdone
    exact ⟨intact, h, .refl rfl fun _ => rfl⟩
  | ask question next ih =>
    obtain ⟨⟨answer, mid⟩, before, after, rfl, hasked, hrest⟩ := Session.path_seq.mp hperform
    obtain ⟨between, hmid, hbefore⟩ : ∃ between, Staging ids context guard target between mid ∧
        Frays ids.length target intact between before := by
      match question with
      | .inl (.send event) => exact ⟨intact, h.frays_send hasked⟩
      | .inl (.wrap position asked) => exact h.frays_wrap hasked
      | .inr errand =>
        obtain ⟨_, _, rfl, hdone⟩ := Session.path_ask.mp hasked
        obtain ⟨rfl, hanswer⟩ := Session.path_done.mp hdone
        obtain ⟨rfl, rfl⟩ := Prod.mk.inj hanswer
        exact ⟨intact, h, .refl rfl fun _ => rfl⟩
    obtain ⟨left, hlast, hafter⟩ := ih answer hmid hrest
    exact ⟨left, hlast, hbefore.append hafter⟩

end Staging

variable {network last first : Network} {conduct : Conduct E} {resources : Resources}
  {unit : TestUnit} {result : Except Thrown Outcome}

private theorem frays_performRun (h : Staging ids context guard target intact ⟨network, guard⟩)
    (hrun : (performRun conduct resources guard unit).Ends network trace result last) :
    ∃ left, Staging ids context guard target left ⟨last, guard⟩ ∧
      Frays ids.length target intact left trace := by
  obtain ⟨ended, -, ⟨-, rfl, thrown, -, rfl⟩ | ⟨rest, rfl, hplay⟩⟩ := ends_performRun hrun
  · exact ⟨intact, h, .refl rfl fun _ => rfl⟩
  · obtain ⟨⟨ended, stage⟩, played, _, rfl, hperform, hdone⟩ := Session.path_seq.mp hplay
    obtain ⟨rfl, hended⟩ := Session.path_pure.mp hdone
    obtain ⟨rfl, rfl⟩ := Prod.mk.inj hended
    rw [List.append_nil]
    obtain ⟨left, hstage, hfrays⟩ := h.frays_perform hperform
    have hhanded : Frays ids.length target intact intact
        (if unit.capabilities.collectors then handover (E := E) resources unit (.ok ())
          else []) := by
      refine .refl ?_ fun _ => ?_ <;> split <;> rfl
    exact ⟨left, ⟨hstage.chain, hstage.guarded, hstage.length,
      Nat.lt_of_le_of_lt hfrays.le h.listener⟩, hhanded.append hfrays⟩

private theorem frays_closeOpenRuns {serial : String} {error : TaskError}
    {closed : Except Thrown Unit}
    (h : Staging ids context guard target intact ⟨network, guard⟩)
    (hclose : (closeOpenRuns guard unit serial error).Ends network trace closed last) :
    Staging ids context guard target intact ⟨last, guard⟩ ∧
      Frays count target intact intact trace := by
  obtain ⟨openRuns, hguard⟩ := h.guarded
  rw [closeOpenRuns, Flow.ends_get_bind, hguard] at hclose
  have hsends : ∀ {trace closed last},
      ((closingEvents error.message openRuns).forM (send (E := E) target)).Ends network trace closed
        last → Staging ids context guard target intact ⟨last, guard⟩ ∧
          Frays count target intact intact trace := by
    intro trace closed last hforM
    have hroutes := (Flow.Obeys.forM (fun _ => keeps_routes_send) hforM).moved rfl
    have hasked := (Flow.Obeys.forM (fun _ => delivery_unstarting.sends _ _) hforM).asked
    exact ⟨h.of_routes hroutes rfl, .refl (Session.started_eq_nil hasked) fun htarget =>
      Session.sent_of_deeds_nil (unsent_of_forM_send (h.adrift htarget) htarget hforM)⟩
  rcases Flow.ends_bind.mp hclose with
    ⟨thrown, hthrown, -⟩ | ⟨⟨⟩, before, after, mid, rfl, hforM, hlog⟩
  · exact hsends hthrown
  · obtain ⟨hmid, hbefore⟩ := hsends hforM
    have hlogged : last = mid ∧ Frays (E := E) count target intact intact after := by
      split at hlog
      · obtain ⟨_, hlogged, -, hlast⟩ := Flow.ends_work.mp hlog
        obtain rfl := Flow.path_request.mp hlogged
        exact ⟨hlast, .refl rfl fun _ => rfl⟩
      · obtain ⟨rfl, -, hlast⟩ := Flow.ends_pure.mp hlog
        exact ⟨hlast, .refl rfl fun _ => rfl⟩
    obtain ⟨rfl, hafter⟩ := hlogged
    exact ⟨hmid, hbefore.append hafter⟩

/-- The execution of a unit frays the chain as far as the unit starts collectors. -/
theorem frays_execute {entry : Nat} (h : Chain ids context intact first)
    (hexecute : (execute conduct resources entry unit).Ends first trace result last) :
    ∃ left, Chain ids context left last ∧
      Frays ids.length (Poller.target unit entry) intact left trace := by
  rw [execute, Flow.ends_get_bind, Flow.ends_modify_bind] at hexecute
  obtain ⟨attempted, before, after, mid, rfl, hattempt, hrest⟩ := Flow.ends_attempt_bind.mp hexecute
  rw [Flow.ends_modify_bind] at hrest
  obtain ⟨rfl, rfl, rfl⟩ := Flow.ends_resume.mp hrest
  rw [List.append_nil]
  have hstaging : Staging ids context first.length (Poller.target unit entry) intact
      ⟨first ++ [.guard 0 (Poller.target unit entry)], first.length⟩ :=
    ⟨by simpa using h, ⟨0, List.getElem?_concat_length⟩, by simp,
      Nat.lt_of_le_of_lt h.intact_le h.length⟩
  rcases Flow.ends_bind.mp hattempt with
    ⟨thrown, hthrown, -⟩ | ⟨outcome, performed, later, between, rfl, hperformed, hclosed⟩
  · obtain ⟨left, hmid, hfrays⟩ := frays_performRun hstaging hthrown
    exact ⟨left, hmid.chain_set, hfrays⟩
  · obtain ⟨left, hbetween, hfrays⟩ := frays_performRun hstaging hperformed
    cases outcome with
    | ok _ =>
      obtain ⟨rfl, -, rfl⟩ := Flow.ends_pure.mp hclosed
      rw [List.append_nil]
      exact ⟨left, hbetween.chain_set, hfrays⟩
    | error error =>
      rcases Flow.ends_bind.mp hclosed with
        ⟨thrown, hthrown, -⟩ | ⟨⟨⟩, closing, rest, _, rfl, hclosing, hdone⟩
      · obtain ⟨hmid, hclosing⟩ := frays_closeOpenRuns hbetween hthrown
        exact ⟨left, hmid.chain_set, hfrays.append hclosing⟩
      · obtain ⟨rfl, -, rfl⟩ := Flow.ends_pure.mp hdone
        obtain ⟨hmid, hclosing⟩ := frays_closeOpenRuns hbetween hclosing
        rw [List.append_nil]
        exact ⟨left, hmid.chain_set, hfrays.append hclosing⟩

end Poller

end Fleet
