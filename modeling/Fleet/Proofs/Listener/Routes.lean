import Fleet.Proofs.Asking
import Fleet.Proofs.Listener.Collectors

/-!
# Routes

Events change what listeners remember, but not where they pass events. So where listeners have no
way back to an outlet, none opens up, and what is sent to them reaches no one.
-/

namespace Fleet

variable {E : Interface}

namespace Listener

/-- A listener but for what it remembers: who it is, and where it passes events. -/
def route : Listener → Listener
  | collector meter next => collector { meter with runMetrics := .empty } next
  | shard _ next => shard {} next
  | guard _ next => guard 0 next
  | outlet id => outlet id
  | silent => silent
  | fan children => fan children
  | savingFan saver children => savingFan saver children

/-- The listener passes no event on, or only to a place beyond the limit. -/
def PassesBeyond (limit : Nat) : Listener → Prop
  | silent | collector _ none => True
  | collector _ (some next) | guard _ next => limit < next
  | outlet _ | fan _ | savingFan .. | shard .. => False

variable {limit lower : Nat} {listener : Listener}

private theorem passesBeyond_route :
    listener.route.PassesBeyond limit ↔ listener.PassesBeyond limit := by
  cases listener with
  | collector meter next => cases next <;> rfl
  | _ => rfl

/-- To pass beyond a limit is to pass beyond a lower one. -/
theorem PassesBeyond.mono (h : listener.PassesBeyond limit) (hle : lower ≤ limit) :
    listener.PassesBeyond lower := by
  cases listener with
  | silent => trivial
  | collector meter next =>
    cases next with
    | none => trivial
    | some next => exact Nat.lt_of_le_of_lt hle h
  | guard openRuns next => exact Nat.lt_of_le_of_lt hle h
  | _ => cases h

end Listener

/-- A link that takes an event passes the next one to the same place. -/
theorem Link.route_of_receive {link kept : Link} {event passed : Event}
    {hooks : List (Session.Exchange (World E))} {next : Nat}
    (h : (link.receive event).Path hooks (passed, kept)) :
    (kept.listener next).route = (link.listener next).route := by
  cases link with
  | collector meter =>
    obtain ⟨kept, rfl, hreceive⟩ := path_receive_collector h
    obtain ⟨-, rfl⟩ := Collector.meters_of_receive hreceive
    rfl
  | guard openRuns =>
    obtain ⟨-, hsame⟩ := Session.path_pure.mp h
    obtain rfl := congrArg Prod.snd hsame
    rfl

namespace Network

variable {network first last : Network} {place target limit reach : Nat} {event : Event}
  {trace : List (Session.Exchange (World E))} {result : Except Thrown Unit}

/-- Where the listeners of a network pass events. -/
def routes (network : Network) : Network :=
  network.map Listener.route

private theorem routes_set {old listener : Listener} (hold : network[place]? = some old)
    (hroute : listener.route = old.route) :
    routes (network.set place listener) = network.routes := by
  refine List.ext_getElem? fun other => ?_
  simp only [routes, List.getElem?_map]
  rcases eq_or_ne place other with rfl | hne
  · rw [List.getElem?_set_self (List.getElem?_eq_some_iff.mp hold).1, hold, Option.map_some,
      Option.map_some, hroute]
  · rw [List.getElem?_set_ne hne]

/-- To deliver an event leaves all routes as they are. -/
theorem keeps_routes_deliver (routes : Network) (reach target : Nat) (event : Event) :
    (deliver (E := E) reach target event).Keeps (Network.routes · = routes) := by
  induction reach generalizing target event with
  | zero => exact .pure _
  | succ reach ih =>
    refine Flow.keeps_iff.mpr fun first trace result last h hfirst => ?_
    have hlink : ∀ (link : Link) (next : Nat), first[target]? = some (link.listener next) →
        last.routes = routes := by
      intro link next htarget
      obtain ⟨taken, kept, before, after, -, hreceive, hdeliver⟩ := ends_deliver_link htarget h
      have hset := routes_set htarget (Link.route_of_receive hreceive)
      exact (ih next taken hdeliver).moved (hset.trans hfirst)
    have hfan : ∀ (children : List Nat) (event : Event),
        Flow.Keeps (Network.routes · = routes)
          (children.forM (deliver (E := E) reach · event)) :=
      fun children event => .forM fun child => ih child event
    match htarget : first[target]? with
    | some (.guard openRuns next) => exact hlink (.guard openRuns) next htarget
    | some (.collector meter (some next)) => exact hlink (.collector meter) next htarget
    | none | some .silent | some (.collector _ none) =>
      rw [deliver, Flow.ends_get_bind, htarget] at h
      obtain ⟨-, -, rfl⟩ := Flow.ends_pure.mp h
      exact hfirst
    | some (.outlet id) =>
      rw [deliver, Flow.ends_get_bind, htarget] at h
      obtain ⟨-, rfl⟩ := Flow.ends_send h
      exact hfirst
    | some (.fan children) =>
      rw [deliver, Flow.ends_get_bind, htarget] at h
      exact (hfan children event h).moved hfirst
    | some (.savingFan saver children) =>
      rw [deliver, Flow.ends_get_bind, htarget] at h
      refine (Flow.Obeys.bind (hfan children event) (fun _ => ?_) h).moved hfirst
      split
      · refine .bind (.work (.trivial _)) fun saved => ?_
        cases saved with
        | error error => exact .work (.trivial _)
        | ok file => exact hfan children _
      · exact .pure _
    | some (.shard buffer next) =>
      rw [deliver, Flow.ends_get_bind, htarget, Flow.ends_modify_bind] at h
      have hflushed : Flow.Keeps (Network.routes · = routes)
          ((buffer.receive event).1.forM (deliver (E := E) reach next)) :=
        .forM fun event => ih next event
      exact (hflushed h).moved (Eq.trans (routes_set htarget (by rfl)) hfirst)

/-- To send an event leaves all routes as they are. -/
theorem keeps_routes_send {routes : Network} :
    (send (E := E) target event).Keeps (Network.routes · = routes) :=
  .bind .get fun _ => keeps_routes_deliver _ _ _ _

/-- From places beyond the limit there is no way to an outlet, nor back to a place up to it. -/
def Adrift (limit : Nat) (network : Network) : Prop :=
  ∀ place listener, limit < place → network[place]? = some listener →
    listener.PassesBeyond limit

/-- Networks of the same routes have listeners of the same route at each place. -/
theorem exists_of_routes {listener : Listener} (hroutes : last.routes = first.routes)
    (h : last[place]? = some listener) :
    ∃ old, first[place]? = some old ∧ old.route = listener.route := by
  have hsame := congrArg (·[place]?) hroutes
  simp only [routes, List.getElem?_map, h, Option.map_some] at hsame
  exact Option.map_eq_some_iff.mp hsame.symm

/-- Whether places are adrift is a matter of the routes. -/
theorem Adrift.of_routes (h : first.Adrift limit) (hroutes : last.routes = first.routes) :
    last.Adrift limit := by
  intro place listener hplace hlistener
  obtain ⟨old, hold, hroute⟩ := exists_of_routes hroutes hlistener
  rw [← Listener.passesBeyond_route, ← hroute, Listener.passesBeyond_route]
  exact h place old hplace hold

/-- What is delivered beyond the limit reaches no one. -/
theorem unsent_of_deliver (hadrift : first.Adrift limit) (htarget : limit < target)
    (h : (deliver reach target event).Ends first trace result last) :
    Session.deeds trace = [] := by
  induction reach generalizing target event first trace with
  | zero =>
    obtain ⟨rfl, -⟩ := Flow.ends_pure.mp h
    rfl
  | succ reach ih =>
    have hlink : ∀ (link : Link) (next : Nat), limit < next →
        first[target]? = some (link.listener next) → Session.deeds trace = [] := by
      intro link next hnext hlistener
      obtain ⟨taken, kept, before, after, rfl, hreceive, hdeliver⟩ := ends_deliver_link hlistener h
      have hset := hadrift.of_routes (routes_set hlistener (Link.route_of_receive hreceive))
      rw [Session.deeds_append, (Link.path_receive hreceive).2, ih hset hnext hdeliver,
        List.append_nil]
    have hbeyond := hadrift target
    match hlistener : first[target]? with
    | some (.guard openRuns next) =>
      exact hlink (.guard openRuns) next (hbeyond _ htarget hlistener) hlistener
    | some (.collector meter (some next)) =>
      exact hlink (.collector meter) next (hbeyond _ htarget hlistener) hlistener
    | none | some .silent | some (.collector _ none) =>
      rw [deliver, Flow.ends_get_bind, hlistener] at h
      obtain ⟨rfl, -⟩ := Flow.ends_pure.mp h
      rfl
    | some (.outlet _) | some (.fan _) | some (.savingFan ..) | some (.shard ..) =>
      exact (hbeyond _ htarget hlistener).elim

/-- What is sent beyond the limit reaches no one. -/
theorem unsent_of_send (hadrift : first.Adrift limit) (htarget : limit < target)
    (h : (send target event).Ends first trace result last) : Session.deeds trace = [] :=
  unsent_of_deliver hadrift htarget (Flow.ends_get_bind.mp h)

/-- Neither do several events. -/
theorem unsent_of_forM_send {events : List Event} (hadrift : first.Adrift limit)
    (htarget : limit < target) (h : (events.forM (send target)).Ends first trace result last) :
    Session.deeds trace = [] := by
  induction events generalizing first trace with
  | nil =>
    obtain ⟨rfl, -⟩ := Flow.ends_pure.mp h
    rfl
  | cons event events ih =>
    rw [List.forM] at h
    rcases Flow.ends_bind.mp h with
      ⟨thrown, hthrown, -⟩ | ⟨⟨⟩, before, after, mid, rfl, hsend, hrest⟩
    · exact unsent_of_send hadrift htarget hthrown
    · rw [Session.deeds_append, unsent_of_send hadrift htarget hsend,
        ih (hadrift.of_routes ((keeps_routes_send hsend).moved rfl)) hrest, List.append_nil]

end Network

end Fleet
