import Fleet.Listener.Network
import Fleet.Proofs.Module.Deeds
import Mathlib.Data.List.Perm.Subperm

/-!
# Lines of listeners

Between a reporting unit and an outlet stand listeners that pass every event on to one other:
collectors and guards. A line of them has no circle, so an event that is sent to its head reaches
the outlet, once, after each listener of the line has taken it. Nothing of an event changes on the
way but the metrics of an ending run or test.
-/

namespace Fleet

variable {E : Interface}

/-- An event without its metrics. -/
def Event.bare : Event → Event
  | .testEnded test _ => .testEnded test .empty
  | .runEnded elapsedMs _ => .runEnded elapsedMs .empty
  | event => event

/-- Metrics open and close no run. -/
theorem openRunsAfter_congr {event passed : Event} (h : passed.bare = event.bare) (openRuns : Nat) :
    openRunsAfter openRuns passed = openRunsAfter openRuns event := by
  cases event <;> cases passed <;> first | rfl | cases h

/-- A collector changes nothing but metrics, and asks nothing that counts. -/
theorem Collector.path_receive {collector kept : Collector} {event passed : Event}
    {hooks : List (Session.Exchange (World E))}
    (h : (collector.receive event).Path hooks (passed, kept)) :
    passed.bare = event.bare ∧ Session.deeds hooks = [] := by
  cases event with
  | runStarted | testStarted | testEnded | runEnded =>
    obtain ⟨answer, before, after, rfl, hasked, hdone⟩ := Session.path_seq.mp h
    obtain rfl := Flow.path_request.mp hasked
    obtain ⟨rfl, hsame⟩ := Session.path_pure.mp hdone
    obtain rfl := congrArg Prod.fst hsame
    exact ⟨rfl, rfl⟩
  | _ =>
    obtain ⟨rfl, hdone⟩ := Session.path_pure.mp h
    obtain rfl := congrArg Prod.fst hdone
    exact ⟨rfl, rfl⟩

/-- A listener that passes every event on to one other. -/
inductive Link where
  | collector (collector : Collector)
  | guard (openRuns : Nat)

namespace Link

/-- The link as a listener in front of another one. -/
def listener (next : Nat) : Link → Listener
  | .collector meter => .collector meter (some next)
  | .guard openRuns => .guard openRuns next

/-- Take one event: the event to pass on, and the link after it. -/
def receive (link : Link) (event : Event) : Work E (Event × Link) :=
  match link with
  | .collector meter => do
    let (event, meter) ← meter.receive event
    return (event, .collector meter)
  | .guard openRuns => return (event, .guard (openRunsAfter openRuns event))

/-- A link changes no more than the metrics of an event, and its hooks show to no one. -/
theorem path_receive {link kept : Link} {event passed : Event}
    {hooks : List (Session.Exchange (World E))}
    (h : (link.receive event).Path hooks (passed, kept)) :
    passed.bare = event.bare ∧ Session.deeds hooks = [] := by
  cases link with
  | collector meter =>
    obtain ⟨⟨taken, kept⟩, before, after, rfl, hreceive, hdone⟩ := Session.path_seq.mp h
    obtain ⟨rfl, hsame⟩ := Session.path_pure.mp hdone
    obtain rfl := congrArg Prod.fst hsame
    rw [List.append_nil]
    exact Collector.path_receive hreceive
  | guard openRuns =>
    obtain ⟨rfl, hdone⟩ := Session.path_pure.mp h
    obtain rfl := congrArg Prod.fst hdone
    exact ⟨rfl, rfl⟩

private theorem listener_inj {link other : Link} {next successor : Nat}
    (h : link.listener next = other.listener successor) : link = other ∧ next = successor := by
  cases link <;> cases other <;> simp_all [listener]

/-- A link is no outlet. -/
theorem listener_ne_outlet {link : Link} {next outlet : Nat} :
    link.listener next ≠ .outlet outlet := by
  cases link <;> simp [listener]

end Link

/-- Links one behind the other, each with its place in a network. -/
abbrev Line := List (Nat × Link)

namespace Line

/-- Where the links of a line stand. -/
def places (line : Line) : List Nat :=
  line.map Prod.fst

/-- Where the collectors of a line stand. -/
def collectorPlaces (line : Line) : List Nat :=
  line.filterMap fun
    | (place, .collector _) => some place
    | (_, .guard _) => none

/-- Pass an event down a line: what leaves it, and the line after it. -/
def pass : Line → Event → Work E (Event × Line)
  | [], event => return (event, [])
  | (place, link) :: rest, event => do
    let (event, link) ← link.receive event
    let (event, rest) ← pass rest event
    return (event, (place, link) :: rest)

variable {line front back after : Line} {place : Nat} {link : Link} {event passed : Event}
  {hooks : List (Session.Exchange (World E))}

@[simp] theorem places_cons : places ((place, link) :: line) = place :: places line :=
  rfl

/-- An event passes the first link, and then the others. -/
theorem path_pass_cons :
    (pass ((place, link) :: line) event).Path hooks (passed, after) ↔
      ∃ taken kept rest before later, hooks = before ++ later ∧
        (link.receive event).Path before (taken, kept) ∧
        (pass line taken).Path later (passed, rest) ∧ after = (place, kept) :: rest := by
  rw [pass, Session.path_seq]
  constructor
  · rintro ⟨⟨taken, kept⟩, before, later, rfl, hreceive, hrest⟩
    obtain ⟨⟨left, rest⟩, later, _, rfl, hpass, hdone⟩ := Session.path_seq.mp hrest
    obtain ⟨rfl, hleft⟩ := Session.path_pure.mp hdone
    obtain ⟨rfl, rfl⟩ := Prod.mk.inj hleft
    exact ⟨taken, kept, rest, before, later, by rw [List.append_nil], hreceive, hpass, rfl⟩
  · rintro ⟨taken, kept, rest, before, later, rfl, hreceive, hpass, rfl⟩
    refine ⟨(taken, kept), before, later, rfl, hreceive, Session.path_seq.mpr ?_⟩
    exact ⟨(passed, rest), later, [], by rw [List.append_nil], hpass,
      Session.path_pure.mpr ⟨rfl, rfl⟩⟩

/-- The links keep their places. -/
theorem places_of_pass (h : (pass line event).Path hooks (passed, after)) :
    after.places = line.places := by
  induction line generalizing event hooks after with
  | nil =>
    obtain ⟨-, hdone⟩ := Session.path_pure.mp h
    rw [(Prod.mk.inj hdone).2]
  | cons head line ih =>
    obtain ⟨place, link⟩ := head
    obtain ⟨taken, kept, rest, before, later, rfl, -, hpass, rfl⟩ := path_pass_cons.mp h
    rw [places_cons, places_cons, ih hpass]

/-- The collectors keep their places. -/
theorem collectorPlaces_of_pass (h : (pass line event).Path hooks (passed, after)) :
    after.collectorPlaces = line.collectorPlaces := by
  induction line generalizing event hooks after with
  | nil =>
    obtain ⟨-, hdone⟩ := Session.path_pure.mp h
    rw [(Prod.mk.inj hdone).2]
  | cons head line ih =>
    obtain ⟨place, link⟩ := head
    obtain ⟨taken, kept, rest, before, later, rfl, hreceive, hpass, rfl⟩ := path_pass_cons.mp h
    have hrest := ih hpass
    cases link with
    | collector meter =>
      obtain ⟨_, _, _, -, -, hdone⟩ := Session.path_seq.mp hreceive
      obtain ⟨-, hsame⟩ := Session.path_pure.mp hdone
      obtain rfl := congrArg Prod.snd hsame
      simpa [collectorPlaces] using hrest
    | guard openRuns =>
      obtain ⟨-, hsame⟩ := Session.path_pure.mp hreceive
      obtain rfl := congrArg Prod.snd hsame
      simpa [collectorPlaces] using hrest

/-- What leaves a line is what entered it, but for metrics, and nothing that counts is asked on the
way. -/
theorem bare_of_pass (h : (pass line event).Path hooks (passed, after)) :
    passed.bare = event.bare ∧ Session.deeds hooks = [] := by
  induction line generalizing event hooks after with
  | nil =>
    obtain ⟨rfl, hdone⟩ := Session.path_pure.mp h
    obtain rfl := congrArg Prod.fst hdone
    exact ⟨rfl, rfl⟩
  | cons head line ih =>
    obtain ⟨place, link⟩ := head
    obtain ⟨taken, kept, rest, before, later, rfl, hreceive, hpass, rfl⟩ := path_pass_cons.mp h
    obtain ⟨htaken, hbefore⟩ := Link.path_receive hreceive
    obtain ⟨hpassed, hlater⟩ := ih hpass
    exact ⟨hpassed.trans htaken, by rw [Session.deeds_append, hbefore, hlater, List.append_nil]⟩

/-- An event passes one part of a line, then what it has become passes the other. -/
theorem path_pass_append (h : (pass (front ++ back) event).Path hooks (passed, after)) :
    ∃ between before later front' back', hooks = before ++ later ∧
      (pass front event).Path before (between, front') ∧
      (pass back between).Path later (passed, back') ∧ after = front' ++ back' := by
  induction front generalizing event hooks after with
  | nil => exact ⟨event, [], hooks, [], after, rfl, Session.path_pure.mpr ⟨rfl, rfl⟩, h, rfl⟩
  | cons head front ih =>
    obtain ⟨place, link⟩ := head
    obtain ⟨taken, kept, rest, before, later, rfl, hreceive, hpass, rfl⟩ := path_pass_cons.mp h
    obtain ⟨between, earlier, later, front', back', rfl, hfront, hback, rfl⟩ := ih hpass
    exact ⟨between, before ++ earlier, later, (place, kept) :: front', back',
      (List.append_assoc ..).symm,
      path_pass_cons.mpr ⟨taken, kept, front', before, earlier, rfl, hreceive, hfront, rfl⟩,
      hback, rfl⟩

end Line

namespace Network

/-- The line leads from a place to the place of an outlet. -/
inductive Leads (network : Network) (outlet exit : Nat) : Nat → Line → Prop where
  | outlet (h : network[exit]? = some (.outlet outlet)) : Leads network outlet exit exit []
  | link {place next : Nat} {link : Link} {line : Line}
      (h : network[place]? = some (link.listener next))
      (rest : Leads network outlet exit next line) :
      Leads network outlet exit place ((place, link) :: line)

variable {network after first last : Network} {outlet exit place : Nat} {line front back : Line}

/-- Where a line leads to the outlet, there is only this one line. -/
theorem Leads.unique (h : Leads network outlet exit place line)
    (hback : Leads network outlet exit place back) : line = back := by
  induction h generalizing back with
  | outlet h =>
    cases hback with
    | outlet => rfl
    | link hlink =>
      rw [h] at hlink
      exact absurd (Option.some.inj hlink).symm Link.listener_ne_outlet
  | link h _ ih =>
    cases hback with
    | outlet houtlet =>
      rw [h] at houtlet
      exact absurd (Option.some.inj houtlet) Link.listener_ne_outlet
    | link hlink hrest =>
      rw [h] at hlink
      obtain ⟨rfl, rfl⟩ := Link.listener_inj (Option.some.inj hlink)
      rw [ih hrest]

/-- A line leads to the outlet from each of its places. -/
theorem Leads.suffix {spot : Nat} {link : Link}
    (h : Leads network outlet exit place (front ++ (spot, link) :: back)) :
    Leads network outlet exit spot ((spot, link) :: back) := by
  induction front generalizing place with
  | nil =>
    cases h with
    | link h rest => exact .link h rest
  | cons _ front ih =>
    cases h with
    | link _ rest => exact ih rest

/-- A line stands nowhere twice: it would never get past that place. -/
theorem Leads.nodup (h : Leads network outlet exit place line) : line.places.Nodup := by
  induction h with
  | outlet => exact List.nodup_nil
  | @link place next link line h rest ih =>
    refine List.nodup_cons.mpr ⟨?_, ih⟩
    intro hmem
    obtain ⟨⟨_, again⟩, hagain, rfl⟩ := List.mem_map.mp hmem
    obtain ⟨front, back, rfl⟩ := List.append_of_mem hagain
    have hsame := (Leads.link h rest).unique rest.suffix
    have hlength := congrArg List.length (List.cons.inj hsame).2
    simp at hlength
    omega

private theorem Leads.places_lt (h : Leads network outlet exit place line) :
    ∀ other ∈ line.places, other < network.length := by
  induction h with
  | outlet => exact nofun
  | link h _ ih => exact List.forall_mem_cons.mpr ⟨(List.getElem?_eq_some_iff.mp h).1, ih⟩

/-- A collector of the network that stands in a line is one of its collectors. -/
theorem Leads.mem_collectorPlaces {spot : Nat} {collector : Collector} {behind : Option Nat}
    (h : Leads network outlet exit place line)
    (hspot : network[spot]? = some (.collector collector behind)) (hmem : spot ∈ line.places) :
    spot ∈ line.collectorPlaces := by
  induction h with
  | outlet => cases hmem
  | @link place next link line h _ ih =>
    have hlater : spot ∈ line.places →
        spot ∈ Line.collectorPlaces ((place, link) :: line) := fun hlater =>
      (List.sublist_cons_self (place, link) line).filterMap _ |>.subset (ih hlater)
    rcases List.mem_cons.mp hmem with rfl | hmem
    · rw [h] at hspot
      cases link with
      | collector meter => exact List.mem_cons_self
      | guard openRuns => cases hspot
    · exact hlater hmem

/-- No line is longer than its network. -/
theorem Leads.length_le (h : Leads network outlet exit place line) :
    line.length ≤ network.length := by
  have hsubset : line.places ⊆ List.range network.length := fun other hother =>
    List.mem_range.mpr (h.places_lt other hother)
  simpa [Line.places] using (List.subperm_of_subset h.nodup hsubset).length_le

/-- A line begins where it is entered. -/
theorem Leads.place_eq (h : Leads network outlet exit place line) :
    place = line.places.headD exit := by
  cases h <;> rfl

/-- A line still leads to the outlet if neither its places nor the outlet has changed. -/
theorem Leads.frame (h : Leads network outlet exit place line)
    (hplaces : ∀ spot ∈ line.places, after[spot]? = network[spot]?)
    (hexit : network[exit]? = some (.outlet outlet) → after[exit]? = network[exit]?) :
    Leads after outlet exit place line := by
  induction h with
  | outlet h => exact .outlet ((hexit h).trans h)
  | link h _ ih =>
    obtain ⟨hplace, hrest⟩ := List.forall_mem_cons.mp hplaces
    exact .link (hplace.trans h) (ih hrest)

/-- More listeners at the end do not change where a way leads. -/
theorem Leads.append (h : Leads network outlet exit place line) (more : Network) :
    Leads (network ++ more) outlet exit place line := by
  refine h.frame (fun spot hspot => ?_) fun hexit => ?_
  · exact List.getElem?_append_left (h.places_lt spot hspot)
  · exact List.getElem?_append_left (List.getElem?_eq_some_iff.mp hexit).1

/-- A place that holds no outlet and is not on the line can be given to another listener. -/
theorem Leads.set {listener old : Listener} {spot : Nat} (h : Leads network outlet exit place line)
    (hspot : spot ∉ line.places) (hold : network[spot]? = some old) (hnot : old ≠ .outlet outlet) :
    Leads (network.set spot listener) outlet exit place line := by
  refine h.frame (fun other hother => ?_) fun hexit => ?_
  · refine List.getElem?_set_ne ?_
    rintro rfl
    exact hspot hother
  · refine List.getElem?_set_ne ?_
    rintro rfl
    rw [hold] at hexit
    exact hnot (Option.some.inj hexit)

/-- Nothing but what stands at these places has changed. -/
structure KeptBut (first : Network) (places : List Nat) (last : Network) : Prop where
  length : last.length = first.length
  kept : ∀ spot, spot ∉ places → last[spot]? = first[spot]?

/-- All is kept where nothing has changed. -/
theorem KeptBut.refl (network : Network) (places : List Nat) : network.KeptBut places network :=
  ⟨rfl, fun _ _ => rfl⟩

/-- What is kept twice is kept. -/
theorem KeptBut.trans {mid : Network} {places : List Nat} (h : first.KeptBut places mid)
    (hlast : mid.KeptBut places last) : first.KeptBut places last :=
  ⟨hlast.length.trans h.length, fun spot hspot => (hlast.kept spot hspot).trans (h.kept spot hspot)⟩

private theorem KeptBut.mono {places more : List Nat} (h : first.KeptBut places last)
    (hmore : places ⊆ more) : first.KeptBut more last :=
  ⟨h.length, fun spot hspot => h.kept spot fun hnot => hspot (hmore hnot)⟩

private theorem keptBut_set {spot : Nat} {listener : Listener} :
    network.KeptBut [spot] (network.set spot listener) :=
  ⟨List.length_set .., fun _ hother => List.getElem?_set_ne fun hsame =>
    hother (List.mem_singleton.mpr hsame.symm)⟩

variable {event : Event} {trace : List (Session.Exchange (World E))} {result : Except Thrown Unit}

/-- A link takes an event before the listener behind it does. -/
theorem ends_deliver_link {reach next : Nat} {link : Link}
    (hlink : first[place]? = some (link.listener next))
    (h : (deliver (reach + 1) place event).Ends first trace result last) :
    ∃ taken kept before after, trace = before ++ after ∧
      (link.receive event).Path before (taken, kept) ∧
      (deliver reach next taken).Ends (first.set place (kept.listener next)) after result last := by
  rw [deliver, Flow.ends_get_bind, hlink] at h
  cases link with
  | collector collector =>
    rw [Link.listener] at h
    rcases Flow.ends_bind.mp h with
      ⟨thrown, hthrown, -⟩ | ⟨⟨taken, kept⟩, before, after, mid, rfl, hreceive, hrest⟩
    · obtain ⟨_, -, hnot, -⟩ := Flow.ends_work.mp hthrown
      cases hnot
    · obtain ⟨_, hreceive, hsame, rfl⟩ := Flow.ends_work.mp hreceive
      obtain rfl := Except.ok.inj hsame
      refine ⟨taken, .collector kept, before, after, rfl, ?_, Flow.ends_modify_bind.mp hrest⟩
      exact Session.path_seq.mpr ⟨(taken, kept), before, [], by rw [List.append_nil], hreceive,
        Session.path_pure.mpr ⟨rfl, rfl⟩⟩
  | guard openRuns =>
    rw [Link.listener] at h
    exact ⟨event, .guard (openRunsAfter openRuns event), [], trace, rfl,
      Session.path_pure.mpr ⟨rfl, rfl⟩, Flow.ends_modify_bind.mp h⟩

/-- An event that is delivered to the head of a line passes the line and is sent to its outlet, and
what the outlet answers is what the delivery comes to. -/
theorem ends_deliver_of_leads {reach : Nat} (hleads : first.Leads outlet exit place line)
    (hreach : line.length < reach) (h : (deliver reach place event).Ends first trace result last) :
    ∃ hooks passed after, (line.pass event).Path hooks (passed, after) ∧
      trace = hooks ++ [⟨.inl (.send outlet passed), result⟩] ∧
      last.Leads outlet exit place after ∧ first.KeptBut line.places last := by
  induction line generalizing reach place first event trace with
  | nil =>
    obtain ⟨reach, rfl⟩ := Nat.exists_eq_add_one.mpr hreach
    cases hleads with
    | outlet houtlet =>
      rw [deliver, Flow.ends_get_bind, houtlet] at h
      have hsend : (Flow.send outlet event).Ends first trace result last := h
      obtain ⟨rfl, rfl⟩ := Flow.ends_send hsend
      exact ⟨[], event, [], Session.path_pure.mpr ⟨rfl, rfl⟩, rfl, .outlet houtlet, .refl ..⟩
  | cons head line ih =>
    obtain ⟨reach, rfl⟩ := Nat.exists_eq_add_one.mpr (Nat.zero_lt_of_lt hreach)
    have hnodup := hleads.nodup
    cases hleads with
    | @link place next link line hlink hrest =>
      obtain ⟨taken, kept, before, after, rfl, hreceive, hdeliver⟩ := ends_deliver_link hlink h
      have hplace : place ∉ Line.places line := (List.nodup_cons.mp hnodup).1
      have hnext : Leads (first.set place (kept.listener next)) outlet exit next line :=
        hrest.set hplace hlink Link.listener_ne_outlet
      obtain ⟨hooks, passed, rest, hpass, rfl, hled, hkept⟩ :=
        ih hnext (Nat.lt_of_succ_lt_succ hreach) hdeliver
      refine ⟨before ++ hooks, passed, (place, kept) :: rest, ?_, (List.append_assoc ..).symm,
        .link ?_ hled, ?_⟩
      · exact Line.path_pass_cons.mpr ⟨taken, kept, rest, before, hooks, rfl, hreceive, hpass, rfl⟩
      · rw [hkept.kept place hplace, List.getElem?_set_self (List.getElem?_eq_some_iff.mp hlink).1]
      · exact (keptBut_set.mono (by simp)).trans (hkept.mono (by simp))

/-- An event that is sent to the head of a line reaches its outlet. -/
theorem ends_send_of_leads (hleads : first.Leads outlet exit place line)
    (h : (send place event).Ends first trace result last) :
    ∃ hooks passed after, (line.pass event).Path hooks (passed, after) ∧
      trace = hooks ++ [⟨.inl (.send outlet passed), result⟩] ∧
      last.Leads outlet exit place after ∧ first.KeptBut line.places last :=
  ends_deliver_of_leads hleads (Nat.lt_succ_of_le hleads.length_le) (Flow.ends_get_bind.mp h)

/-- A collector that is asked to stand in front of a listener does so, or throws and stays as it
was. -/
theorem ends_wrap {place next : Nat} {context : Option Context} {collector : Collector}
    {behind : Option Nat} (hplace : first[place]? = some (.collector collector behind))
    (h : (wrap place context next).Ends first trace result last) :
    trace = [⟨.inl (.collectorInit collector.id context), result⟩] ∧
      ((result = .ok () ∧ last = first.set place (.collector { collector with context } next)) ∨
        ∃ thrown, result = .error thrown ∧ last = first) := by
  rw [wrap, Flow.ends_get_bind, hplace] at h
  obtain ⟨answer, rest, rfl, hrest⟩ := Flow.ends_request_bind.mp h
  cases answer with
  | ok _ =>
    obtain ⟨rfl, rfl, rfl⟩ := Flow.ends_modify.mp hrest
    exact ⟨rfl, .inl ⟨rfl, rfl⟩⟩
  | error thrown =>
    obtain ⟨rfl, rfl, rfl⟩ := Flow.ends_throw.mp hrest
    exact ⟨rfl, .inr ⟨thrown, rfl, rfl⟩⟩

end Network

end Fleet
