import Fleet.Poller.Basic
import Fleet.Proofs.Routine

/-!
# Backstage

What a poller does besides handling units shows only backstage: in its lifecycle, which it moves
without ever failing, and in its network of listeners. Its books and the floor stay as they are.
-/

namespace Fleet

namespace Station

variable {E : Interface} {first mid last : Station} {trace : List (Session.Exchange (World E))}
  {result : Except Thrown Unit}

/-- Only the poller's lifecycle and its listeners may have changed. -/
def Backstage (first last : Station) : Prop :=
  ∃ lifecycle network entry,
    last = { first with poller := { first.poller with lifecycle, network, entry } }

/-- Where nothing has changed, nothing has changed but backstage. -/
theorem backstage_refl (station : Station) : station.Backstage station :=
  ⟨_, _, _, rfl⟩

/-- Two changes backstage are one. -/
theorem Backstage.trans (h : first.Backstage mid) (hlast : mid.Backstage last) :
    first.Backstage last := by
  obtain ⟨_, _, _, rfl⟩ := h
  obtain ⟨lifecycle, network, entry, rfl⟩ := hlast
  exact ⟨lifecycle, network, entry, rfl⟩

/-- The law of asides, to throw nothing, to show only backstage, and to let no unit show. -/
def aside (E : Interface) : Flow.Law E Station where
  asks := World.Routine
  moves := Backstage
  returns _ := True
  stays := backstage_refl
  goes_on := Backstage.trans
  returns_of_append := id

/-- An aside throws nothing, shows only backstage, and no unit shows in it. -/
def Aside (flow : Flow E Station Unit) : Prop :=
  flow.Obeys (aside E)

/-- What the poller logs. -/
def entry (level : LogLevel) (event message : String) (station : Station) : LogEntry where
  level
  trace := station.serial
  component := "poller"
  event
  message

/-- A log line of a poller is one exchange, and changes nothing. -/
theorem ends_log {level : LogLevel} {event message : String}
    (h : (log level event message).Ends first trace result last) :
    result = .ok () ∧ last = first ∧
      trace = [⟨.inl (.log (first.entry level event message)), ()⟩] := by
  rw [log, Flow.ends_get_bind] at h
  obtain ⟨⟨⟩, hlogged, hresult, hlast⟩ := Flow.ends_work.mp h
  exact ⟨hresult, hlast, Flow.path_request.mp hlogged⟩

/-- To log is an aside, unless a unit is complained about. -/
theorem aside_log {level : LogLevel} {event message : String} (h : event ≠ unreportableEvent) :
    Aside (log (E := E) level event message) :=
  .bind .get fun _ => .log (World.routine_log (E := E) h)

/-- A step of the lifecycle is an aside: if it is refused, that is no more than logged. -/
theorem aside_transition {next : PollerState} : Aside (transition (E := E) next) := by
  refine .bind .get fun station => ?_
  split
  · exact .modify fun _ => ⟨_, _, _, rfl⟩
  · exact aside_log (by decide)

/-- What follows an aside starts where the aside began, but for what shows backstage. -/
theorem Aside.ends_bind {β : Type} {flow : Flow E Station Unit} {f : Unit → Flow E Station β}
    {ended : Except Thrown β} (haside : Aside flow) (h : (flow >>= f).Ends first trace ended last) :
    ∃ before after mid, trace = before ++ after ∧ Session.Uneventful before ∧
      first.Backstage mid ∧ (f ()).Ends mid after ended last := by
  rcases Flow.ends_bind.mp h with ⟨thrown, hthrown, -⟩ | ⟨⟨⟩, before, after, mid, rfl, hflow, hrest⟩
  · obtain ⟨_, hnot⟩ := (haside hthrown).returned trivial
    cases hnot
  · obtain ⟨hasked, hmid, -⟩ := haside hflow
    exact ⟨before, after, mid, rfl, Session.uneventful_of_routine hasked, hmid, hrest⟩

/-- The computation is an aside that settles what to go on with. -/
def Settles {β : Type} (flow : Flow E Station β) (settled : β) : Prop :=
  ∀ ⦃first trace result last⦄, flow.Ends first trace result last →
    result = .ok settled ∧ first.Backstage last ∧ Session.Uneventful trace

/-- To return settles what to go on with. -/
theorem settles_pure {β : Type} (settled : β) :
    Settles (pure settled : Flow E Station β) settled := by
  intro first trace result last h
  obtain ⟨rfl, rfl, rfl⟩ := Flow.ends_pure.mp h
  exact ⟨rfl, last.backstage_refl, Session.uneventful_nil⟩

/-- An aside before something is settled leaves it settled. -/
theorem Aside.settles {β : Type} {settled : β} {flow : Flow E Station Unit}
    {f : Unit → Flow E Station β} (haside : Aside flow) (hf : Settles (f ()) settled) :
    Settles (flow >>= f) settled := by
  intro first trace result last h
  obtain ⟨before, after, mid, rfl, hbefore, hmid, hrest⟩ := haside.ends_bind h
  obtain ⟨rfl, hlast, hafter⟩ := hf hrest
  exact ⟨rfl, hmid.trans hlast, hbefore.append hafter⟩

/-- Work on the network changes nothing but the listeners. -/
theorem backstage_onNetwork {α : Type} {flow : Flow E Network α} {ended : Except Thrown α}
    (h : (onNetwork flow).Ends first trace ended last) : first.Backstage last := by
  obtain ⟨network, -, rfl⟩ := Flow.ends_within.mp h
  exact ⟨_, _, _, rfl⟩

/-- Who has shown only backstage so far has still done so after work on the network. -/
theorem keeps_backstage_onNetwork {α : Type} {origin : Station} {flow : Flow E Network α} :
    (onNetwork flow).Keeps origin.Backstage :=
  Flow.keeps_iff.mpr fun _ _ _ _ hends horigin => horigin.trans (backstage_onNetwork hends)

end Station

end Fleet
