import Fleet.Poller.Step
import Fleet.Proofs.Module.Deeds
import Fleet.Proofs.Poller.Asking
import Fleet.Proofs.Poller.Backstage
import Fleet.Proofs.Recovery

/-!
# Discretion

Only running a unit and having units report pass on events. Whatever else a poller does after it has
wired its collectors is discreet: it shows to no listener, and the listeners stay as they are.
-/

namespace Fleet

variable {E : Interface} {α β : Type}

/-- Quiet questions pass on no event. -/
theorem Session.deeds_eq_nil {trace : List (Session.Exchange (World E))}
    (h : ∀ exchange ∈ trace, World.Quiet exchange.question) : Session.deeds trace = [] := by
  refine List.filterMap_eq_nil_iff.mpr fun exchange hexchange => ?_
  have hquiet := h exchange hexchange
  obtain ⟨question | errand, answer⟩ := exchange
  · cases question <;> first | rfl | cases hquiet
  · cases hquiet

/-- A session that asks only quiet questions passes on no event. -/
theorem Session.Asks.deeds {session : Work E α} {trace : List (Session.Exchange (World E))}
    {result : α} (h : session.Asks World.Quiet) (hpath : session.Path trace result) :
    Session.deeds trace = [] :=
  Session.deeds_eq_nil (h hpath)

/-- The question writes a log line. -/
def World.Logging : (World E).Question → Prop
  | .inl (.log _) => True
  | _ => False

private theorem World.Misstep.logging {question : (World E).Question} (h : World.Misstep question) :
    World.Logging question := by
  rcases question with question | errand
  · cases question <;> trivial
  · cases h

namespace Station

/-- The poller is equipped as before and has the same listeners. -/
structure SameListeners (first last : Station) : Prop where
  network : last.poller.network = first.poller.network
  entry : last.poller.entry = first.poller.entry
  resources : last.poller.resources = first.poller.resources

/-- The listeners are the same where nothing has changed. -/
theorem SameListeners.refl (station : Station) : station.SameListeners station :=
  ⟨rfl, rfl, rfl⟩

private theorem SameListeners.trans {first mid last : Station} (h : first.SameListeners mid)
    (hlast : mid.SameListeners last) : first.SameListeners last :=
  ⟨hlast.network.trans h.network, hlast.entry.trans h.entry, hlast.resources.trans h.resources⟩

/-- The law of discretion, to ask only quiet questions and to leave the listeners as they are. -/
def discretion (E : Interface) : Flow.Law E Station where
  asks := World.Quiet
  moves := SameListeners
  returns _ := False
  stays := .refl
  goes_on := .trans
  returns_of_append := id

instance lax_discretion : (discretion E).Lax :=
  ⟨fun _ => id⟩

/-- The computation passes on no event and leaves the listeners as they are. -/
def Discreet (flow : Flow E Station α) : Prop :=
  flow.Obeys (discretion E)

/-- Discretion shows to no listener, and leaves the listeners as they are. -/
theorem Discreet.unheard {flow : Flow E Station α} {first last : Station}
    {trace : List (Session.Exchange (World E))} {result : Except Thrown α} (h : Discreet flow)
    (hends : flow.Ends first trace result last) :
    Session.deeds trace = [] ∧ first.SameListeners last :=
  ⟨Session.deeds_eq_nil (h hends).asked, (h hends).moved⟩

private theorem discreet_log {level : LogLevel} {event message : String}
    (h : event ≠ unreportableEvent) :
    Discreet (log (E := E) level event message) :=
  .bind .get fun _ => .log (World.quiet_log (E := E) h)

private theorem discreet_transition {next : PollerState} : Discreet (transition (E := E) next) := by
  refine .bind .get fun station => ?_
  split
  · exact .modify fun _ => ⟨rfl, rfl, rfl⟩
  · exact discreet_log (by decide)

private theorem discreet_proceed : Discreet (proceed (E := E)) :=
  .bind discreet_transition fun _ => .pure _

private theorem discreet_noted {level : LogLevel} {event message : String}
    (h : event ≠ unreportableEvent) :
    Discreet (do log (E := E) level event message; proceed) :=
  .bind (discreet_log h) fun _ => discreet_proceed

private theorem discreet_terminate {error : TaskError} : Discreet (terminate (E := E) error) :=
  .bind discreet_transition fun _ => .pure _

private theorem discreet_withdraw {unit : TestUnit} : Discreet (withdraw (E := E) unit) :=
  .bind (.modify fun _ => ⟨rfl, rfl, rfl⟩) fun _ => .pure _

/-- To look for a gated unit is discreet. -/
theorem discreet_seekGated : Discreet (seekGated (E := E)) := by
  refine .bind .get fun station => .bind (.work WorkPool.quiet_pollGated) ?_
  intro (found, pool)
  refine .bind (.modify fun _ => ⟨rfl, rfl, rfl⟩) fun _ => ?_
  cases found with
  | some unit => exact discreet_withdraw
  | none => exact .pure _

/-- To look for a generic unit is discreet. -/
theorem discreet_seekGeneric : Discreet (seekGeneric (E := E)) := by
  refine .bind .get fun station => ?_
  refine .bind (.modify fun _ => ⟨rfl, rfl, rfl⟩) fun _ => ?_
  split
  · exact discreet_withdraw
  · refine .bind discreet_transition fun _ => .bind .get fun _ => ?_
    exact .bind (discreet_log (by decide)) fun _ => .pure _

/-- To hand a unit its dependencies and to validate its options is discreet. -/
theorem discreet_dispatch {conducts : Conducts E} {unit : TestUnit} :
    Discreet (dispatch conducts unit) := by
  refine .bind discreet_transition fun _ => .bind .get fun station => ?_
  refine .bind (.forM fun dependency => .bind (.work (.request trivial)) fun answer => .resume _)
    fun _ => .bind (.resume _) fun outcome => ?_
  cases outcome with
  | error error =>
    refine .bind (.modify fun _ => ⟨rfl, rfl, rfl⟩) fun _ => ?_
    exact .bind (discreet_log (by decide)) fun _ => .bind discreet_transition fun _ => .pure _
  | ok _ => exact .bind discreet_transition fun _ => .pure _

/-- To recover a device is discreet. -/
theorem discreet_recover {unit : TestUnit} {error : TaskError} :
    Discreet (recover (E := E) unit error) := by
  refine .bind .get fun station => ?_
  split
  · exact discreet_terminate
  · refine .bind (.work RecoveryPolicy.quiet_handleLoss) fun outcome => ?_
    cases outcome with
    | error error => exact discreet_terminate
    | ok _ => exact discreet_proceed

/-- To sign out is discreet. -/
theorem discreet_signOut {exit : Exit} : Discreet (signOut (E := E) exit) := by
  refine .bind .get fun station => ?_
  dsimp only
  refine .bind (.modify fun _ => ⟨rfl, rfl, rfl⟩) fun _ => ?_
  split
  · exact .bind (.modify fun _ => ⟨rfl, rfl, rfl⟩) fun _ => .pure _
  · exact .pure _

private theorem logging_log {level : LogLevel} {event message : String} :
    (log (E := E) level event message).Asks World.Logging :=
  asks_log fun _ _ => trivial

private theorem logging_proceed : (proceed (E := E)).Asks World.Logging :=
  .bind (misstep_transition.mono fun _ => World.Misstep.logging) fun _ => .pure _

private theorem logging_noted {level : LogLevel} {event message : String} :
    Flow.Asks World.Logging (do log (E := E) level event message; proceed) :=
  .bind logging_log fun _ => logging_proceed

private theorem logging_terminate {error : TaskError} :
    (terminate (E := E) error).Asks World.Logging :=
  .bind (misstep_transition.mono fun _ => World.Misstep.logging) fun _ => .pure _

/-- What a poller does after the execution of a unit is discreet, and no more than logged. -/
theorem ends_execute_discreet {conducts : Conducts E} {unit : TestUnit} {first last : Station}
    {trace : List (Session.Exchange (World E))} {result : Except Thrown Phase}
    (h : (execute conducts unit).Ends first trace result last) :
    ∃ run rest ran network, trace = run ++ rest ∧ Session.deeds rest = [] ∧
      (Poller.execute (conducts unit) first.poller.resources first.poller.entry unit).Ends
        first.poller.network run ran network ∧
      last.poller.network = network ∧ last.poller.entry = first.poller.entry ∧
      last.poller.resources = first.poller.resources ∧
      ∀ exchange ∈ rest, World.Logging exchange.question := by
  rw [execute, Flow.ends_modify_bind, Flow.ends_get_bind] at h
  rcases Flow.ends_bind.mp h with
    ⟨thrown, hthrown, rfl⟩ | ⟨outcome, run, rest, mid, rfl, hexecuted, hrest⟩
  · obtain ⟨network, hexecute, rfl⟩ := Flow.ends_within.mp hthrown
    exact ⟨trace, [], .error thrown, network, (List.append_nil trace).symm, rfl, hexecute, rfl, rfl,
      rfl, List.forall_mem_nil _⟩
  · obtain ⟨network, hexecute, hmid⟩ := Flow.ends_within.mp hexecuted
    have hdiscreet : (Session.deeds rest = [] ∧ mid.SameListeners last) ∧
        ∀ exchange ∈ rest, World.Logging exchange.question := by
      cases outcome with
      | ok _ => exact ⟨discreet_proceed.unheard hrest, (logging_proceed hrest).asked⟩
      | error error =>
        dsimp only at hrest
        split at hrest
        · exact ⟨(discreet_noted (by decide)).unheard hrest, (logging_noted hrest).asked⟩
        · split at hrest
          · obtain ⟨rfl, -, rfl⟩ := Flow.ends_pure.mp hrest
            exact ⟨⟨rfl, .refl _⟩, List.forall_mem_nil _⟩
          · exact ⟨discreet_terminate.unheard hrest, (logging_terminate hrest).asked⟩
        · exact ⟨(discreet_noted (by decide)).unheard hrest, (logging_noted hrest).asked⟩
    obtain ⟨⟨hquiet, hsame⟩, hlogs⟩ := hdiscreet
    rw [hmid] at hsame
    exact ⟨run, rest, .ok outcome, network, rfl, hquiet, hexecute, hsame.network, hsame.entry,
      hsame.resources, hlogs⟩

end Station

end Fleet
