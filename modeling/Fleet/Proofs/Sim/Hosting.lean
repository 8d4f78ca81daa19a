import Fleet.Listener.Front
import Fleet.Proofs.Sim.Conducts

/-!
# Conversations with a simulation

A simulation grants everything it is asked for. It hears the events in order, lets each device drop
once, and finds the module it was given until one is kept. That a fan in front of it keeps the logs
makes no difference to any of this.
-/

namespace Fleet

namespace Sim

/-- The counts after a question was asked. -/
def Summary.afterRequest (summary : Summary) : Request → Summary
  | .send _ event => summary.after event
  | _ => summary

/-- A device that was looked at drops no more. -/
def settle (device : Device) (devices : List SimDevice) : List SimDevice :=
  devices.map fun sim =>
    if sim.serial = device.serial then { sim with dropping := false } else sim

private theorem serials_settle {device : Device} {devices : List SimDevice} :
    (settle device devices).map (·.serial) = devices.map (·.serial) := by
  rw [settle, List.map_map]
  refine List.map_congr_left fun sim _ => ?_
  rw [Function.comp_apply]
  split <;> rfl

/-- To look at a device is to settle it alone. -/
theorem countP_settle {device : Device} {devices : List SimDevice}
    (hserials : (devices.map (·.serial)).Nodup) :
    (settle device devices).countP (·.dropping) +
        (if (devices.find? (·.serial = device.serial)).any (·.dropping) then 1 else 0) =
      devices.countP (·.dropping) := by
  induction devices with
  | nil => rfl
  | cons sim rest ih =>
    obtain ⟨hsim, hrest⟩ := List.nodup_cons.mp hserials
    by_cases hserial : sim.serial = device.serial
    · have hothers : settle device rest = rest := by
        refine (List.map_congr_left fun other hother => if_neg fun hsame => ?_).trans
          (List.map_id rest)
        exact hsim (List.mem_map.mpr ⟨other, hother, hsame.trans hserial.symm⟩)
      rw [settle, List.map_cons, ← settle, hothers, if_pos hserial]
      simp [hserial, List.countP_cons]
    · have hother := ih hrest
      rw [settle, List.map_cons, ← settle, if_neg hserial, List.countP_cons, List.countP_cons,
        List.find?_cons_of_neg (by simpa using hserial)]
      omega

/-- What the answer of a simulation is and what becomes of it: requests are granted, a device that
is looked at drops if it is about to, and the module found is the one that was kept last. -/
inductive Replied : Simulation → Session.Exchange (World Backstage) → Simulation → Prop where
  | outside {sim next : Simulation} {question : Request} {answer : question.Answer}
      (granted : Session.Exchange.Granted
        (⟨.inl question, answer⟩ : Session.Exchange (World Backstage)))
      (devices : next.devices = sim.devices) (module : next.module = sim.module)
      (summary : next.summary = sim.summary.afterRequest question) :
      Replied sim ⟨.inl question, answer⟩ next
  | aside {sim next : Simulation} {question : Request} {answer : question.Answer}
      (granted : Session.Exchange.Granted (⟨.inl question, answer⟩ : Session.Exchange Backstage))
      (devices : next.devices = sim.devices) (module : next.module = sim.module)
      (summary : next.summary = sim.summary.afterRequest question) :
      Replied sim ⟨.inr (.inl question), answer⟩ next
  | looked {sim : Simulation} {device : Device} :
      Replied sim ⟨.inr (.inr (.takeDrop device)), (sim.find device).any (·.dropping)⟩
        { sim with devices := settle device sim.devices }
  | found {sim : Simulation} : Replied sim ⟨.inr (.inr .kept), sim.module⟩ sim
  | kept {sim : Simulation} {module : Module} :
      Replied sim ⟨.inr (.inr (.keep module)), ()⟩ { sim with module }

/-- The answers of a simulation in a conversation. -/
inductive Replies : Simulation → List (Session.Exchange (World Backstage)) → Simulation → Prop where
  | done {sim : Simulation} : Replies sim [] sim
  | next {sim mid last : Simulation} {exchange : Session.Exchange (World Backstage)}
      {rest : List (Session.Exchange (World Backstage))} (replied : Replied sim exchange mid)
      (later : Replies mid rest last) : Replies sim (exchange :: rest) last

variable {sim mid last : Simulation} {α : Type} {talk : List (Session.Exchange host)}

/-- What is done for the host only leaves the simulation as it is. -/
theorem path_liftM {hosted : Hosted α} {result : α}
    (h : ((liftM hosted : Simulation.Step α).run sim).Path talk (result, last)) : last = sim := by
  obtain ⟨answer, _, _, -, -, hdone⟩ := Session.path_bind.mp h
  exact congrArg Prod.snd (Session.path_done.mp hdone).2

private theorem path_summarize {event : Event} {result : Unit}
    (h : ((Simulation.summarize event).run sim).Path talk (result, last)) :
    last = { sim with summary := sim.summary.after event } := by
  unfold Simulation.summarize at h
  obtain ⟨⟨simulation, first⟩, _, _, -, hget, hrest⟩ := Session.path_bind.mp h
  obtain ⟨-, hfirst⟩ := Session.path_done.mp hget
  obtain ⟨rfl, rfl⟩ := Prod.mk.inj hfirst
  dsimp only at hrest
  split at hrest
  · exact congrArg Prod.snd (Session.path_done.mp hrest).2
  · obtain ⟨⟨_, printed⟩, _, _, -, hdiscarded, hset⟩ := Session.path_bind.mp hrest
    obtain ⟨⟨_, second⟩, _, _, -, hprinted, hdone⟩ := Session.path_bind.mp hdiscarded
    obtain rfl := path_liftM hprinted
    obtain rfl : printed = second := congrArg Prod.snd (Session.path_done.mp hdone).2
    exact congrArg Prod.snd (Session.path_done.mp hset).2

private theorem path_keepLog {log data : String} {kind : LogKind}
    {result : Except TaskError LogFile}
    (h : ((Simulation.keepLog log kind data).run sim).Path talk (result, last)) :
    ∃ store, last = { sim with store } := by
  obtain ⟨⟨_, first⟩, _, _, -, hget, hrest⟩ := Session.path_bind.mp h
  obtain ⟨-, hfirst⟩ := Session.path_done.mp hget
  obtain ⟨rfl, rfl⟩ := Prod.mk.inj hfirst
  obtain ⟨⟨⟨_, store⟩, second⟩, _, _, -, hsaved, hkept⟩ := Session.path_bind.mp hrest
  obtain rfl := path_liftM hsaved
  obtain ⟨⟨_, third⟩, _, _, -, hmodified, hdone⟩ := Session.path_bind.mp hkept
  obtain ⟨-, hthird⟩ := Session.path_done.mp hmodified
  obtain ⟨-, rfl⟩ := Prod.mk.inj hthird
  exact ⟨store, congrArg Prod.snd (Session.path_done.mp hdone).2⟩

/-- The simulation grants a request, and only its counts and its logs may change. -/
theorem path_answerOutside {E : Interface} {question : Request} {answer : question.Answer}
    (h : ((Simulation.answerOutside question).run sim).Path talk (answer, last)) :
    Session.Exchange.Granted (⟨.inl question, answer⟩ : Session.Exchange (World E)) ∧
      last.devices = sim.devices ∧ last.module = sim.module ∧
      last.summary = sim.summary.afterRequest question := by
  cases question with
  | send outlet event =>
    obtain ⟨⟨_, second⟩, _, _, -, hsummarized, hdone⟩ := Session.path_bind.mp h
    obtain rfl := path_summarize hsummarized
    obtain ⟨-, hsame⟩ := Session.path_done.mp hdone
    obtain ⟨rfl, rfl⟩ := Prod.mk.inj hsame
    exact ⟨rfl, rfl, rfl, rfl⟩
  | log entry =>
    obtain rfl := path_liftM h
    exact ⟨trivial, rfl, rfl, rfl⟩
  | clock =>
    obtain rfl := path_liftM h
    exact ⟨trivial, rfl, rfl, rfl⟩
  | save =>
    obtain ⟨store, rfl⟩ := path_keepLog h
    exact ⟨trivial, rfl, rfl, rfl⟩
  | _ =>
    obtain ⟨-, hsame⟩ := Session.path_done.mp h
    obtain rfl : last = sim := congrArg Prod.snd hsame
    exact ⟨by first | exact congrArg Prod.fst hsame | trivial, rfl, rfl, rfl⟩

private theorem replied_of_answer {exchange : Session.Exchange (World Backstage)}
    (h : ((Simulation.answer exchange.question).run sim).Path talk (exchange.answer, last)) :
    Replied sim exchange last := by
  obtain ⟨question | question | errand, answer⟩ := exchange
  · obtain ⟨hgranted, hdevices, hmodule, hsummary⟩ := path_answerOutside h
    exact .outside hgranted hdevices hmodule hsummary
  · obtain ⟨hgranted, hdevices, hmodule, hsummary⟩ := path_answerOutside h
    exact .aside hgranted hdevices hmodule hsummary
  · cases errand with
    | _ =>
      obtain ⟨-, hsame⟩ := Session.path_done.mp h
      obtain ⟨rfl, rfl⟩ := Prod.mk.inj hsame
      constructor

/-- A conversation that is played against a simulation is answered by it. -/
theorem replies_of_play {session : Work Backstage α} {result : α}
    (h : ((Simulation.play session).run sim).Path talk (result, last)) :
    ∃ trace, session.Path trace result ∧ Replies sim trace last := by
  induction session generalizing sim talk with
  | done a =>
    obtain ⟨-, hsame⟩ := Session.path_done.mp h
    obtain ⟨rfl, rfl⟩ := Prod.mk.inj hsame
    exact ⟨[], .done _, .done⟩
  | ask question next ih =>
    obtain ⟨⟨answer, mid⟩, _, _, -, hanswer, hrest⟩ := Session.path_bind.mp h
    obtain ⟨trace, hpath, hreplies⟩ := ih answer hrest
    exact ⟨⟨question, answer⟩ :: trace, .ask hpath, .next (replied_of_answer hanswer) hreplies⟩

namespace Replies

variable {trace : List (Session.Exchange (World Backstage))}

/-- A simulation grants all that is asked of it. -/
theorem granted (h : Replies sim trace last) : Session.Granted trace := by
  induction h with
  | done => exact List.forall_mem_nil _
  | next hreplied _ ih =>
    refine List.forall_mem_cons.mpr ⟨?_, ih⟩
    cases hreplied with
    | outside hgranted => exact hgranted
    | _ => trivial

/-- So it does what units ask of each other. -/
theorem dealt (h : Replies sim trace last) : Session.Granted (Session.dealings trace) := by
  induction h with
  | done => exact List.forall_mem_nil _
  | next hreplied _ ih =>
    cases hreplied with
    | outside => exact ih
    | aside hgranted => exact List.forall_mem_cons.mpr ⟨hgranted, ih⟩
    | _ => exact List.forall_mem_cons.mpr ⟨trivial, ih⟩

/-- Until a module is kept the one that the simulation started with is found. -/
theorem finds (h : Replies sim trace last) : FindsFirst sim.module (Session.dealings trace) := by
  induction h with
  | done =>
    intro earlier found later hnone
    cases earlier <;> cases hnone
  | @next sim mid last exchange rest hreplied _ ih =>
    cases hreplied with
    | outside _ _ hmodule =>
      rw [← hmodule]
      exact ih
    | aside _ _ hmodule =>
      rw [← hmodule]
      exact ih.cons_of_ne nofun
    | looked => exact ih.cons_of_ne nofun
    | found => exact ih.cons fun found hfound => by cases hfound; rfl
    | kept => exact .of_kept

/-- Each drop is that of a device that was about to drop and is not any more. -/
theorem drops (h : Replies sim trace last) (hserials : (sim.devices.map (·.serial)).Nodup) :
    Sim.drops (Session.dealings trace) + last.devices.countP (·.dropping) =
      sim.devices.countP (·.dropping) := by
  induction h with
  | done => exact Nat.zero_add _
  | @next sim mid last exchange rest hreplied _ ih =>
    cases hreplied with
    | outside _ hdevices =>
      rw [← hdevices] at hserials ⊢
      exact ih hserials
    | aside _ hdevices =>
      rw [← hdevices] at hserials ⊢
      exact ih hserials
    | @looked device =>
      have hrest : Sim.drops (Session.dealings rest) + last.devices.countP (·.dropping) =
          (settle device sim.devices).countP (·.dropping) :=
        ih (by rwa [serials_settle])
      have hlooked := @countP_settle device sim.devices hserials
      rw [Session.dealings_errand, Sim.drops, List.countP_cons, ← Sim.drops]
      change _ + (if (sim.find device).any (·.dropping) then 1 else 0) + _ = _
      rw [Simulation.find]
      omega
    | found => exact ih hserials
    | kept => exact ih hserials

/-- If only the scheduler hands events to the listener, the summary is of what it has sent. -/
theorem summary (h : Replies sim trace last)
    (hunsent : ∀ exchange ∈ Session.dealings trace, Unsent exchange) :
    last.summary = sim.summary.afterAll (Session.sent trace) := by
  induction h with
  | done => rfl
  | @next sim mid last exchange rest hreplied _ ih =>
    cases hreplied with
    | @outside _ question _ _ _ _ hsummary =>
      rw [ih hunsent, hsummary]
      cases question <;> rfl
    | @aside _ question _ _ _ _ hsummary =>
      obtain ⟨hquestion, hrest⟩ := List.forall_mem_cons.mp hunsent
      rw [ih hrest, hsummary]
      cases question with
      | send outlet event => exact absurd rfl (hquestion outlet event)
      | _ => rfl
    | looked => exact ih (List.forall_mem_cons.mp hunsent).2
    | found => exact ih (List.forall_mem_cons.mp hunsent).2
    | kept => exact ih (List.forall_mem_cons.mp hunsent).2

private theorem of_cons {exchange : Session.Exchange (World Backstage)}
    (h : Replies sim (exchange :: trace) last) :
    ∃ mid, Replied sim exchange mid ∧ Replies mid trace last := by
  cases h with
  | next hreplied hlater => exact ⟨_, hreplied, hlater⟩

private theorem of_singleton {exchange : Session.Exchange (World Backstage)}
    (h : Replies sim [exchange] last) : Replied sim exchange last := by
  obtain ⟨mid, hreplied, hdone⟩ := h.of_cons
  cases hdone
  exact hreplied

private theorem of_append {before after : List (Session.Exchange (World Backstage))}
    (h : Replies sim (before ++ after) last) :
    ∃ mid, Replies sim before mid ∧ Replies mid after last := by
  induction before generalizing sim with
  | nil => exact ⟨sim, .done, h⟩
  | cons exchange before ih =>
    obtain ⟨_, hreplied, hlater⟩ := h.of_cons
    obtain ⟨mid, hbefore, hafter⟩ := ih hlater
    exact ⟨mid, .next hreplied hbefore, hafter⟩

end Replies

/-- A request that does not show in the summary may follow. -/
theorem Replied.unheard {question later : Request} {answer : question.Answer}
    {answered : later.Answer} (h : Replied sim ⟨.inl question, answer⟩ mid)
    (hlater : Replied mid ⟨.inl later, answered⟩ last)
    (hunheard : ∀ summary : Summary, summary.afterRequest later = summary) :
    Replied sim ⟨.inl question, answer⟩ last := by
  cases h with
  | outside hgranted hdevices hmodule hsummary =>
    cases hlater with
    | outside _ hsame hkept hcounted =>
      refine .outside hgranted (hsame.trans hdevices) (hkept.trans hmodule) ?_
      rw [hcounted, hunheard, hsummary]

/-! ## Behind the fan that keeps the logs -/

/-- The outlet behind a fan that keeps logs. -/
def savingLine : Network :=
  [.savingFan (some 0) [1], .outlet 0]

section Front

variable {event : Event} {network : Network}
  {trace outer : List (Session.Exchange (World Backstage))}

private theorem ends_pass {reach : Nat} {result : Except Thrown Unit}
    (h : ([1].forM (Network.deliver (E := Backstage) (reach + 1) · event)).Ends savingLine trace
      result network) :
    trace = [⟨.inl (.send 0 event), result⟩] ∧ network = savingLine := by
  rw [List.forM] at h
  rcases Flow.ends_bind.mp h with ⟨thrown, hthrown, rfl⟩ | ⟨⟨⟩, _, _, mid, rfl, hsent, hdone⟩
  · rw [Network.deliver, Flow.ends_get_bind] at hthrown
    exact Flow.ends_send hthrown
  · rw [Network.deliver, Flow.ends_get_bind] at hsent
    obtain ⟨rfl, rfl⟩ := Flow.ends_send hsent
    obtain ⟨rfl, rfl, rfl⟩ := Flow.ends_pure.mp hdone
    exact ⟨rfl, rfl⟩

private theorem Replied.told {answer : Except Thrown Unit}
    (h : Replied sim ⟨.inl (.send 0 event), answer⟩ last) (outlet : Nat) :
    answer = .ok () ∧ Replied sim ⟨.inl (.send outlet event), .ok ()⟩ last := by
  cases h with
  | outside hgranted hdevices hmodule hsummary =>
    exact ⟨hgranted, .outside rfl hdevices hmodule hsummary⟩

/-- An event that enters at the fan is counted once, whether or not a log is kept. -/
theorem replied_of_send {outlet : Nat} {result : Except Thrown Unit}
    (h : (Network.send (E := Backstage) 0 event).Ends savingLine trace result network)
    (hreplies : Replies sim trace last) :
    Replied sim ⟨.inl (.send outlet event), result⟩ last ∧ network = savingLine := by
  rw [Network.send, Flow.ends_get_bind, Network.deliver, Flow.ends_get_bind] at h
  rcases Flow.ends_bind.mp h with
    ⟨thrown, hthrown, rfl⟩ | ⟨⟨⟩, _, rest, mid, rfl, hpassed, hrest⟩
  · obtain ⟨rfl, -⟩ := ends_pass hthrown
    cases (hreplies.of_singleton.told outlet).1
  · obtain ⟨rfl, rfl⟩ := ends_pass hpassed
    obtain ⟨_, hfirst, hlater⟩ := hreplies.of_append
    obtain ⟨-, htold⟩ := hfirst.of_singleton.told outlet
    have hpassedOnly : (pure () : Flow Backstage Network Unit).Ends savingLine rest result network →
        Replied sim ⟨.inl (.send outlet event), result⟩ last ∧ network = savingLine := by
      intro hdone
      obtain ⟨rfl, rfl, rfl⟩ := Flow.ends_pure.mp hdone
      cases hlater
      exact ⟨htold, rfl⟩
    cases event with
    | testLog log kind data =>
      obtain ⟨answer, more, rfl, hsaved⟩ := Flow.ends_request_bind.mp hrest
      obtain ⟨_, hkept, hmore⟩ := hlater.of_cons
      have hsaving := htold.unheard hkept fun _ => rfl
      cases answer with
      | error error =>
        obtain ⟨⟨⟩, hlogged, rfl, rfl⟩ := Flow.ends_work.mp hsaved
        obtain rfl := Flow.path_request.mp hlogged
        exact ⟨hsaving.unheard hmore.of_singleton fun _ => rfl, rfl⟩
      | ok file =>
        obtain ⟨rfl, rfl⟩ := ends_pass hsaved
        obtain ⟨rfl, -⟩ := hmore.of_singleton.told outlet
        exact ⟨hsaving.unheard hmore.of_singleton fun _ => rfl, rfl⟩
    | _ => exact hpassedOnly hrest

/-- A conversation that reports through the fan is answered by the simulation as if it reported
directly. -/
theorem replies_of_front {session : Work Backstage α} {result : α}
    (h : ((Network.front session).run savingLine).Path outer (result, network))
    (hreplies : Replies sim outer last) :
    ∃ trace, session.Path trace result ∧ Replies sim trace last := by
  induction session generalizing sim outer with
  | done a =>
    obtain ⟨rfl, hsame⟩ := Session.path_done.mp h
    obtain ⟨rfl, -⟩ := Prod.mk.inj hsame
    exact ⟨[], .done _, hreplies⟩
  | ask question next ih =>
    obtain ⟨⟨answer, between⟩, before, after, rfl, hasked, hrest⟩ := Session.path_bind.mp h
    obtain ⟨mid, hbefore, hafter⟩ := hreplies.of_append
    have hreplied : Replied sim ⟨question, answer⟩ mid ∧ between = savingLine := by
      have hpassed : (Session.ask question fun answer => .done (answer, savingLine)).Path before
          (answer, between) → Replied sim ⟨question, answer⟩ mid ∧ between = savingLine := by
        intro hpass
        obtain ⟨answered, _, rfl, hdone⟩ := Session.path_ask.mp hpass
        obtain ⟨rfl, hsame⟩ := Session.path_done.mp hdone
        obtain ⟨rfl, rfl⟩ := Prod.mk.inj hsame
        exact ⟨hbefore.of_singleton, rfl⟩
      rcases question with question | errand
      · cases question with
        | send outlet event => exact replied_of_send hasked hbefore
        | _ => exact hpassed hasked
      · exact hpassed hasked
    obtain ⟨hreplied, rfl⟩ := hreplied
    obtain ⟨trace, hpath, hlater⟩ := ih answer hrest hafter
    exact ⟨⟨question, answer⟩ :: trace, .ask hpath, .next hreplied hlater⟩

/-- A conversation that reports through the fan. -/
def throughFan (session : Work Backstage α) : Work Backstage α := do
  let (result, _) ← (Network.front session).run savingLine
  return result

/-- What the simulation answers to a conversation through the fan it would answer without. -/
theorem replies_of_throughFan {session : Work Backstage α} {result : α}
    (h : ((Simulation.play (throughFan session)).run sim).Path talk (result, last)) :
    ∃ trace, session.Path trace result ∧ Replies sim trace last := by
  obtain ⟨outer, hpath, hreplies⟩ := replies_of_play h
  obtain ⟨⟨_, network⟩, front, _, rfl, hfront, hdone⟩ := Session.path_seq.mp hpath
  obtain ⟨rfl, rfl⟩ := Session.path_pure.mp hdone
  rw [List.append_nil] at hreplies
  exact replies_of_front hfront hreplies

end Front

end Sim

end Fleet
