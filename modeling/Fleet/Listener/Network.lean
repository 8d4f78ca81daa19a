import Fleet.Flow
import Fleet.Listener.Collector
import Fleet.Listener.OpenRuns
import Fleet.Listener.ShardBuffer

/-!
# Listener networks

Listeners report to other listeners. A network files them under numbers and says for each where
its events go next: to outlets that lead to the outside world, to every child of a fan, through a
metric collector, a shard buffer or a guard that counts open runs. An event sent to a listener that
is gone, or round in a circle, reaches no one.
-/

namespace Fleet

/-- One listener of a network. -/
inductive Listener where
  /-- A listener of the outside world. -/
  | outlet (id : Nat)
  /-- Ignores every event. -/
  | silent
  /-- Passes every event to each child in turn. -/
  | fan (children : List Nat)
  /-- A fan that also stores raw logs, if it has a saver, and announces what was stored. -/
  | savingFan (saver : Option Nat) (children : List Nat)
  /-- A metric collector in front of another listener; nothing passes until it has one. -/
  | collector (collector : Collector) (next : Option Nat)
  /-- A shard buffer in front of another listener. -/
  | shard (buffer : ShardBuffer) (next : Nat)
  /-- Counts the open runs of the unit that reports here. -/
  | guard (openRuns : Nat) (next : Nat)

/-- The listeners of a network, filed under their positions. -/
abbrev Network := List Listener

namespace Network

variable {E : Interface}

/-- Deliver an event to a listener, over at most as many listeners as `reach` says. -/
def deliver (reach : Nat) (target : Nat) (event : Event) : Flow E Network Unit := do
  match reach with
  | 0 => pure ()
  | reach + 1 =>
    match (← get)[target]? with
    | none | some .silent | some (.collector _ none) => pure ()
    | some (.outlet id) => Flow.send id event
    | some (.fan children) => children.forM (deliver reach · event)
    | some (.savingFan saver children) =>
      children.forM (deliver reach · event)
      match event, saver with
      | .testLog log kind data, some saver =>
        match ← Flow.request (.save saver log kind data) with
        | .error error =>
          Flow.log .error "" "log_saver" "save_failed"
            ("Failed to save log " ++ log ++ ": " ++ error.message)
        | .ok file => children.forM (deliver reach · (.logSaved log kind data file))
      | _, _ => pure ()
    | some (.collector collector (some next)) =>
      let (event, collector) ← Flow.work (collector.receive event)
      modify (·.set target (.collector collector (some next)))
      deliver reach next event
    | some (.shard buffer next) =>
      let (passed, buffer) := buffer.receive event
      modify (·.set target (.shard buffer next))
      passed.forM (deliver reach next)
    | some (.guard openRuns next) =>
      modify (·.set target (.guard (openRunsAfter openRuns event) next))
      deliver reach next event

/-- Send an event to a listener. No way through the network without a circle is longer than the
network, so every listener on a way out is reached. -/
def send (target : Nat) (event : Event) : Flow E Network Unit := do
  deliver ((← get).length + 1) target event

/-- Let through what a shard buffer holds back. -/
def flush (target : Nat) : Flow E Network Unit := do
  match (← get)[target]? with
  | some (.shard buffer next) =>
    let (passed, buffer) := buffer.flush
    modify (·.set target (.shard buffer next))
    passed.forM (send next)
  | _ => pure ()

/-- Start a collector in front of another listener. A collector that throws stays as it was. -/
def wrap (position : Nat) (context : Option Context) (next : Nat) : Flow E Network Unit := do
  match (← get)[position]? with
  | some (.collector collector _) =>
    Flow.resume (← Flow.request (.collectorInit collector.id context))
    modify (·.set position (.collector { collector with context } (some next)))
  | _ => pure ()

/-- Let a fan pass its events to one more child. -/
def addChild (target child : Nat) (network : Network) : Network :=
  match network[target]? with
  | some (.fan children) => network.set target (.fan (children ++ [child]))
  | some (.savingFan saver children) =>
    network.set target (.savingFan saver (children ++ [child]))
  | _ => network

end Network

end Fleet
