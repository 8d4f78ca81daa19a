import Fleet.Poller.Step

/-!
# Sharded invocations

An invocation splits its units into a pool and puts one poller per device to work on it. Events of
concurrent pollers reach the listener of the invocation one whole run at a time. The pollers take
their steps in any order; `Invocation.run` takes the pollers one after the other, which is one of
the possible schedules.
-/

namespace Fleet

/-- A poller of an invocation with the buffer in front of the common listener. -/
structure Seat where
  poller : Poller
  buffer : ShardBuffer := {}
  /-- The error that ended the poller's run. -/
  error : Option TaskError := none
  /-- What escaped although nothing may. -/
  escaped : Option Thrown := none
  /-- Whether the poller has left and its buffer is flushed. -/
  closed : Bool := false

namespace Seat

variable {E : Interface}

/-- Send events to the common listener, in order, until it throws. -/
def sendAll : List Event → Work E (Except Thrown Unit)
  | [] => return .ok ()
  | event :: rest => do
    match ← request (.send 0 event) with
    | .ok () => sendAll rest
    | .error thrown => return .error thrown

/-- Let a conversation report through a buffer. -/
def relay {α : Type} (session : Work E α) : StateT ShardBuffer (Session (World E)) α :=
  session.run answer
where
  /-- Events go through the buffer, all other questions pass. -/
  answer : (question : (World E).Question) →
      StateT ShardBuffer (Session (World E)) ((World E).Answer question)
    | .inl (.send _ event) => fun buffer =>
      let (passed, buffer) := buffer.receive event
      do return (← sendAll passed, buffer)
    | question => fun buffer => .ask question fun answer => .done (answer, buffer)

/-- The error a poller's run ended with, if any; a crash is logged. -/
def errorOf (trace : String) : Exit → Work E (Option TaskError)
  | .ok (.ok ()) | .error .other => return none
  | .ok (.error error) => return some error
  | .error (.standard what) => do
    logLine .error trace "shard_runner" "poller_crashed" what
    return some (.internal ("Poller crashed: " ++ what))

/-- Close a seat whose poller has left: note how it ended and flush the buffer. -/
def close (trace : String) (exit : Exit) (seat : Seat) : Work E Seat := do
  let error ← errorOf trace exit
  let (passed, buffer) := seat.buffer.flush
  let flushed ← sendAll passed
  let escaped : Option Thrown :=
    match exit, flushed with
    | .error .other, _ => some .other
    | _, .error thrown => some thrown
    | _, .ok () => none
  return { seat with error, buffer, escaped, closed := true }

end Seat

/-- What a device came to in an invocation. -/
structure ShardStats where
  withdrawn : Nat
  dropped : Nat
  terminatedEarly : Bool
  reportedNotExecuted : Bool
  deriving DecidableEq, Repr

/-- The statistics of a closed seat. -/
def Seat.stats (seat : Seat) : ShardStats where
  withdrawn := seat.poller.withdrawn.length
  dropped := seat.poller.dropped.length
  terminatedEarly := seat.error.isSome
  reportedNotExecuted := seat.poller.reportedNotExecuted

/-- An invocation under way. -/
structure Invocation where
  /-- The invocation's identity, for log lines. -/
  trace : String
  floor : Floor
  /-- One seat per device, in allocation order. -/
  seats : List Seat

namespace Invocation

variable {E : Interface}

/-- Let the poller of a seat take one step, or close the seat once the poller has left. -/
def stepSeat (conducts : Conducts E) (trace : String) (floor : Floor) (seat : Seat) :
    Work E (Floor × Seat) := do
  match seat.poller.exit? with
  | some exit =>
    if seat.closed then return (floor, seat)
    else return (floor, ← seat.close trace exit)
  | none =>
    let (station, buffer) ←
      (Seat.relay (Station.step conducts { poller := seat.poller, floor })).run seat.buffer
    return (station.floor, { seat with poller := station.poller, buffer })

/-- One step of the poller in the given seat. -/
def step (conducts : Conducts E) (index : Nat) (invocation : Invocation) :
    Work E Invocation := do
  match invocation.seats[index]? with
  | none => return invocation
  | some seat =>
    let (floor, seat) ← stepSeat conducts invocation.trace invocation.floor seat
    return { invocation with floor, seats := invocation.seats.set index seat }

/-- Take steps as a schedule says. -/
def play (conducts : Conducts E) : List Nat → Invocation → Work E Invocation
  | [], invocation => return invocation
  | index :: schedule, invocation => do
    play conducts schedule (← invocation.step conducts index)

/-- Let the poller of one seat run until it has left and its seat is closed. -/
def runSeat (conducts : Conducts E) (index : Nat) (invocation : Invocation) :
    Work E Invocation :=
  match invocation.seats[index]? with
  | none => return invocation
  | some seat =>
    let station : Station := { poller := seat.poller, floor := invocation.floor }
    invocation.play conducts (List.replicate (station.budget + 1) index)

/-- Let the pollers run one after the other. -/
def runInTurn (conducts : Conducts E) : List Nat → Invocation → Work E Invocation
  | [], invocation => return invocation
  | index :: rest, invocation => do
    runInTurn conducts rest (← invocation.runSeat conducts index)

/-- The statistics by device serial; of two devices with one serial the later one counts. -/
def stats (invocation : Invocation) : Dict ShardStats :=
  .ofList (invocation.seats.map fun seat => (seat.poller.resources.device.serial, seat.stats))

/-- The error of the poller that was the last one out, if it ended with one. -/
def lastError (invocation : Invocation) : Option TaskError :=
  (invocation.seats.filterMap fun seat =>
    if seat.poller.reportedNotExecuted then seat.error else none).getLast?

/-- What escaped from a poller, if anything did. -/
def escaped (invocation : Invocation) : Option Thrown :=
  invocation.seats.findSome? (·.escaped)

end Invocation

/-- What an invocation is run with. -/
structure InvocationPlan where
  registry : Option TokenRegistry
  recovery : Option RecoveryPolicy
  checkers : List StatusChecker := []
  /-- The collectors each poller gets. -/
  collectors : List Nat := []
  configuration : Option Configuration := none
  /-- In which order the pool gives out units that may be taken in any order. -/
  rank : TestUnit → Nat := WorkPool.asGiven

namespace InvocationPlan

variable {E : Interface}

/-- The pollers of an invocation, one per allocated device. -/
def seats (plan : InvocationPlan) (context : Context) : List Seat :=
  context.allocation.filterMap fun (device, build) => device.map fun device =>
    { poller := .ofResources
        { device, build, configuration := plan.configuration, context := some context,
          deviceInfos := context.allocation, checkers := plan.checkers,
          collectors := plan.collectors, recovery := plan.recovery } }

/-- The invocation before the first step. -/
def start (plan : InvocationPlan) (context : Context) (units : List (Option TestUnit)) :
    Invocation :=
  let generic := units.filter fun unit => unit.any (·.tokens.isEmpty)
  let gated := units.filter fun unit => unit.any (!·.tokens.isEmpty)
  { trace := context.invocationId
    floor :=
      { pool := .ofUnits plan.rank generic gated plan.registry
        running := context.allocation.length }
    seats := plan.seats context }

/-- How an invocation ended: the last poller's error decides. -/
def conclude (invocation : Invocation) : Work E Exit := do
  if let some thrown := invocation.escaped then
    return .error thrown
  match invocation.lastError with
  | some error =>
    logLine .error invocation.trace "shard_runner" "invocation_device_lost"
      ("Last running device was lost: " ++ error.message)
    return .ok (.error error)
  | none => return .ok (.ok ())

/-- Run units on the devices of a context, the pollers one after the other. The statistics are
empty if the invocation could not start. -/
def run (plan : InvocationPlan) (conducts : Conducts E) (context : Option Context)
    (hasListener : Bool) (units : List (Option TestUnit)) : Work E (Exit × Option Invocation) :=
  match context, hasListener with
  | none, _ | _, false =>
    return (.ok (.error (.internal "Context and listener must not be null")), none)
  | some context, true => do
    if context.allocation.isEmpty then
      return (.ok (.error (.configuration "No device allocated for the invocation")), none)
    let units := units.filter (·.isSome)
    let gatedCount := units.countP fun unit => unit.any (!·.tokens.isEmpty)
    logLine .info context.invocationId "shard_runner" "pool_created"
      (toString (units.length - gatedCount) ++ " generic + " ++ toString gatedCount
        ++ " token units over " ++ toString context.allocation.length ++ " devices")
    let invocation := plan.start context units
    let invocation ← invocation.runInTurn conducts (List.range invocation.seats.length)
    let exit ← conclude invocation
    return (exit, some invocation)

end InvocationPlan

end Fleet
