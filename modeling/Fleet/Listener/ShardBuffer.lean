import Fleet.Event

/-!
# Shard buffers

Several pollers report to one listener. Each has a buffer that holds back the events of a run
until the outermost run ends and then lets them through as one block, so runs of different
devices never interleave. Log events and events outside of any run pass at once.
-/

namespace Fleet

/-- The events a poller's buffer holds back. -/
structure ShardBuffer where
  /-- Held back events, oldest first. -/
  pending : List Event := []
  /-- How many runs are open. -/
  openRuns : Nat := 0
  deriving DecidableEq

namespace ShardBuffer

/-- Let everything through that is held back, and forget the runs it was held back for. -/
def flush (buffer : ShardBuffer) : List Event × ShardBuffer :=
  if buffer.pending.isEmpty then ([], buffer) else (buffer.pending, {})

/-- Take one event: what passes now, and the buffer after it. -/
def receive (buffer : ShardBuffer) (event : Event) : List Event × ShardBuffer :=
  match event with
  | .runStarted .. =>
    ([], { pending := buffer.pending ++ [event], openRuns := buffer.openRuns + 1 })
  | .runEnded .. =>
    let held : ShardBuffer :=
      { pending := buffer.pending ++ [event], openRuns := buffer.openRuns - 1 }
    if held.openRuns = 0 then held.flush else ([], held)
  | .testLog .. | .logSaved .. => ([event], buffer)
  | _ =>
    if buffer.openRuns = 0 then ([event], buffer)
    else ([], { buffer with pending := buffer.pending ++ [event] })

end ShardBuffer

end Fleet
