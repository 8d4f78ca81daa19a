import Fleet.Main
import Fleet.Proofs.Allocation
import Fleet.Proofs.Cloud.Availability
import Fleet.Proofs.Cloud.Instances
import Fleet.Proofs.Crew.Chains
import Fleet.Proofs.Crew.Containment
import Fleet.Proofs.Crew.FinalReport
import Fleet.Proofs.Crew.Losses
import Fleet.Proofs.Crew.Rounds
import Fleet.Proofs.Invocation.Leftovers
import Fleet.Proofs.Invocation.OpenRuns
import Fleet.Proofs.Invocation.Reasons
import Fleet.Proofs.Invocation.Result
import Fleet.Proofs.Listener.Collectors
import Fleet.Proofs.Listener.Shards
import Fleet.Proofs.LogFiles
import Fleet.Proofs.Module.Allowlist
import Fleet.Proofs.Module.Failures
import Fleet.Proofs.Module.Fidelity
import Fleet.Proofs.Module.OpenCase
import Fleet.Proofs.Module.PartialRuns
import Fleet.Proofs.Module.Replay
import Fleet.Proofs.Module.Report
import Fleet.Proofs.Module.Skipping
import Fleet.Proofs.Pool.Dispatch
import Fleet.Proofs.Pool.Gating
import Fleet.Proofs.Settings.Lists
import Fleet.Proofs.Settings.Loading
import Fleet.Proofs.Sim.Accounting
import Fleet.Proofs.Sim.Verdicts
import Fleet.Proofs.Slots
import Fleet.Proofs.StateMachines
import Fleet.Rehearsal.Casting
import Fleet.Rehearsal.Disk
import Fleet.Rehearsal.Transcript
