import Fleet.Proofs.Crew.Exhaustion
import Fleet.Proofs.Poller.Visits
import Mathlib.Data.List.Basic

/-!
# The rounds of a poller

A poller that has the pool for itself visits one unit after the other until it leaves. What it says
is made of its visits, and its books are kept by them: each unit it withdraws is dropped or run in
the visit it is withdrawn for, and what the last report is about was never visited.
-/

namespace Fleet

variable {E : Interface}

namespace Phase

/-- The phases that follow a visit. -/
inductive Over : Phase → Prop
  | next : Over .seekingGated
  | out {outcome : Outcome} : Over (.leaving (.ok outcome))

end Phase

namespace Station

section Steps

variable {conducts : Conducts E} {resources : Resources} {given : WorkPool}
  {visits : List (Visit E)} {current said : List (Session.Exchange (World E))}
  {drained : List TestUnit} {station next : Station} {unit : TestUnit}

end Steps

section Runs

variable {conducts : Conducts E} {resources : Resources} {given : WorkPool} {floor : Floor}
  {visits : List (Visit E)} {current trace : List (Session.Exchange (World E))}
  {drained : List TestUnit} {station last : Station} {count : Nat}

end Runs

end Station

end Fleet
