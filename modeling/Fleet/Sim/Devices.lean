import Fleet.Token

/-!
# Simulated devices

Devices that exist only in the program. Every other one has a SIM card. A device can be made to
drop once: the next unit that looks finds it lost.
-/

namespace Fleet.Sim

/-- A simulated device. -/
structure SimDevice where
  serial : String
  properties : Dict String := .empty
  /-- Whether it drops when a unit next looks. -/
  dropping : Bool := false
  deriving DecidableEq

namespace SimDevice

/-- The device with a number. -/
def numbered (number : Nat) : SimDevice where
  serial := "sim-" ++ toString number
  properties :=
    Dict.empty.insert simStateProperty (if number % 2 = 0 then "READY" else "ABSENT")

/-- What the scheduler sees of it. -/
def device (sim : SimDevice) : Device :=
  { serial := sim.serial }

end SimDevice

/-- A number of devices; a negative number stands for none. -/
def devices (count : Int) : List SimDevice :=
  (List.range count.toNat).map .numbered

/-- The devices, with the last one about to drop if there is another that could take over. -/
def withDrop (devices : List SimDevice) : List SimDevice :=
  if devices.length > 1 then devices.modify (devices.length - 1) ({ · with dropping := true })
  else devices

end Fleet.Sim
