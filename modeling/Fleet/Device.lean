import Fleet.Data.Dict

/-!
# Devices and builds

What the scheduler knows of a device and of the build under test. Everything a device does is
asked of the outside world.
-/

namespace Fleet

/-- How a device is provided, which decides how it is recovered. -/
inductive DeviceKind where
  /-- Attached hardware. -/
  | physical
  /-- A hosted instance that can be reset in place. -/
  | virtual
  deriving DecidableEq, Repr

/-- The identity of a device. -/
structure Device where
  /-- The serial number. -/
  serial : String
  /-- How the device is provided. -/
  kind : DeviceKind := .physical
  deriving DecidableEq, Repr

/-- The build under test on a device. -/
structure Build where
  /-- The build's identity. -/
  id : String
  deriving DecidableEq, Repr

/-- Devices with their builds, in allocation order; either may be missing. -/
abbrev Allocation := List (Option Device × Option Build)

end Fleet
