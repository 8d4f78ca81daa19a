import Fleet.Device

/-!
# Invocation contexts

The devices, builds and free-form attributes of one invocation, or of one module inside it.
Devices and builds are filed under names; the listing of the names keeps the order in which they
were first allocated.
-/

namespace Fleet

/-- What an invocation, or a module inside it, has been given. -/
structure Context where
  /-- The invocation's identity. -/
  invocationId : String := ""
  /-- The device held under each allocated name, in order of first allocation. -/
  allocated : List (String × Option Device) := []
  /-- The build filed under each name, allocated or not. -/
  builds : Dict (Option Build) := .empty
  /-- The values of each attribute, in order of arrival. -/
  attributes : Dict (List String) := .empty
  deriving DecidableEq

namespace Context

/-- Rebind a name in an allocation list, keeping its place; a new name goes to the end. -/
def allocate (name : String) (device : Option Device) :
    List (String × Option Device) → List (String × Option Device)
  | [] => [(name, device)]
  | (other, held) :: rest =>
    if other = name then (name, device) :: rest
    else (other, held) :: allocate name device rest

/-- Hold a device under a name; a later device replaces an earlier one in its place. -/
def addDevice (context : Context) (name : String) (device : Option Device) : Context :=
  { context with allocated := allocate name device context.allocated }

/-- File a build under a name. -/
def addBuild (context : Context) (name : String) (build : Option Build) : Context :=
  { context with builds := context.builds.insert name build }

/-- Add a value to an attribute unless it is there already. -/
def addAttribute (context : Context) (key value : String) : Context :=
  let add (present : Option (List String)) : List String :=
    let values := present.getD []
    if values.contains value then values else values ++ [value]
  { context with attributes := context.attributes.alter key add }

/-- The allocated names in order of first allocation. -/
def deviceNames (context : Context) : List String :=
  context.allocated.map Prod.fst

/-- The device held under a name. -/
def device (context : Context) (name : String) : Option Device :=
  (context.allocated.lookup name).join

/-- The build filed under a name. -/
def build (context : Context) (name : String) : Option Build :=
  (context.builds.get? name).join

/-- The held devices in allocation order. -/
def devices (context : Context) : List (Option Device) :=
  context.allocated.map Prod.snd

/-- The held devices with their builds, in allocation order. -/
def allocation (context : Context) : Allocation :=
  context.allocated.map fun (name, device) => (device, context.build name)

/-- The build filed with a device: that of the least name holding the device. -/
def buildFor (context : Context) (device : Option Device) : Option Build :=
  let byName := Dict.ofList context.allocated
  match byName.entries.find? fun entry => entry.2 = device with
  | some (name, _) => context.build name
  | none => none

/-- The values of an attribute. -/
def attributeValues (context : Context) (key : String) : List String :=
  (context.attributes.get? key).getD []

end Context

end Fleet
