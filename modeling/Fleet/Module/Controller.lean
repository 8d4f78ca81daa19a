import Fleet.Configuration
import Fleet.Context

/-!
# Module controllers

A module controller decides from the context of a module whether the module runs. It remembers the
context it was asked about last, so that the decision may depend on the module's binary interface.
-/

namespace Fleet

/-- The attribute that holds the name of a module. -/
def moduleNameKey : String := "module-name"

/-- The attribute that holds the name of a module's binary interface. -/
def moduleAbiKey : String := "module-abi"

/-- The attribute that holds the identity of a module. -/
def moduleIdKey : String := "module-id"

/-- A controller and the context it was asked about last. -/
structure ModuleController where
  context : Option Context := none

namespace ModuleController

/-- The binary interface of the module the controller was asked about, if it has one. -/
def abi? (controller : ModuleController) : Option Abi :=
  match controller.context with
  | none => none
  | some context => (context.attributeValues moduleAbiKey).head?.map Abi.ofName

/-- Ask for a decision: `judge` decides, seeing what the controller remembers now. Without a
context a module runs. -/
def evaluate {m : Type → Type} [Monad m] (judge : ModuleController → Context → m RunStrategy)
    (context : Option Context) : m (RunStrategy × ModuleController) := do
  let controller : ModuleController := { context }
  match context with
  | none => return (.run, controller)
  | some context => return (← judge controller context, controller)

end ModuleController

end Fleet
