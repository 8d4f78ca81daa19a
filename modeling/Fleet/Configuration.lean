import Fleet.Data.Names

/-!
# Configurations

The static description of a module or an invocation, and the binary interface a module targets.
-/

namespace Fleet

/-- The binary interface a module targets. -/
structure Abi where
  /-- The full name. -/
  name : String
  /-- The width of an address, as text. -/
  bitness : String
  deriving DecidableEq, Repr

namespace Abi

/-- Whether the digits of 64 occur next to each other. -/
def mentions64 : List Char → Bool
  | '6' :: '4' :: _ => true
  | _ :: rest => mentions64 rest
  | [] => false

/-- The interface with a given name; it is wide exactly if its name mentions 64. -/
def ofName (name : String) : Abi :=
  { name, bitness := if mentions64 name.toList then "64" else "32" }

end Abi

/-- A configuration scope. -/
structure Configuration where
  /-- The name of the scope. -/
  name : String
  /-- What the scope is for. -/
  description : String
  /-- The module it configures; empty if none. -/
  moduleName : String := ""
  /-- The binary interface of the module. -/
  abi : Option Abi := none
  /-- The capabilities a device needs to run the module. -/
  tokens : Names := .empty
  /-- The controller that decides whether the module runs; without one it does. -/
  controller : Option Nat := none
  deriving DecidableEq

/-- What a module controller decides. -/
inductive RunStrategy where
  /-- Run the module. -/
  | run
  /-- Leave the module out and report nothing. -/
  | fullModuleBypass
  /-- Prepare and clean up, but report every test case as ignored. -/
  | skipModuleTestcases
  deriving DecidableEq, Repr

/-- The printed name of a strategy. -/
def RunStrategy.label : RunStrategy → String
  | run => "RUN"
  | fullModuleBypass => "FULL_MODULE_BYPASS"
  | skipModuleTestcases => "SKIP_MODULE_TESTCASES"

end Fleet
