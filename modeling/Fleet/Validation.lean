import Fleet.TestUnit

/-!
# Option validation

A unit is fit to run if each of its mandatory options has a value and each value passes its
option's check. The first fault decides.
-/

namespace Fleet

namespace UnitOption

/-- Why an option of a unit is refused in a scope, if it is; a throwing check throws. -/
def fault (scope unitName : String) (option : UnitOption) : Except Thrown (Option TaskError) :=
  let refuse (code : Int) (message : String) : TaskError :=
    { category := .validation, code, message, origin := unitName,
      details := .ofList [("config", scope), ("option", option.name)] }
  match option.value, option.check with
  | none, _ =>
    .ok <| if option.mandatory then
      some (refuse 301 ("Option '" ++ option.name ++ "' is mandatory but has no value"))
    else none
  | some _, none => .ok none
  | some value, some check => do
    if ← check value then return none
    else return some (refuse 302 ("Option '" ++ option.name ++ "' has invalid value '" ++ value
      ++ "'"))

/-- The first fault among the options of a unit. -/
def firstFault (scope unitName : String) : List UnitOption → Except Thrown (Option TaskError)
  | [] => .ok none
  | option :: rest => do
    match ← option.fault scope unitName with
    | some error => return some error
    | none => firstFault scope unitName rest

end UnitOption

namespace Conduct

variable {E : Interface}

/-- Validate the declared options of a unit in a scope. -/
def validate (conduct : Conduct E) (scope unitName : String) : Except Thrown Outcome := do
  match ← UnitOption.firstFault scope unitName (← conduct.options) with
  | some error => return .error error
  | none => return .ok ()

end Conduct

/-- Validate the options of several units in a scope, up to the first fault. -/
def validateAll {E : Interface} (conducts : Conducts E) (scope : String) :
    List TestUnit → Except Thrown Outcome
  | [] => .ok (.ok ())
  | unit :: rest => do
    match ← (conducts unit).validate scope unit.name with
    | .error error => return .error error
    | .ok () => validateAll conducts scope rest

end Fleet
