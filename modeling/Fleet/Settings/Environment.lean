import Fleet.Data.Fields
import Fleet.Data.Names
import Fleet.Data.Dict
import Fleet.Outside
import Fleet.Settings.Number

/-!
# Settings in the environment

Reading single values out of the environment. A number counts exactly if it is written as
`number?` has it and is positive, or zero where zero is allowed; any other text is warned about
and the fallback counts. A list is cut at commas, trimmed, and freed of blank parts.
-/

namespace Fleet

/-- The variables of the environment. -/
abbrev Environment := Dict String

namespace Settings

/-- Whether a number is in the range of a setting. -/
def inRange (allowZero : Bool) (value : Int) : Bool :=
  if allowZero then value ≥ 0 else value > 0

/-- The accepted value of a text, if it is accepted. -/
def accepted? (allowZero : Bool) (raw : String) : Option Int :=
  (number? raw).filter (inRange allowZero)

/-- The warning about a text that is not accepted. -/
def invalidValue (name raw : String) (fallback : Int) : LogEntry where
  level := .warn
  trace := "startup"
  component := "config"
  event := "config_invalid"
  message := "Invalid value for " ++ name ++ "=" ++ raw ++ ", fallback=" ++ toString fallback

/-- The number a variable is set to, and a warning if its text is not accepted. A variable that is
missing or empty is not worth a warning. -/
def integer (environment : Environment) (name : String) (fallback : Int) (allowZero : Bool) :
    Int × Option LogEntry :=
  match environment.get? name with
  | none | some "" => (fallback, none)
  | some raw =>
    match accepted? allowZero raw with
    | some value => (value, none)
    | none => (fallback, some (invalidValue name raw fallback))

/-- Whether a character is trimmed off the parts of a list. -/
def isPadding (c : Char) : Bool :=
  c = ' ' || c = '\t'

/-- A text without the padding around it. -/
def trimmed (text : List Char) : List Char :=
  ((text.dropWhile isPadding).reverse.dropWhile isPadding).reverse

/-- The parts of a text, trimmed, without the blank ones. -/
def listParts (text : String) : List String :=
  (((fieldsOf ',' text.toList).map trimmed).filter (!·.isEmpty)).map String.ofList

/-- The names a variable lists. -/
def names (environment : Environment) (name : String) : Names :=
  match environment.get? name with
  | none => .empty
  | some raw => .ofList (listParts raw)

/-- The text of a variable that is set to something. -/
def text? (environment : Environment) (name : String) : Option String :=
  (environment.get? name).filter (!·.isEmpty)

end Settings

end Fleet
