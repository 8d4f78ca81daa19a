import Fleet.Data.Fields
import Fleet.Outside

/-!
# Tokens

A token is a capability a device may hold, such as an inserted SIM card. The registry says which
provider evaluates a token; a device supports a set of tokens if every one of them has a provider
and each provider finds the device to hold it.
-/

namespace Fleet

/-- Finds a token held if one of the comma-separated parts of a device property is accepted. A
device with several slots reports one part for each. -/
structure PropertyProvider where
  /-- The property looked up. -/
  property : String
  /-- The accepted parts. -/
  accepted : Names
  deriving DecidableEq

/-- Whether a property value, if there is one, has an accepted part. -/
def PropertyProvider.accepts (provider : PropertyProvider) (value : Option String) : Bool :=
  value.any fun value => (commaFields value).any provider.accepted.contains

/-- Where the first comma stands from a position on. -/
def commaFrom (text : List Char) (start : Nat) : Option Nat :=
  ((text.drop start).findIdx? (· = ',')).map (start + ·)

/-- The part of a text from one position up to another. There is none if the text ends before the
first position. -/
def slice? (text : List Char) (start stop : Nat) : Option (List Char) :=
  if start ≤ text.length then some ((text.drop start).take (stop - start)) else none

/-- A comma that is found stands at the position or behind it, inside the text. -/
theorem lt_of_commaFrom {text : List Char} {start stop : Nat}
    (h : commaFrom text start = some stop) : start ≤ stop ∧ stop < text.length := by
  obtain ⟨length, hlength, rfl⟩ := Option.map_eq_some_iff.mp h
  obtain ⟨hinside, -⟩ := List.findIdx?_eq_some_iff_getElem.mp hlength
  rw [List.length_drop] at hinside
  omega

/-- Look for an accepted part of a text from a position on, as a provider that visits the parts in
place does; a search that leaves the text has no result. -/
def PropertyProvider.search (provider : PropertyProvider) (text : List Char) (start : Nat) :
    Option Bool :=
  match h : commaFrom text start with
  | none => do
    let part ← slice? text start text.length
    return provider.accepted.contains (String.ofList part)
  | some stop => do
    let part ← slice? text start stop
    if provider.accepted.contains (String.ofList part) then return true
    else provider.search text (stop + 1)
termination_by text.length - start
decreasing_by
  have := lt_of_commaFrom h
  omega

/-- Who evaluates a token. -/
inductive TokenProvider where
  /-- A device property. -/
  | property (provider : PropertyProvider)
  /-- A provider of the outside world. -/
  | external (id : Nat)
  deriving DecidableEq

/-- Whether a device holds a token, as far as this provider can tell. -/
def TokenProvider.holds {E : Interface} (provider : TokenProvider) (device : Device)
    (token : String) : Work E Bool :=
  match provider with
  | .property provider => do
    return provider.accepts (← request (.property device provider.property))
  | .external id => request (.holdsToken id device token)

/-- The provider registered for each token; a token may be registered without one. -/
structure TokenRegistry where
  providers : Dict (Option TokenProvider) := .empty
  deriving DecidableEq

namespace TokenRegistry

variable {E : Interface}

/-- Register a provider for a token, replacing an earlier one. -/
def register (registry : TokenRegistry) (token : String) (provider : Option TokenProvider) :
    TokenRegistry :=
  { providers := registry.providers.insert token provider }

/-- The provider of a token. -/
def providerFor (registry : TokenRegistry) (token : String) : Option TokenProvider :=
  (registry.providers.get? token).join

/-- Whether a device holds every token of a list. The first token that is not held decides, and
a token without provider is an error in the configuration of the fleet. -/
def supportsAll (registry : TokenRegistry) (device : Device) : List String → Work E Bool
  | [] => return true
  | token :: rest =>
    match registry.providerFor token with
    | none => do
      logLine .error device.serial "token_registry" "missing_provider"
        ("No provider for token " ++ token)
      return false
    | some provider => do
      if ← provider.holds device token then registry.supportsAll device rest else return false

/-- Whether a device holds every token of a set. -/
def supports (registry : TokenRegistry) (device : Device) (tokens : Names) : Work E Bool :=
  registry.supportsAll device tokens.toList

end TokenRegistry

/-- The token of an inserted SIM card. -/
def simCardToken : String := "sim-card"

/-- The property with one SIM state for each slot. -/
def simStateProperty : String := "gsm.sim.state"

/-- The provider of the SIM card token: some slot is ready or loaded. -/
def simCardProvider : PropertyProvider :=
  { property := simStateProperty, accepted := .ofList ["READY", "LOADED"] }

/-- Register the providers every fleet knows. -/
def TokenRegistry.withBuiltins (registry : TokenRegistry) : TokenRegistry :=
  registry.register simCardToken (some (.property simCardProvider))

end Fleet
