import Fleet.Proofs.Calm
import Fleet.WorkPool

/-!
# Steady token providers

Providers are steady in a conversation if what they say depends on the device and the token alone.
Then whether a device is admitted to a unit does not depend on when it is asked.
-/

namespace Fleet

variable {E : Interface} {holds : Device → String → Bool} {device : Device}
  {trace : List (Session.Exchange (World E))} {answer : Bool}

/-- In this exchange, no provider of the registry contradicts `holds`. -/
def TokenRegistry.Agrees (registry : TokenRegistry) (holds : Device → String → Bool)
    (exchange : Session.Exchange (World E)) : Prop :=
  match exchange.question, exchange.answer with
  | .inl (.holdsToken id device token), answer =>
    registry.providerFor token = some (.external id) → answer = holds device token
  | .inl (.property device key), answer =>
    ∀ token provider, registry.providerFor token = some (.property provider) →
      provider.property = key → provider.accepts answer = holds device token
  | _, _ => True

/-- Throughout the conversation, a device is found to hold exactly the tokens that `holds` says. -/
def Steady (registry : Option TokenRegistry) (holds : Device → String → Bool)
    (trace : List (Session.Exchange (World E))) : Prop :=
  ∀ known ∈ registry, ∀ exchange ∈ trace, known.Agrees holds exchange

/-- The device satisfies a set of tokens: there are none, or each has a provider and is held. -/
def Satisfies (registry : Option TokenRegistry) (holds : Device → String → Bool) (device : Device)
    (tokens : Names) : Prop :=
  tokens.isEmpty ∨
    ∃ known ∈ registry, ∀ token ∈ tokens.toList,
      (known.providerFor token).isSome ∧ holds device token

/-- A device that is found to hold the same tokens throughout a conversation is found so in each
part of it. -/
theorem Steady.subset {registry : Option TokenRegistry}
    {part : List (Session.Exchange (World E))} (h : Steady registry holds trace)
    (hpart : part ⊆ trace) : Steady registry holds part :=
  fun known hknown exchange hexchange => h known hknown exchange (hpart hexchange)

/-- An obliging world is steady if no token is looked up as a property. -/
theorem steady_converse_obligingWorld {registry : Option TokenRegistry} {α : Type}
    (hexternal : ∀ known ∈ registry, ∀ token provider,
      known.providerFor token ≠ some (.property provider))
    (errand : (question : E.Question) → E.Answer question) (session : Work E α) :
    Steady registry holds (session.converse (Session.obligingWorld holds errand)).1 := by
  intro known hknown
  induction session with
  | done result => simp [Session.converse]
  | ask question next ih =>
    refine List.forall_mem_cons.mpr ⟨?_, ih _⟩
    rcases question with question | question
    · cases question with
      | holdsToken id device token => exact fun _ => rfl
      | property device key => exact fun token provider h => absurd h (hexternal known hknown _ _)
      | _ => trivial
    · trivial

namespace TokenRegistry

variable {registry : TokenRegistry}

private theorem providerFor_register (token other : String) (provider : Option TokenProvider) :
    (registry.register token provider).providerFor other =
      if other = token then provider else registry.providerFor other := by
  rw [providerFor, register, Dict.get?_insert]
  split <;> rfl

/-- In a registry with one provider outside, no token is looked up as a property. -/
theorem external_of_register {token : String} {id : Nat} :
    ∀ known ∈ some (register {} token (some (.external id))), ∀ other provider,
      known.providerFor other ≠ some (.property provider) := by
  rintro known hknown other provider hprovider
  obtain rfl := Option.some.inj hknown
  rw [providerFor_register] at hprovider
  split at hprovider <;> cases hprovider

/-- A provider that agrees with `holds` answers as `holds` says. -/
theorem holds_of_agrees {token : String} {provider : TokenProvider}
    (hprovider : registry.providerFor token = some provider)
    (hpath : (provider.holds device token).Path trace answer)
    (hagrees : ∀ exchange ∈ trace, registry.Agrees holds exchange) :
    answer = holds device token := by
  cases provider with
  | property provider =>
    rw [TokenProvider.holds] at hpath
    obtain ⟨value, asked, rest, rfl, hasked, hpath⟩ := Session.path_seq.mp hpath
    obtain ⟨rfl, rfl⟩ := Session.path_pure.mp hpath
    obtain rfl := Flow.path_request.mp hasked
    exact hagrees _ List.mem_cons_self token provider hprovider rfl
  | external id =>
    obtain rfl := Flow.path_request.mp hpath
    exact hagrees _ List.mem_cons_self hprovider

private theorem supportsAll_of_agrees {tokens : List String}
    (hpath : (registry.supportsAll device tokens).Path trace answer)
    (hagrees : ∀ exchange ∈ trace, registry.Agrees holds exchange) :
    answer = true ↔
      ∀ token ∈ tokens, (registry.providerFor token).isSome ∧ holds device token := by
  induction tokens generalizing trace with
  | nil =>
    obtain ⟨rfl, rfl⟩ := Session.path_pure.mp hpath
    simp
  | cons token rest ih =>
    rw [supportsAll] at hpath
    split at hpath
    · rename_i hnone
      obtain ⟨-, logged, after, rfl, -, hpath⟩ := Session.path_seq.mp hpath
      obtain ⟨-, rfl⟩ := Session.path_pure.mp hpath
      simp [hnone]
    · rename_i provider hprovider
      obtain ⟨held, asked, after, rfl, hasked, hpath⟩ := Session.path_seq.mp hpath
      obtain ⟨hfirst, hrest⟩ := List.forall_mem_append.mp hagrees
      have hheld := holds_of_agrees hprovider hasked hfirst
      cases held with
      | true =>
        rw [if_pos rfl] at hpath
        simp [ih hpath hrest, hprovider, ← hheld]
      | false =>
        rw [if_neg (by simp)] at hpath
        obtain ⟨-, rfl⟩ := Session.path_pure.mp hpath
        simp [← hheld]

end TokenRegistry

/-- With steady providers a device is admitted exactly if it satisfies the tokens. -/
theorem WorkPool.admits_iff_satisfies {registry : Option TokenRegistry} {tokens : Names}
    (hpath : (admits registry device tokens).Path trace answer)
    (hsteady : Steady registry holds trace) :
    answer = true ↔ Satisfies registry holds device tokens := by
  unfold admits at hpath
  by_cases hempty : tokens.isEmpty
  · rw [if_pos hempty] at hpath
    obtain ⟨-, rfl⟩ := Session.path_pure.mp hpath
    simp [Satisfies, hempty]
  · rw [if_neg hempty] at hpath
    cases registry with
    | none =>
      obtain ⟨-, rfl⟩ := Session.path_pure.mp hpath
      simp [Satisfies, hempty]
    | some known =>
      have hagrees := hsteady known rfl
      simp [TokenRegistry.supportsAll_of_agrees hpath hagrees, Satisfies, hempty]

end Fleet
