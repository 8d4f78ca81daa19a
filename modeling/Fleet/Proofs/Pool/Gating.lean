import Fleet.Proofs.Pool.Exhaustion

/-!
# Gating by tokens

A look through the gated units asks about each unit the device has not turned down before, until one
is found that the device may take. Over any calls, no unit is looked at twice for one serial, and
what is on record about the units left are exactly the looks that were in vain.
-/

namespace Fleet

variable {E : Interface} {registry : Option TokenRegistry} {device : Device} {tokens : Names}
  {trace : List (Session.Exchange (World E))}

/-- The provider has said in the conversation that the device holds the token. -/
def TokenProvider.Affirmed (provider : TokenProvider) (device : Device) (token : String)
    (trace : List (Session.Exchange (World E))) : Prop :=
  match provider with
  | .property provider => ∃ value : Option String, provider.accepts value = true ∧
      ⟨.inl (.property device provider.property), value⟩ ∈ trace
  | .external id => ⟨.inl (.holdsToken id device token), true⟩ ∈ trace

/-- No tokens are required, or each has a provider that has said that the device holds it. -/
def Entitled (registry : Option TokenRegistry) (device : Device) (tokens : Names)
    (trace : List (Session.Exchange (World E))) : Prop :=
  tokens.isEmpty ∨ ∃ known ∈ registry, ∀ token ∈ tokens.toList, ∃ provider,
    known.providerFor token = some provider ∧ provider.Affirmed device token trace

private theorem TokenProvider.Affirmed.mono {provider : TokenProvider} {token : String}
    {part : List (Session.Exchange (World E))} (h : provider.Affirmed device token part)
    (hpart : part ⊆ trace) : provider.Affirmed device token trace := by
  cases provider with
  | property provider =>
    obtain ⟨value, haccepts, hmem⟩ := h
    exact ⟨value, haccepts, hpart hmem⟩
  | external id => exact hpart h

private theorem Entitled.mono {part : List (Session.Exchange (World E))}
    (h : Entitled registry device tokens part) (hpart : part ⊆ trace) :
    Entitled registry device tokens trace := by
  refine h.imp_right ?_
  rintro ⟨known, hknown, hall⟩
  refine ⟨known, hknown, fun token htoken => ?_⟩
  obtain ⟨provider, hprovider, haffirmed⟩ := hall token htoken
  exact ⟨provider, hprovider, haffirmed.mono hpart⟩

private theorem TokenProvider.affirmed_of_holds {provider : TokenProvider} {token : String}
    (h : (provider.holds device token).Path trace true) :
    provider.Affirmed device token trace := by
  cases provider with
  | property provider =>
    obtain ⟨value, asked, rest, rfl, hasked, hdone⟩ := Session.path_seq.mp h
    obtain ⟨rfl, haccepts⟩ := Session.path_pure.mp hdone
    obtain rfl := Flow.path_request.mp hasked
    exact ⟨value, haccepts.symm, by simp⟩
  | external id =>
    obtain rfl := Flow.path_request.mp h
    exact List.mem_cons_self

private theorem TokenRegistry.affirmed_of_supportsAll {known : TokenRegistry} {names : List String}
    (h : (known.supportsAll device names).Path trace true) :
    ∀ token ∈ names, ∃ provider, known.providerFor token = some provider ∧
      provider.Affirmed device token trace := by
  induction names generalizing trace with
  | nil => simp
  | cons token rest ih =>
    rw [supportsAll] at h
    split at h
    · obtain ⟨-, logged, after, rfl, -, hdone⟩ := Session.path_seq.mp h
      cases (Session.path_pure.mp hdone).2
    · rename_i provider hprovider
      obtain ⟨held, asked, after, rfl, hasked, hrest⟩ := Session.path_seq.mp h
      cases held with
      | false => cases (Session.path_pure.mp hrest).2
      | true =>
        refine List.forall_mem_cons.mpr ⟨⟨provider, hprovider, ?_⟩, fun other hother => ?_⟩
        · exact (TokenProvider.affirmed_of_holds hasked).mono (List.subset_append_left _ _)
        · obtain ⟨provider, hprovider, haffirmed⟩ := ih hrest other hother
          exact ⟨provider, hprovider, haffirmed.mono (List.subset_append_right _ _)⟩

namespace WorkPool

/-- A device is admitted only if it is entitled to. -/
theorem entitled_of_admits (h : (admits registry device tokens).Path trace true) :
    Entitled registry device tokens trace := by
  unfold admits at h
  split at h
  · exact .inl ‹_›
  · cases registry with
    | none => cases (Session.path_pure.mp h).2
    | some known => exact .inr ⟨known, rfl, TokenRegistry.affirmed_of_supportsAll h⟩

/-- Which unit is looked at for whom. -/
def Look.subject (look : Look) : TestUnit × String :=
  (look.unit, look.serial)

namespace Looks

variable {units : List TestUnit} {rejections marked : Rejections} {looks : List Look}
  {found : Option TestUnit} {unit : TestUnit}

/-- The answer to each look is asked for in the conversation, without a break. -/
theorem heard (h : Looks registry device units rejections trace looks found marked) :
    ∀ look ∈ looks, look.serial = device.serial ∧ ∃ part, part <:+: trace ∧
      (admits registry device look.unit.tokens).Path part look.admitted := by
  induction h with
  | nothing => simp
  | known _ _ ih => exact ih
  | admitted _ hasked =>
    simpa using ⟨_, List.infix_refl _, hasked⟩
  | refused _ hasked _ ih =>
    refine List.forall_mem_cons.mpr ⟨⟨rfl, _, (List.prefix_append _ _).isInfix, hasked⟩, ?_⟩
    intro look hlook
    obtain ⟨hserial, part, hpart, hpath⟩ := ih look hlook
    refine ⟨hserial, part, hpart.trans ?_, hpath⟩
    exact (List.suffix_append_of_suffix (List.suffix_cons _ _)).isInfix

/-- What the device turned down is on record. -/
theorem marked_eq (h : Looks registry device units rejections trace looks found marked) :
    marked = rejections.markAll device.serial ((looks.filter (!·.admitted)).map Look.unit) := by
  induction h with
  | nothing => rfl
  | known _ _ ih => exact ih
  | admitted _ _ => rfl
  | refused _ _ _ ih => exact ih

/-- Which looks were in vain. -/
theorem mem_vain (h : Looks registry device units rejections trace looks found marked)
    {serial : String} : Look.vain serial unit ∈ looks ↔
      serial = device.serial ∧ unit ∈ (looks.filter (!·.admitted)).map Look.unit := by
  simp only [List.mem_map, List.mem_filter]
  constructor
  · intro hmem
    exact ⟨(h.heard _ hmem).1, _, ⟨hmem, rfl⟩, rfl⟩
  · rintro ⟨rfl, ⟨_, serial, admitted⟩, ⟨hmem, hnot⟩, rfl⟩
    obtain rfl := (h.heard _ hmem).1
    obtain rfl : admitted = false := by simpa using hnot
    exact hmem

/-- The units in front of the one found, or all units, are passed over: those not turned down before
are looked at in vain, each once. -/
theorem looks_eq (h : Looks registry device units rejections trace looks found marked)
    (hnodup : units.Nodup) :
    ∃ front back, units = front ++ found.toList ++ back ∧ (found = none → back = []) ∧
      (∀ unit ∈ found, (rejections.serialsOf unit).contains device.serial = false) ∧
      looks = (front.filter fun unit =>
          !(rejections.serialsOf unit).contains device.serial).map (.vain device.serial) ++
        found.toList.map (⟨·, device.serial, true⟩) := by
  induction h with
  | nothing => exact ⟨[], [], rfl, fun _ => rfl, nofun, rfl⟩
  | @known unit rest rejections marked trace looks found hknown _ ih =>
    obtain ⟨front, back, rfl, hback, hfound, rfl⟩ := ih (List.nodup_cons.mp hnodup).2
    exact ⟨unit :: front, back, rfl, hback, hfound, by simp [hknown]⟩
  | @admitted unit rest rejections asked hunknown hasked =>
    refine ⟨[], rest, rfl, nofun, ?_, rfl⟩
    rintro _ ⟨⟩
    exact hunknown
  | @refused unit rest rejections marked asked trace looks found hunknown _ _ ih =>
    obtain ⟨hnew, hrest⟩ := List.nodup_cons.mp hnodup
    obtain ⟨front, back, rfl, hback, hfound, rfl⟩ := ih hrest
    -- Marking the head changes nothing about the units behind it.
    have hsame : ∀ other ∈ front ++ found.toList ++ back,
        (rejections.mark unit device.serial).serialsOf other = rejections.serialsOf other := by
      intro other hother
      rw [Rejections.serialsOf_mark, if_neg]
      rintro rfl
      exact hnew hother
    refine ⟨unit :: front, back, rfl, hback, ?_, ?_⟩
    · intro other hother
      rw [← hsame other (by simp [Option.mem_toList.mpr hother])]
      exact hfound other hother
    · have hfilter : (front.filter fun other =>
          !((rejections.mark unit device.serial).serialsOf other).contains device.serial) =
          front.filter fun other => !(rejections.serialsOf other).contains device.serial :=
        List.filter_congr fun other hother => by rw [hsame other (by simp [hother])]
      simp [hunknown, hfilter]

end Looks

variable {pool mid rest : WorkPool} {found : Option TestUnit} {looks past : List Look}
  {call : Call} {calls : List Call}

/-- These looks are what a call comes to in the conversation. Only a device that polls looks at
gated units. -/
def Call.LooksAt (pool : WorkPool) (trace : List (Session.Exchange (World E)))
    (looks : List Look) : Call → Prop
  | .poll device | .pollGated device true => ∃ found marked,
      Looks pool.registry device pool.gated pool.rejections trace looks found marked
  | _ => looks = []

/-- The looks in a conversation in which a pool answers calls, in order. -/
inductive Looked : WorkPool → List Call → List (Session.Exchange (World E)) → List Look →
    WorkPool → Prop where
  | nothing {pool : WorkPool} : Looked pool [] [] [] pool
  | call {pool mid rest : WorkPool} {call : Call} {calls : List Call} {found : Option TestUnit}
      {before after : List (Session.Exchange (World E))} {now later : List Look}
      (hanswer : (pool.answer call).Path before (found, mid))
      (hlooks : call.LooksAt pool before now) (hrest : Looked mid calls after later rest) :
      Looked pool (call :: calls) (before ++ after) (now ++ later) rest

/-- What the looks of a call leave behind: they are at gated units that were not turned down before,
each once; a unit found admitted leaves the pool, and what is new on record about the units left are
the looks in vain. -/
structure Advances (pool : WorkPool) (looks : List Look) (rest : WorkPool) : Prop where
  wellFormed : rest.WellFormed
  gated : rest.gated ⊆ pool.gated
  subjects : (looks.map Look.subject).Nodup
  fresh : ∀ look ∈ looks, look.unit ∈ pool.gated ∧
    (pool.rejectedBy look.unit).contains look.serial = false
  taken : ∀ look ∈ looks, look.admitted = true → look.unit ∉ rest.gated
  onRecord : ∀ unit ∈ rest.gated, ∀ serial, (rest.rejectedBy unit).contains serial ↔
    (pool.rejectedBy unit).contains serial ∨ .vain serial unit ∈ looks

/-- A call that looks at nothing leaves the record of the units left as it is. -/
theorem Serves.advances {returned : List TestUnit} (h : pool.Serves returned rest)
    (hrecord : ∀ unit ∈ rest.gated, rest.rejectedBy unit = pool.rejectedBy unit) :
    pool.Advances [] rest where
  wellFormed := h.wellFormed
  gated := h.gated.subset
  subjects := .nil
  fresh := by simp
  taken := by simp
  onRecord unit hunit serial := by simp [hrecord unit hunit]

private theorem Advances.pollGeneric (h : pool.Advances looks rest) :
    pool.Advances looks rest.pollGeneric.2 := by
  have hformed := h.wellFormed.withdraws_pollGeneric.wellFormed
  obtain ⟨-, hgated, hsubjects, hfresh, htaken, honRecord⟩ := h
  rw [WorkPool.pollGeneric] at hformed ⊢
  split at hformed
  · exact ⟨hformed, hgated, hsubjects, hfresh, htaken, honRecord⟩
  · exact ⟨hformed, hgated, hsubjects, hfresh, htaken, honRecord⟩

/-- At most one unit is taken out of the pool, without a look at it. -/
def Leaves (pool rest : WorkPool) : Prop :=
  rest = pool ∨ (∃ unit, rest = pool.eraseGated unit) ∨ rest = pool.pollGeneric.2

private theorem leaves_pollAnyGated : pool.Leaves pool.pollAnyGated.2 := by
  rw [pollAnyGated]
  split
  · exact .inl rfl
  · rename_i unit _ _
    exact .inr (.inl ⟨unit, rfl⟩)

/-- To drain a rejected unit takes no more than that unit, if any, out of the pool. -/
theorem leaves_drainRejected : pool.Leaves pool.drainRejected.2 := by
  rw [drainRejected]
  split
  · exact .inl rfl
  · rename_i unit _
    exact .inr (.inl ⟨unit, rfl⟩)

/-- To drain a remaining unit takes no more than that unit, if any, out of the pool. -/
theorem leaves_drainRemaining : pool.Leaves pool.drainRemaining.2 := by
  rw [drainRemaining, pollAnyGated]
  cases pool.gated with
  | nil => exact .inr (.inr rfl)
  | cons unit _ => exact .inr (.inl ⟨unit, rfl⟩)

/-- What a call comes to that looks at nothing. -/
theorem advances_pure {answer : Option TestUnit × WorkPool}
    (hwithdraws : pool.Withdraws answer.1 answer.2)
    (hleaves : pool.Leaves answer.2)
    (hanswer : (pure answer : Work E _).Path trace (found, rest)) : pool.Advances [] rest := by
  obtain ⟨-, rfl⟩ := Session.path_pure.mp hanswer
  refine hwithdraws.advances fun unit hunit => ?_
  rcases hleaves with hsame | ⟨erased, herased⟩ | hgeneric
  · exact congrArg (·.rejectedBy unit) hsame
  · rw [herased] at hunit ⊢
    exact rejectedBy_eraseGated hunit
  · rw [hgeneric, WorkPool.pollGeneric]
    split <;> rfl

namespace WellFormed

/-- A poll for a gated unit leaves behind what its looks say. -/
theorem advances_pollGated (h : pool.WellFormed) {seen : Option TestUnit} {marked : Rejections}
    (hlooks : Looks pool.registry device pool.gated pool.rejections trace looks seen marked)
    (hpoll : (pool.pollGated device).Path trace (found, rest)) : pool.Advances looks rest := by
  have hserves := h.withdraws_pollGated hpoll
  obtain ⟨recorded, hseek, rfl⟩ := path_pollGated.mp hpoll
  obtain ⟨rfl, rfl⟩ := Prod.mk.inj ((path_seekAdmitted.mpr ⟨looks, hlooks⟩).unique hseek)
  obtain ⟨front, back, hgated, -, hfound, rfl⟩ := hlooks.looks_eq h.gated_nodup
  have hnodup : (front ++ seen.toList ++ back).Nodup := hgated ▸ h.gated_nodup
  refine ⟨hserves.wellFormed, hserves.gated.subset, ?_, ?_, ?_, ?_⟩
  · have hunits : (front ++ seen.toList).Nodup := (List.nodup_append.mp hnodup).1
    have hsubjects : ((front.filter fun unit =>
          !(pool.rejections.serialsOf unit).contains device.serial) ++ seen.toList).Nodup :=
      (List.filter_sublist.append_right _).nodup hunits
    have hmapped := List.Pairwise.map (S := (· ≠ ·)) (·, device.serial)
      (fun _ _ hne hsame => hne (congrArg Prod.fst hsame)) hsubjects
    simpa [Function.comp_def, Look.subject, Look.vain, List.Nodup] using hmapped
  · intro look hlook
    rcases List.mem_append.mp hlook with hlook | hlook
    · obtain ⟨unit, hunit, rfl⟩ := List.mem_map.mp hlook
      obtain ⟨hfront, hnew⟩ := List.mem_filter.mp hunit
      have hfree : (pool.rejections.serialsOf unit).contains device.serial = false := by
        simpa using hnew
      refine ⟨?_, hfree⟩
      rw [Look.vain, hgated]
      simp [hfront]
    · obtain ⟨unit, hunit, rfl⟩ := List.mem_map.mp hlook
      refine ⟨?_, hfound unit (Option.mem_toList.mp hunit)⟩
      rw [hgated]
      simp [Option.mem_toList.mp hunit]
  · intro look hlook hadmitted
    rcases List.mem_append.mp hlook with hlook | hlook
    · obtain ⟨unit, -, rfl⟩ := List.mem_map.mp hlook
      cases hadmitted
    · obtain ⟨unit, hunit, rfl⟩ := List.mem_map.mp hlook
      obtain rfl := Option.mem_toList.mp hunit
      simp [eraseGated]
  · intro unit hunit serial
    let record : WorkPool := { pool with rejections := marked }
    have hrecord : (seen.elim record record.eraseGated).rejectedBy unit = record.rejectedBy unit :=
      rejectedBy_withdrawn hunit
    have hrejections : record.rejections = _ := hlooks.marked_eq
    rw [hrecord, hlooks.mem_vain, rejectedBy, hrejections]
    exact Rejections.contains_serialsOf_markAll

/-- Every call leaves behind what its looks say. -/
theorem advances_answer (h : pool.WellFormed) (hlooks : call.LooksAt pool trace looks)
    (hanswer : (pool.answer call).Path trace (found, rest)) : pool.Advances looks rest := by
  cases call with
  | poll device =>
    obtain ⟨seen, marked, hlooks⟩ := hlooks
    obtain ⟨⟨taken, mid⟩, before, after, rfl, hgated, hpoll⟩ := Session.path_seq.mp hanswer
    cases taken with
    | some unit =>
      obtain ⟨rfl, hsame⟩ := Session.path_pure.mp hpoll
      obtain ⟨rfl, rfl⟩ := Prod.mk.inj hsame
      rw [List.append_nil] at hlooks
      exact h.advances_pollGated hlooks hgated
    | none =>
      obtain ⟨rfl, hsame⟩ := Session.path_pure.mp hpoll
      obtain ⟨rfl, rfl⟩ := Prod.mk.inj hsame
      rw [List.append_nil] at hlooks
      exact (h.advances_pollGated hlooks hgated).pollGeneric
  | pollGeneric =>
    obtain rfl : looks = [] := hlooks
    exact advances_pure h.withdraws_pollGeneric (.inr (.inr rfl)) hanswer
  | pollGated device skipRejected =>
    cases skipRejected with
    | true =>
      obtain ⟨seen, marked, hlooks⟩ := hlooks
      exact h.advances_pollGated hlooks hanswer
    | false =>
      obtain rfl : looks = [] := hlooks
      exact advances_pure h.withdraws_pollAnyGated leaves_pollAnyGated hanswer
  | drainRejected =>
    obtain rfl : looks = [] := hlooks
    exact advances_pure h.withdraws_drainRejected leaves_drainRejected hanswer
  | drainRemaining =>
    obtain rfl : looks = [] := hlooks
    exact advances_pure h.withdraws_drainRemaining leaves_drainRemaining hanswer

end WellFormed

/-- What a pool knows of the looks so far: no unit was looked at twice for one serial, the looks in
vain are what is on record about the units left, and a unit found admitted is not left. -/
structure Remembers (past : List Look) (pool : WorkPool) : Prop where
  wellFormed : pool.WellFormed
  subjects : (past.map Look.subject).Nodup
  onRecord : ∀ unit ∈ pool.gated, ∀ serial,
    (pool.rejectedBy unit).contains serial ↔ .vain serial unit ∈ past
  taken : ∀ look ∈ past, look.admitted = true → look.unit ∉ pool.gated

namespace Remembers

/-- A pool that was just filled has nothing on record. -/
theorem ofUnits {generic gated : List (Option TestUnit)} {rank : TestUnit → Nat} :
    Remembers [] (ofUnits rank generic gated registry) where
  wellFormed := wellFormed_ofUnits
  subjects := .nil
  onRecord unit _ serial := by
    simp [WorkPool.ofUnits, rejectedBy, Rejections.serialsOf, Names.contains, Names.empty]
  taken := by simp

/-- A unit not turned down before has not been looked at before for the serial. -/
theorem unseen (h : Remembers past pool) {look : Look} (hgated : look.unit ∈ pool.gated)
    (hfresh : (pool.rejectedBy look.unit).contains look.serial = false) :
    look.subject ∉ past.map Look.subject := by
  intro hseen
  obtain ⟨⟨unit, serial, admitted⟩, hmem, hsame⟩ := List.mem_map.mp hseen
  obtain ⟨rfl, rfl⟩ := Prod.mk.inj hsame
  cases admitted with
  | true => exact h.taken _ hmem rfl hgated
  | false =>
    have hrecord := (h.onRecord look.unit hgated look.serial).mpr hmem
    rw [hfresh] at hrecord
    cases hrecord

private theorem after (h : Remembers past pool) (hnow : pool.Advances looks rest) :
    Remembers (past ++ looks) rest where
  wellFormed := hnow.wellFormed
  subjects := by
    rw [List.map_append]
    refine List.nodup_append.mpr ⟨h.subjects, hnow.subjects, ?_⟩
    rintro _ hpast subject hmem rfl
    obtain ⟨look, hlook, rfl⟩ := List.mem_map.mp hmem
    obtain ⟨hgated, hfresh⟩ := hnow.fresh look hlook
    exact h.unseen hgated hfresh hpast
  onRecord unit hunit serial := by
    rw [hnow.onRecord unit hunit, h.onRecord unit (hnow.gated hunit), List.mem_append]
  taken look hlook hadmitted hunit := by
    rcases List.mem_append.mp hlook with hlook | hlook
    · exact h.taken look hlook hadmitted (hnow.gated hunit)
    · exact hnow.taken look hlook hadmitted hunit

/-- Which of the units left a device has not turned down before. -/
theorem filter_fresh (h : Remembers past pool) {units : List TestUnit} {serial : String}
    (hunits : ∀ unit ∈ units, unit ∈ pool.gated) :
    (units.filter fun unit => !(pool.rejections.serialsOf unit).contains serial) =
      units.filter (.vain serial · ∉ past) := by
  refine List.filter_congr fun unit hunit => ?_
  rw [Bool.eq_iff_iff, Bool.not_eq_true', decide_eq_true_eq,
    ← h.onRecord unit (hunits unit hunit) serial, Bool.not_eq_true, rejectedBy]

private theorem looked (h : Remembers past pool) (hlooked : Looked pool calls trace looks rest) :
    Remembers (past ++ looks) rest := by
  induction hlooked generalizing past with
  | nothing => rwa [List.append_nil]
  | call hanswer hlooks _ ih =>
    rw [← List.append_assoc]
    exact ih (h.after (h.wellFormed.advances_answer hlooks hanswer))

end Remembers

/-- Every call comes to some looks. -/
theorem exists_looksAt (hanswer : (pool.answer call).Path trace (found, rest)) :
    ∃ looks, call.LooksAt pool trace looks := by
  have hgated {device : Device} {trace : List (Session.Exchange (World E))}
      {taken : Option TestUnit} {mid : WorkPool}
      (hpoll : (pool.pollGated device).Path trace (taken, mid)) : ∃ looks found marked,
        Looks pool.registry device pool.gated pool.rejections trace looks found marked := by
    obtain ⟨marked, hseek, -⟩ := path_pollGated.mp hpoll
    obtain ⟨looks, hlooks⟩ := path_seekAdmitted.mp hseek
    exact ⟨looks, taken, marked, hlooks⟩
  cases call with
  | poll device =>
    obtain ⟨⟨taken, mid⟩, before, after, rfl, hpoll, hrest⟩ := Session.path_seq.mp hanswer
    obtain rfl : after = [] := by
      cases taken with
      | some unit => exact (Session.path_pure.mp hrest).1
      | none => exact (Session.path_pure.mp hrest).1
    rw [List.append_nil]
    exact hgated hpoll
  | pollGated device skipRejected =>
    cases skipRejected with
    | true => exact hgated hanswer
    | false => exact ⟨[], rfl⟩
  | pollGeneric | drainRejected | drainRemaining => exact ⟨[], rfl⟩

/-- Any answered calls come to some looks. -/
theorem exists_looked {returned : List TestUnit}
    (hcalls : (answerAll calls pool).Path trace (returned, rest)) :
    ∃ looks, Looked pool calls trace looks rest := by
  induction calls generalizing pool trace returned with
  | nil =>
    simp only [answerAll, Session.path_pure, Prod.mk.injEq] at hcalls
    obtain ⟨rfl, rfl, rfl⟩ := hcalls
    exact ⟨[], .nothing⟩
  | cons call calls ih =>
    obtain ⟨⟨found, mid⟩, before, after, rfl, hcall, hrest⟩ := Session.path_seq.mp hcalls
    obtain ⟨⟨later, last⟩, middle, done, rfl, hlater, hdone⟩ := Session.path_seq.mp hrest
    simp only [Session.path_pure, Prod.mk.injEq] at hdone
    obtain ⟨rfl, rfl, rfl⟩ := hdone
    obtain ⟨now, hnow⟩ := exists_looksAt hcall
    obtain ⟨looks, hlooks⟩ := ih hlater
    rw [List.append_nil]
    exact ⟨now ++ looks, .call hcall hnow hlooks⟩

/-- Whatever was called before, a poll gives out a gated unit only to a device that the providers of
all its tokens have just affirmed, and it is the first such unit the device has not turned down
before: the units in front are on record as turned down by the device. A poll that finds no gated
unit leaves all gated units on record. Over the whole history no unit is asked about twice for one
serial, and a device asks about every unit on its way that it has not turned down itself. -/
theorem gated_by_tokens {generic gated : List (Option TestUnit)} {rank : TestUnit → Nat}
    {between : List Call}
    {taken : List TestUnit} {earlier : List (Session.Exchange (World E))}
    (hearlier : (answerAll calls (ofUnits rank generic gated registry)).Path earlier (taken, pool))
    (hpoll : (pool.pollAround device between).Path trace (found, rest)) :
    ∃ past now, Looked (ofUnits rank generic gated registry) calls earlier past pool ∧
      (∃ before after seen marked, trace = before ++ after ∧
        Looks registry device pool.gated pool.rejections before now seen marked) ∧
      ((past ++ now).map Look.subject).Nodup ∧
      (∀ unit ∈ found, unit ∈ pool.gated →
        Entitled registry device unit.tokens trace ∧
        ∃ front back, pool.gated = front ++ unit :: back ∧ .vain device.serial unit ∉ past ∧
          now = (front.filter (.vain device.serial · ∉ past)).map (.vain device.serial) ++
            [⟨unit, device.serial, true⟩] ∧
          ∀ other ∈ front, (rest.rejectedBy other).contains device.serial) ∧
      ((∀ unit ∈ found, unit ∉ pool.gated) →
        now = (pool.gated.filter (.vain device.serial · ∉ past)).map (.vain device.serial) ∧
        rest.TurnedDown device.serial) := by
  obtain ⟨past, hlooked⟩ := exists_looked hearlier
  have hpast : Remembers past pool := Remembers.ofUnits.looked hlooked
  have hregistry : pool.registry = registry :=
    (wellFormed_ofUnits.serves_answerAll hearlier).registry
  obtain ⟨seen, mid, before, after, rfl, hgated, hrest⟩ := path_pollAround hpoll
  obtain ⟨marked, hseek, hmid⟩ := path_pollGated.mp hgated
  obtain ⟨now, hlooks⟩ := path_seekAdmitted.mp hseek
  have hnow : pool.Advances now mid := hpast.wellFormed.advances_pollGated hlooks hgated
  have hsubjects := (hpast.after hnow).subjects
  obtain ⟨front, back, hunits, hback, hfresh, hlooks_eq⟩ :=
    hlooks.looks_eq hpast.wellFormed.gated_nodup
  rw [hpast.filter_fresh fun unit hunit => by simp [hunits, hunit]] at hlooks_eq
  refine ⟨past, now, hlooked, ⟨before, after, seen, marked, rfl, hregistry ▸ hlooks⟩, hsubjects, ?_⟩
  obtain ⟨unit, rfl, rfl, rfl, rfl⟩ | ⟨rfl, returned, later, hcalls, rfl, rfl⟩ := hrest
  · have hunit : unit ∈ pool.gated := by simp [hunits]
    refine ⟨?_, fun hgeneric => absurd hunit (hgeneric unit rfl)⟩
    rintro _ ⟨⟩ -
    have hadmitted : ⟨unit, device.serial, true⟩ ∈ now := by simp [hlooks_eq]
    obtain ⟨-, part, hpart, hasked⟩ := hlooks.heard _ hadmitted
    have hentitled := (entitled_of_admits hasked).mono hpart.subset
    have hnew : .vain device.serial unit ∉ past := by
      rw [← hpast.onRecord unit hunit, rejectedBy, hfresh unit rfl]
      exact Bool.false_ne_true
    refine ⟨by simpa [hregistry] using hentitled, front, back, by simpa using hunits, hnew,
      by simpa using hlooks_eq, fun other hother => ?_⟩
    have hne : other ≠ unit := by
      rintro rfl
      have hnodup := hunits ▸ hpast.wellFormed.gated_nodup
      exact (List.nodup_append.mp (List.nodup_append.mp hnodup).1).2.2 other hother other
        (by simp) rfl
    have hleft : other ∈ rest.gated := by
      rw [hmid]
      simp [eraseGated, hunits, hother, hne]
    rw [(hpast.after hnow).onRecord other hleft, List.mem_append]
    by_cases hknown : .vain device.serial other ∈ past
    · exact .inl hknown
    · refine .inr (hlooks_eq ▸ List.mem_append_left _ (List.mem_map.mpr ⟨other, ?_, rfl⟩))
      exact List.mem_filter.mpr ⟨hother, decide_eq_true hknown⟩
  · have hserves := hnow.wellFormed.serves_answerAll hcalls
    have hlast := hserves.wellFormed.withdraws_pollGeneric
    have hturned : mid.TurnedDown device.serial := turnedDown_of_pollGated hgated
    refine ⟨fun unit hunit hmem => ?_, fun _ => ⟨?_, hlast.turnedDown (hserves.turnedDown hturned)⟩⟩
    · have hgeneric := mem_generic_of_pollGeneric hunit
      have hfirst := hpast.wellFormed.withdraws_pollGated hgated
      have hwas := (hserves.generic.trans hfirst.generic).subset hgeneric
      exact absurd hmem (hpast.wellFormed.not_mem_gated hwas)
    · obtain rfl := hback rfl
      simpa [hunits] using hlooks_eq

/-- One device turns two units down before the other polls, which is affirmed to hold the token of
the first of them. -/
theorem gated_by_tokens_two_devices :
    let registry := TokenRegistry.register {} "sim" (some (.external 0))
    let unit : TestUnit := .plain 1 "b" ["sim"]
    let filled := ofUnits asGiven [some (.plain 0 "a" [])] [some unit, some (.plain 2 "c" ["nfc"])]
      (some registry)
    let pool : WorkPool := { filled with
      generic := []
      rejections := [(unit, .ofList ["one"]), (.plain 2 "c" ["nfc"], .ofList ["one"])] }
    ∃ earlier trace rest past now,
      (answerAll (E := .silent) [.poll ⟨"one", .physical⟩] filled).Path earlier
        ([.plain 0 "a" []], pool) ∧
      (pool.pollAround (E := .silent) ⟨"two", .physical⟩ []).Path trace (some unit, rest) ∧
      Looked filled [.poll ⟨"one", .physical⟩] earlier past pool ∧
      ((past ++ now).map Look.subject).Nodup ∧ ⟨unit, "two", true⟩ ∈ now ∧
      Entitled (some registry) ⟨"two", .physical⟩ unit.tokens trace := by
  intro registry unit filled pool
  let world := Session.obligingWorld (fun device _ => device.serial = "two") Interface.silence
  have hearlier : (answerAll [.poll ⟨"one", .physical⟩] filled).Path _ ([.plain 0 "a" []], pool) :=
    Session.path_converse world _
  have hpoll : (pool.pollAround ⟨"two", .physical⟩ []).Path _ (some unit, _) :=
    Session.path_converse world _
  obtain ⟨past, now, hlooked, -, hnodup, hfound, -⟩ := gated_by_tokens hearlier hpoll
  obtain ⟨hentitled, front, back, -, -, hnow, -⟩ := hfound unit rfl (by decide)
  exact ⟨_, _, _, past, now, hearlier, hpoll, hlooked, hnodup, by simp [hnow], hentitled⟩

end WorkPool

end Fleet
