import Fleet.Proofs.Conversation
import Fleet.Proofs.Fields
import Fleet.Token

/-!
# Tokens read off a property

A device with several slots reports one state for each, with commas between them. A token is held if
the state of some slot is accepted, exactly as it is written. The slots can be visited from position
to position, without cutting the whole text first: every position that is reached lies in the text
or at its end, and positions only grow.
-/

namespace Fleet

variable {E : Interface} {text : List Char} {start stop : Nat}

section Positions

private theorem comma_not_mem_of_commaFrom (h : commaFrom text start = none) :
    ',' ∉ text.drop start := by
  intro hcomma
  have hnone := List.findIdx?_eq_none_iff.mp (Option.map_eq_none_iff.mp h) ',' hcomma
  simp at hnone

/-- Up to the first comma there is none, and behind it the text goes on. -/
theorem drop_of_commaFrom (h : commaFrom text start = some stop) :
    ',' ∉ (text.drop start).take (stop - start) ∧
      text.drop start = (text.drop start).take (stop - start) ++ ',' :: text.drop (stop + 1) := by
  obtain ⟨length, hlength, rfl⟩ := Option.map_eq_some_iff.mp h
  obtain ⟨hinside, hcomma, hfirst⟩ := List.findIdx?_eq_some_iff_getElem.mp hlength
  rw [Nat.add_sub_cancel_left]
  constructor
  · intro hmem
    obtain ⟨index, hindex, heq⟩ := List.mem_take_iff_getElem.mp hmem
    exact hfirst index (by omega) (by simpa using heq)
  · have hat : (text.drop start)[length] = ',' := by simpa using hcomma
    have hbehind : text.drop (start + length + 1) = (text.drop start).drop (length + 1) := by
      rw [List.drop_drop, Nat.add_assoc]
    rw [hbehind, ← hat, ← List.drop_eq_getElem_cons hinside, List.take_append_drop]

end Positions

namespace PropertyProvider

variable {provider : PropertyProvider}

/-- From a position in the text or at its end the search goes through the fields of what follows. -/
theorem search_eq (h : start ≤ text.length) :
    provider.search text start =
      some ((fieldsOf ',' (text.drop start)).any fun part =>
        provider.accepted.contains (String.ofList part)) := by
  fun_induction search provider text start with
  | case1 start hnone =>
    have hlast : slice? text start text.length = some (text.drop start) := by
      rw [slice?, if_pos h, List.take_of_length_le (by simp)]
    simp [hlast, fieldsOf_of_not_mem (comma_not_mem_of_commaFrom hnone)]
  | case2 start stop hstop ih =>
    obtain ⟨hfree, hsplit⟩ := drop_of_commaFrom hstop
    have ⟨_, hinside⟩ := lt_of_commaFrom hstop
    have hpart : slice? text start stop = some ((text.drop start).take (stop - start)) := if_pos h
    have hfields : fieldsOf ',' (text.drop start) =
        (text.drop start).take (stop - start) :: fieldsOf ',' (text.drop (stop + 1)) :=
      (congrArg (fieldsOf ',') hsplit).trans (fieldsOf_append hfree _)
    rw [hfields, hpart, List.any_cons, ih hinside]
    cases haccepted :
        provider.accepted.contains (String.ofList ((text.drop start).take (stop - start))) with
    | true => simp [haccepted]
    | false => simp [haccepted]

private theorem accepts_some (provider : PropertyProvider) (value : String) :
    provider.accepts (some value) =
      (fieldsOf ',' value.toList).any fun part =>
        provider.accepted.contains (String.ofList part) := by
  simp [accepts, commaFields, Function.comp_def]

private theorem accepts_iff {value : Option String} :
    provider.accepts value = true ↔
      ∃ text, value = some text ∧ ∃ parts, CutAt ',' text.toList parts ∧
        ∃ part ∈ parts, provider.accepted.contains (String.ofList part) := by
  cases value with
  | none => simp [accepts]
  | some text => simp [accepts_some, exists_cutAt_iff]

end PropertyProvider

/-- A property provider looks the property of the device up, once, and finds the token held exactly
if the property is present and its value, cut at every comma, has an accepted part; nothing is
trimmed, and empty parts count. To search the value from position to position comes to the same and
never leaves it. -/
theorem holds_iff_accepted_part (provider : PropertyProvider) (device : Device) (token : String) :
    (∀ (trace : List (Session.Exchange (World E))) (answer : Bool),
      ((TokenProvider.property provider).holds device token).Path trace answer ↔
        ∃ value : Option String, trace = [⟨.inl (.property device provider.property), value⟩] ∧
          (answer = true ↔ ∃ text, value = some text ∧ ∃ parts, CutAt ',' text.toList parts ∧
            ∃ part ∈ parts, provider.accepted.contains (String.ofList part))) ∧
    ∀ text : String, provider.search text.toList 0 = some (provider.accepts (some text)) := by
  constructor
  · intro trace answer
    simp only [TokenProvider.holds, ← PropertyProvider.accepts_iff, ← Bool.eq_iff_iff]
    constructor
    · intro h
      obtain ⟨value, _, rfl, hanswer⟩ := Session.path_request_bind.mp h
      obtain ⟨rfl, rfl⟩ := Session.path_pure.mp hanswer
      exact ⟨value, rfl, rfl⟩
    · rintro ⟨value, rfl, rfl⟩
      exact Session.path_request_bind.mpr ⟨value, [], rfl, Session.path_pure.mpr ⟨rfl, rfl⟩⟩
  · intro text
    rw [PropertyProvider.search_eq (Nat.zero_le _), List.drop_zero, PropertyProvider.accepts_some]

end Fleet
