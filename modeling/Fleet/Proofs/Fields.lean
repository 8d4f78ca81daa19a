import Fleet.Data.Fields

/-!
# Where a text is cut

There is one way only to write a text as parts that are free of a separator and are joined with it:
the fields of the text. They can be taken off the text one by one, each up to the next separator.
-/

namespace Fleet

variable {separator : Char} {text field : List Char} {parts : List (List Char)}

/-- The parts of a text that is cut at every separator: none of them has one, and joined with it
they are the text. -/
structure CutAt (separator : Char) (text : List Char) (parts : List (List Char)) : Prop where
  nonempty : parts ≠ []
  uncut : ∀ part ∈ parts, separator ∉ part
  joined : [separator].intercalate parts = text

private theorem fieldsOf_eq_splitOn (separator : Char) (text : List Char) :
    fieldsOf separator text = text.splitOn separator := by
  induction text with
  | nil => rfl
  | cons c rest ih =>
    obtain ⟨field, more, hmore⟩ := List.exists_cons_of_ne_nil (List.splitOn_ne_nil separator rest)
    rw [fieldsOf, ih, List.splitOn_cons_eq_if_modifyHead, hmore]
    by_cases h : c = separator
    · simp [h]
    · simp [h]

/-- A text without a separator is a field. -/
theorem fieldsOf_of_not_mem (h : separator ∉ text) : fieldsOf separator text = [text] := by
  rw [fieldsOf_eq_splitOn, List.splitOn_eq_singleton h]

/-- The first field ends at the first separator. -/
theorem fieldsOf_append (h : separator ∉ field) (rest : List Char) :
    fieldsOf separator (field ++ separator :: rest) = field :: fieldsOf separator rest := by
  rw [fieldsOf_eq_splitOn, fieldsOf_eq_splitOn, List.splitOn_append_cons_self_of_not_mem h]

private theorem not_mem_of_mem_fieldsOf (h : field ∈ fieldsOf separator text) :
    separator ∉ field := by
  induction text generalizing field with
  | nil =>
    obtain rfl := List.mem_singleton.mp h
    exact List.not_mem_nil
  | cons c rest ih =>
    obtain ⟨first, more, hmore⟩ := List.exists_cons_of_ne_nil (fieldsOf_ne_nil separator rest)
    rw [fieldsOf, hmore] at h
    rw [hmore] at ih
    by_cases hc : c = separator
    · rw [if_pos hc] at h
      rcases List.mem_cons.mp h with rfl | hfield
      · exact List.not_mem_nil
      · exact ih hfield
    · rw [if_neg hc] at h
      rcases List.mem_cons.mp h with rfl | hfield
      · simp [Ne.symm hc, ih List.mem_cons_self]
      · exact ih (List.mem_cons_of_mem _ hfield)

/-- A text is cut into its fields and nothing else. -/
theorem cutAt_iff : CutAt separator text parts ↔ parts = fieldsOf separator text := by
  constructor
  · rintro ⟨hnonempty, huncut, rfl⟩
    rw [fieldsOf_eq_splitOn, List.splitOn_intercalate separator huncut hnonempty]
  · rintro rfl
    exact ⟨fieldsOf_ne_nil _ _, fun _ => not_mem_of_mem_fieldsOf, intercalate_fieldsOf _ _⟩

/-- What holds of some part holds of some field. -/
theorem exists_cutAt_iff {P : List Char → Prop} :
    (∃ parts, CutAt separator text parts ∧ ∃ part ∈ parts, P part) ↔
      ∃ part ∈ fieldsOf separator text, P part := by
  simp only [cutAt_iff, exists_eq_left]

end Fleet
