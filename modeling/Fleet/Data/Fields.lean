/-!
# Fields of a text

Cutting a text at every occurrence of a separator. A text with `n` separators has exactly `n + 1`
fields, of which any may be empty, and joining the fields with the separator gives the text back.
Some readers of a text stop at its first zero character; `untilZero` is what they see.
-/

namespace Fleet

/-- The fields of a list of characters, cut at each `separator`. -/
def fieldsOf (separator : Char) : List Char → List (List Char)
  | [] => [[]]
  | c :: rest =>
    if c = separator then [] :: fieldsOf separator rest
    else
      match fieldsOf separator rest with
      | [] => [[c]]
      | field :: more => (c :: field) :: more

/-- The fields of a text, cut at each comma. -/
def commaFields (text : String) : List String :=
  (fieldsOf ',' text.toList).map String.ofList

/-- The part of a text before its first zero character. -/
def untilZero (text : String) : String :=
  String.ofList (text.toList.takeWhile (· ≠ '\x00'))

/-- Every text has a field. -/
theorem fieldsOf_ne_nil (separator : Char) (text : List Char) : fieldsOf separator text ≠ [] := by
  induction text with
  | nil => simp [fieldsOf]
  | cons c rest ih =>
    rw [fieldsOf]
    split
    · simp
    · split <;> simp

/-- The fields of a text, put together again, are the text. -/
theorem intercalate_fieldsOf (separator : Char) (text : List Char) :
    [separator].intercalate (fieldsOf separator text) = text := by
  induction text with
  | nil => rfl
  | cons c rest ih =>
    rw [fieldsOf]
    split
    · rename_i h
      obtain ⟨field, more, hf⟩ := List.exists_cons_of_ne_nil (fieldsOf_ne_nil separator rest)
      rw [hf] at ih ⊢
      simp [List.intercalate, List.intersperse, h] at ih ⊢
      exact ih
    · obtain ⟨field, more, hf⟩ := List.exists_cons_of_ne_nil (fieldsOf_ne_nil separator rest)
      rw [hf] at ih ⊢
      cases more with
      | nil => simpa [List.intercalate, List.intersperse] using ih
      | cons next more => simpa [List.intercalate, List.intersperse] using ih

end Fleet
