/-!
# Sets of names

A finite set of strings, kept as the list of its members in ascending order. The order is part of
the type, so two sets with the same members are equal, and a listing never depends on the order in
which names were added.
-/

namespace Fleet

/-- A finite set of strings. -/
structure Names where
  /-- The members, in ascending order. -/
  toList : List String
  /-- Each member stands before all greater ones. -/
  sorted : toList.Pairwise (· < ·)
  deriving DecidableEq

namespace Names

/-- Put a name in its place in an ascending list; a name already there stays single. -/
def place (name : String) : List String → List String
  | [] => [name]
  | head :: rest =>
    if name < head then name :: head :: rest
    else if name = head then head :: rest
    else head :: place name rest

/-- To place a name adds that name and no other. -/
theorem mem_place {name x : String} {names : List String} :
    x ∈ place name names ↔ x = name ∨ x ∈ names := by
  induction names with
  | nil => simp [place]
  | cons head rest ih =>
    rw [place]
    split
    · simp
    · split
      · rename_i h
        simp [h]
      · simp only [List.mem_cons, ih]
        exact or_left_comm

private theorem place_sorted {name : String} {names : List String} (h : names.Pairwise (· < ·)) :
    (place name names).Pairwise (· < ·) := by
  induction names with
  | nil => simp [place]
  | cons head rest ih =>
    obtain ⟨hhead, hrest⟩ := List.pairwise_cons.mp h
    rw [place]
    split
    · rename_i hlt
      refine List.pairwise_cons.mpr ⟨fun x hx => ?_, h⟩
      rcases List.mem_cons.mp hx with rfl | hx
      · exact hlt
      · exact String.lt_trans hlt (hhead x hx)
    · split
      · exact h
      · rename_i hnlt hne
        refine List.pairwise_cons.mpr ⟨fun x hx => ?_, ih hrest⟩
        rcases mem_place.mp hx with rfl | hx
        · exact Std.lt_of_le_of_ne (String.not_lt.mp hnlt) (Ne.symm hne)
        · exact hhead x hx

/-- The set without members. -/
def empty : Names := ⟨[], .nil⟩

instance : Inhabited Names := ⟨empty⟩

/-- Add a name. -/
def insert (names : Names) (name : String) : Names :=
  ⟨place name names.toList, place_sorted names.sorted⟩

/-- The set of all strings of a list. -/
def ofList (names : List String) : Names :=
  names.foldl insert empty

/-- Whether a name is a member. -/
def contains (names : Names) (name : String) : Bool :=
  names.toList.contains name

/-- Whether there is no member. -/
def isEmpty (names : Names) : Bool :=
  names.toList.isEmpty

/-- The members in ascending order, separated by a comma and a blank. An empty name before all
others leaves no separator. -/
def joined (names : Names) : String :=
  names.toList.foldl
    (fun text name => if text.isEmpty then name else text ++ ", " ++ name) ""

@[simp] theorem contains_insert (names : Names) (name x : String) :
    (names.insert name).contains x = (x == name || names.contains x) := by
  have h : x ∈ place name names.toList ↔ x = name ∨ x ∈ names.toList := mem_place
  rw [Bool.eq_iff_iff]
  simpa [contains, insert] using h

/-- A set of names contains the names it is made of. -/
theorem contains_ofList {names : List String} {x : String} :
    (ofList names).contains x ↔ x ∈ names := by
  have hfold : ∀ start : Names,
      (names.foldl insert start).contains x ↔ start.contains x ∨ x ∈ names := by
    induction names with
    | nil => simp
    | cons head rest ih =>
      intro start
      rw [List.foldl_cons, ih, contains_insert, List.mem_cons]
      simp only [Bool.or_eq_true, beq_iff_eq]
      rw [or_comm (a := x = head), or_assoc]
  rw [ofList, hfold]
  simp [contains, empty]

/-- Two sets with the same members are equal. -/
theorem ext_contains {names other : Names} (h : ∀ x, names.contains x ↔ other.contains x) :
    names = other := by
  have hne {a b : String} (hlt : a < b) : a ≠ b := fun he => String.lt_irrefl a (he ▸ hlt)
  have hperm : names.toList.Perm other.toList := by
    refine (List.perm_ext_iff_of_nodup (names.sorted.imp hne) (other.sorted.imp hne)).mpr ?_
    simpa [contains] using h
  have hlists : names.toList = other.toList :=
    hperm.eq_of_pairwise (fun a b _ _ hab hba => (String.lt_asymm hab hba).elim) names.sorted
      other.sorted
  cases names
  cases other
  cases hlists
  rfl

end Names

end Fleet
