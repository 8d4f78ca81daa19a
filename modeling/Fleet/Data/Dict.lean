/-!
# Dictionaries

A finite map from strings, kept as the list of its entries in ascending order of the keys. As with
`Names`, the order is part of the type: a dictionary is determined by what its keys are bound to.
Two ways to add a binding matter to the rest of the library: `insert` replaces, `insertNew` lets
an existing binding win.
-/

namespace Fleet

/-- A finite map from strings to `V`. -/
structure Dict (V : Type) where
  /-- The bindings, in ascending order of the keys. -/
  entries : List (String × V)
  /-- Each key stands before all greater ones. -/
  sorted : entries.Pairwise (fun a b => a.1 < b.1)
  deriving DecidableEq

namespace Dict

variable {V W : Type}

/-- Rebind `key` in an ascending list to what `f` makes of its present binding. -/
def place (key : String) (f : Option V → V) : List (String × V) → List (String × V)
  | [] => [(key, f none)]
  | (k, v) :: rest =>
    if key < k then (key, f none) :: (k, v) :: rest
    else if key = k then (k, f (some v)) :: rest
    else (k, v) :: place key f rest

private theorem fst_mem_place {key : String} {f : Option V → V} {entries : List (String × V)}
    {entry : String × V} (h : entry ∈ place key f entries) :
    entry.1 = key ∨ ∃ other ∈ entries, other.1 = entry.1 := by
  induction entries with
  | nil => exact .inl (by simp_all [place])
  | cons head rest ih =>
    obtain ⟨k, v⟩ := head
    rw [place] at h
    split at h
    · rcases List.mem_cons.mp h with rfl | h
      · exact .inl rfl
      · exact .inr ⟨entry, h, rfl⟩
    · split at h
      · rename_i heq
        rcases List.mem_cons.mp h with rfl | h
        · exact .inl heq.symm
        · exact .inr ⟨entry, List.mem_cons_of_mem _ h, rfl⟩
      · rcases List.mem_cons.mp h with rfl | h
        · exact .inr ⟨(k, v), List.mem_cons_self, rfl⟩
        · rcases ih h with h | ⟨other, hm, he⟩
          · exact .inl h
          · exact .inr ⟨other, List.mem_cons_of_mem _ hm, he⟩

private theorem place_sorted {key : String} {f : Option V → V} {entries : List (String × V)}
    (h : entries.Pairwise (fun a b => a.1 < b.1)) :
    (place key f entries).Pairwise (fun a b => a.1 < b.1) := by
  induction entries with
  | nil => simp [place]
  | cons head rest ih =>
    obtain ⟨k, v⟩ := head
    obtain ⟨hhead, hrest⟩ := List.pairwise_cons.mp h
    rw [place]
    split
    · rename_i hlt
      refine List.pairwise_cons.mpr ⟨fun entry hm => ?_, h⟩
      rcases List.mem_cons.mp hm with rfl | hm
      · exact hlt
      · exact String.lt_trans hlt (hhead entry hm)
    · split
      · exact List.pairwise_cons.mpr ⟨hhead, hrest⟩
      · rename_i hnlt hne
        refine List.pairwise_cons.mpr ⟨fun entry hm => ?_, ih hrest⟩
        rcases fst_mem_place hm with hk | ⟨other, ho, hk⟩
        · exact hk ▸ Std.lt_of_le_of_ne (String.not_lt.mp hnlt) (Ne.symm hne)
        · exact hk ▸ hhead other ho

/-- The dictionary without bindings. -/
def empty : Dict V := ⟨[], .nil⟩

instance : Inhabited (Dict V) := ⟨empty⟩

/-- Rebind a key to what `f` makes of its present binding. -/
def alter (dict : Dict V) (key : String) (f : Option V → V) : Dict V :=
  ⟨place key f dict.entries, place_sorted dict.sorted⟩

/-- Bind a key, replacing an existing binding. -/
def insert (dict : Dict V) (key : String) (value : V) : Dict V :=
  dict.alter key fun _ => value

/-- Bind a key that is not bound yet; an existing binding wins. -/
def insertNew (dict : Dict V) (key : String) (value : V) : Dict V :=
  dict.alter key fun present => present.getD value

/-- The binding of a key. -/
def get? (dict : Dict V) (key : String) : Option V :=
  dict.entries.lookup key

/-- The first entry for a key is the one that is found. -/
theorem lookup_cons_eq_ite (key other : String) (value : V) (rest : List (String × V)) :
    ((key, value) :: rest).lookup other =
      if other = key then some value else rest.lookup other := by
  rw [List.lookup_cons]
  by_cases h : other = key
  · simp [h]
  · simp [h, beq_eq_false_iff_ne.mpr h]

/-- A key that stands before all others is not bound. -/
theorem lookup_eq_none_of_lt {key : String} {entries : List (String × V)}
    (h : ∀ entry ∈ entries, key < entry.1) : entries.lookup key = none := by
  induction entries with
  | nil => rfl
  | cons entry rest ih =>
    obtain ⟨hentry, hrest⟩ := List.forall_mem_cons.mp h
    rw [lookup_cons_eq_ite, if_neg (Std.ne_of_lt hentry), ih hrest]

private theorem lookup_place (key other : String) (f : Option V → V) {entries : List (String × V)}
    (h : entries.Pairwise (fun a b => a.1 < b.1)) :
    (place key f entries).lookup other =
      if other = key then some (f (entries.lookup key)) else entries.lookup other := by
  induction entries with
  | nil => exact lookup_cons_eq_ite key other (f none) []
  | cons entry rest ih =>
    obtain ⟨k, v⟩ := entry
    obtain ⟨hhead, hrest⟩ := List.pairwise_cons.mp h
    rw [place]
    split
    · rename_i hlt
      have hfirst : ∀ entry ∈ (k, v) :: rest, key < entry.1 :=
        List.forall_mem_cons.mpr ⟨hlt, fun entry hentry => String.lt_trans hlt (hhead entry hentry)⟩
      rw [lookup_cons_eq_ite, lookup_eq_none_of_lt hfirst]
    · split
      · rename_i hkey
        subst hkey
        rw [lookup_cons_eq_ite, lookup_cons_eq_ite, lookup_cons_eq_ite, if_pos rfl]
        split <;> rfl
      · rename_i hkey
        rw [lookup_cons_eq_ite, lookup_cons_eq_ite, lookup_cons_eq_ite, ih hrest, if_neg hkey]
        by_cases h : other = key
        · subst h
          simp [hkey]
        · simp only [if_neg h]

/-- An insertion is found under its key and changes nothing under any other. -/
theorem get?_insert (dict : Dict V) (key other : String) (value : V) :
    (dict.insert key value).get? other = if other = key then some value else dict.get? other :=
  lookup_place key other (fun _ => value) dict.sorted

private theorem get?_insertNew (dict : Dict V) (key other : String) (value : V) :
    (dict.insertNew key value).get? other =
      if other = key then some ((dict.get? key).getD value) else dict.get? other :=
  lookup_place key other (·.getD value) dict.sorted

/-- The keys in ascending order. -/
def keys (dict : Dict V) : List String :=
  dict.entries.map Prod.fst

/-- All bindings of both dictionaries; where both bind a key, the first one wins. -/
def union (dict other : Dict V) : Dict V :=
  other.entries.foldl (fun merged entry => merged.insertNew entry.1 entry.2) dict

private theorem get?_foldl_insertNew (entries : List (String × V)) (dict : Dict V) (key : String) :
    (entries.foldl (fun merged entry => merged.insertNew entry.1 entry.2) dict).get? key =
      (dict.get? key).or (entries.lookup key) := by
  induction entries generalizing dict with
  | nil => exact Option.or_none.symm
  | cons entry rest ih =>
    obtain ⟨k, v⟩ := entry
    rw [List.foldl_cons, ih, get?_insertNew, lookup_cons_eq_ite]
    by_cases h : key = k
    · subst h
      cases dict.get? key <;> simp
    · simp only [if_neg h]

/-- In a union, the first dictionary takes precedence. -/
theorem get?_union (dict other : Dict V) (key : String) :
    (dict.union other).get? key = (dict.get? key).or (other.get? key) :=
  get?_foldl_insertNew other.entries dict key

/-- All bindings of both dictionaries; where both bind a key, the second one wins. -/
def overlay (dict other : Dict V) : Dict V :=
  other.entries.foldl (fun merged entry => merged.insert entry.1 entry.2) dict

/-- The dictionary with the bindings of a list, the last of several for one key winning. -/
def ofList (entries : List (String × V)) : Dict V :=
  entries.foldl (fun dict entry => dict.insert entry.1 entry.2) empty

/-- Where no key is bound twice, a key is bound to what stands beside it. -/
theorem lookup_eq_some_iff_of_nodup {key : String} {value : V} {entries : List (String × V)}
    (h : (entries.map Prod.fst).Nodup) :
    entries.lookup key = some value ↔ (key, value) ∈ entries := by
  induction entries with
  | nil => exact ⟨nofun, nofun⟩
  | cons entry rest ih =>
    obtain ⟨k, v⟩ := entry
    obtain ⟨hhead, hrest⟩ := List.nodup_cons.mp h
    rw [lookup_cons_eq_ite, List.mem_cons, Prod.mk.injEq]
    split
    · rename_i hkey
      subst hkey
      have hnot : (key, value) ∉ rest := fun hmem => hhead (List.mem_map.mpr ⟨_, hmem, rfl⟩)
      simp [hnot, eq_comm]
    · rename_i hkey
      simp [ih hrest, hkey]

private theorem nodup_keys_of_sorted {entries : List (String × V)}
    (h : entries.Pairwise (fun a b => a.1 < b.1)) : (entries.map Prod.fst).Nodup :=
  List.pairwise_map.mpr (h.imp Std.ne_of_lt)

private theorem lookup_eq_some_iff {key : String} {value : V} {entries : List (String × V)}
    (h : entries.Pairwise (fun a b => a.1 < b.1)) :
    entries.lookup key = some value ↔ (key, value) ∈ entries :=
  lookup_eq_some_iff_of_nodup (nodup_keys_of_sorted h)

/-- Of the bindings that are looked for, the search finds the one with the least key. -/
theorem find?_eq_some_of_least {p : String × V → Bool} {entry : String × V}
    {entries : List (String × V)} (h : entries.Pairwise (fun a b => a.1 < b.1))
    (hentry : entry ∈ entries) (hsought : p entry = true)
    (hleast : ∀ other ∈ entries, p other = true → entry.1 ≤ other.1) :
    entries.find? p = some entry := by
  induction entries with
  | nil => cases hentry
  | cons head rest ih =>
    obtain ⟨hhead, hrest⟩ := List.pairwise_cons.mp h
    by_cases hp : p head = true
    · have hle : entry.1 ≤ head.1 := hleast head List.mem_cons_self hp
      rcases List.mem_cons.mp hentry with rfl | hlater
      · exact List.find?_cons_of_pos hp
      · exact absurd (hhead entry hlater) (String.not_lt.mpr hle)
    · have hlater : entry ∈ rest := by
        rcases List.mem_cons.mp hentry with rfl | hlater
        · exact absurd hsought hp
        · exact hlater
      rw [List.find?_cons_of_neg hp]
      exact ih hrest hlater fun other hother => hleast other (List.mem_cons_of_mem _ hother)

/-- The entries of a dictionary are its bindings. -/
theorem get?_eq_some_iff {dict : Dict V} {key : String} {value : V} :
    dict.get? key = some value ↔ (key, value) ∈ dict.entries :=
  lookup_eq_some_iff dict.sorted

/-- A new key joins the others. -/
theorem place_perm {key : String} {f : Option V → V} {entries : List (String × V)}
    (h : key ∉ entries.map Prod.fst) :
    (place key f entries).Perm ((key, f none) :: entries) := by
  induction entries with
  | nil => exact .refl _
  | cons entry rest ih =>
    obtain ⟨k, v⟩ := entry
    rw [List.map_cons, List.mem_cons, not_or] at h
    obtain ⟨hkey, hrest⟩ := h
    rw [place]
    split
    · exact .refl _
    · exact ((ih hrest).cons _).trans (.swap ..)

private theorem foldl_insert_perm {entries : List (String × V)} {dict : Dict V}
    (h : ((entries ++ dict.entries).map Prod.fst).Nodup) :
    (entries.foldl (fun dict entry => dict.insert entry.1 entry.2) dict).entries.Perm
      (entries ++ dict.entries) := by
  induction entries generalizing dict with
  | nil => exact .refl _
  | cons entry rest ih =>
    obtain ⟨k, v⟩ := entry
    have hkey := (List.nodup_cons.mp h).1
    change k ∉ (rest ++ dict.entries).map Prod.fst at hkey
    rw [List.map_append, List.mem_append, not_or] at hkey
    have hplaced : (dict.insert k v).entries.Perm ((k, v) :: dict.entries) := place_perm hkey.2
    have hmiddle : (rest ++ (dict.insert k v).entries).Perm ((k, v) :: (rest ++ dict.entries)) :=
      (hplaced.append_left rest).trans List.perm_middle
    exact (ih ((hmiddle.map Prod.fst).nodup_iff.mpr h)).trans hmiddle

/-- A list that binds no key twice makes a dictionary of just its bindings. -/
theorem ofList_perm {entries : List (String × V)} (h : (entries.map Prod.fst).Nodup) :
    (ofList entries).entries.Perm entries := by
  have hall : ((entries ++ (empty : Dict V).entries).map Prod.fst).Nodup := by
    rwa [empty, List.append_nil]
  exact (foldl_insert_perm hall).trans (.of_eq (List.append_nil entries))

/-- A key behind all others goes to the end. -/
theorem place_of_gt {key : String} {f : Option V → V} {entries : List (String × V)}
    (h : ∀ entry ∈ entries, entry.1 < key) : place key f entries = entries ++ [(key, f none)] := by
  induction entries with
  | nil => rfl
  | cons entry rest ih =>
    obtain ⟨k, v⟩ := entry
    obtain ⟨hentry, hrest⟩ := List.forall_mem_cons.mp h
    rw [place, if_neg (String.lt_asymm hentry), if_neg (Std.ne_of_lt hentry).symm, ih hrest]
    rfl

/-- Bindings behind all others are put behind them. -/
theorem entries_foldl_insertNew {entries : List (String × V)} {dict : Dict V}
    (h : (dict.entries ++ entries).Pairwise (fun a b => a.1 < b.1)) :
    (entries.foldl (fun merged entry => merged.insertNew entry.1 entry.2) dict).entries =
      dict.entries ++ entries := by
  induction entries generalizing dict with
  | nil => exact (List.append_nil _).symm
  | cons entry rest ih =>
    obtain ⟨k, v⟩ := entry
    have hplaced : (dict.insertNew k v).entries = dict.entries ++ [(k, v)] :=
      place_of_gt fun other hother =>
        (List.pairwise_append.mp h).2.2 other hother (k, v) List.mem_cons_self
    rw [List.foldl_cons, ih (by simpa [hplaced] using h), hplaced]
    simp

/-- The empty dictionary adds nothing to another. -/
theorem empty_union (dict : Dict V) : empty.union dict = dict := by
  have h : (empty.union dict).entries = dict.entries := entries_foldl_insertNew dict.sorted
  rwa [Dict.mk.injEq]

end Dict

/-- Named measurements of a test case or a test run. -/
abbrev Metrics := Dict String

end Fleet
