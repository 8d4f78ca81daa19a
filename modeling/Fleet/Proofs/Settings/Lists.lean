import Fleet.Proofs.Fields
import Fleet.Settings.Environment
import Mathlib.Data.List.DropRight

/-!
# Lists in the environment

A variable lists what is written between its commas, less the spaces and tabs around it. So a set of
names can be written in many ways, and each of them is read as that set again. Commas, spaces and
tabs are characters of ASCII, and no other character has one of their bytes: whether the characters
of a text are the bytes of the variable or what the bytes encode, the same is listed.
-/

namespace Fleet.Settings

variable {text core : List Char} {environment : Environment} {variableName : String}

/-- What may stand around a name in a list. -/
def padding : List Char :=
  [' ', '\t']

/-- The text neither begins nor ends with padding. -/
structure Bare (text : List Char) : Prop where
  first : ∀ c ∈ text.head?, c ∉ padding
  last : ∀ c ∈ text.getLast?, c ∉ padding

instance (text : List Char) : Decidable (Bare text) :=
  decidable_of_iff (text.head?.all (· ∉ padding) ∧ text.getLast?.all (· ∉ padding)) <| by
    simp only [Option.all_eq_true, decide_eq_true_eq]
    exact ⟨fun h => ⟨h.1, h.2⟩, fun h => ⟨h.first, h.last⟩⟩

/-- The text is the other one, which is bare, with padding before and after it. -/
def Stripped (text core : List Char) : Prop :=
  Bare core ∧ ∃ before after, text = before ++ (core ++ after) ∧
    (∀ c ∈ before, c ∈ padding) ∧ ∀ c ∈ after, c ∈ padding

section Trimming

private theorem isPadding_iff {c : Char} : isPadding c = true ↔ c ∈ padding := by
  simp [isPadding, padding]

private theorem trimmed_eq (text : List Char) :
    trimmed text = (text.dropWhile isPadding).rdropWhile isPadding :=
  rfl

/-- Padding in front of a text that does not begin with padding is all that is dropped. -/
theorem dropWhile_isPadding {before : List Char} (hbefore : ∀ c ∈ before, c ∈ padding)
    (hfirst : ∀ c ∈ core.head?, c ∉ padding) : (before ++ core).dropWhile isPadding = core := by
  rw [List.dropWhile_append_of_pos fun c hc => isPadding_iff.mpr (hbefore c hc)]
  cases core with
  | nil => rfl
  | cons c rest =>
    have hc : ¬isPadding c = true := fun h => hfirst c rfl (isPadding_iff.mp h)
    exact List.dropWhile_cons_of_neg hc

private theorem rdropWhile_isPadding {after : List Char} (hafter : ∀ c ∈ after, c ∈ padding)
    (hlast : ∀ c ∈ core.getLast?, c ∉ padding) : (core ++ after).rdropWhile isPadding = core := by
  have hback : (after.reverse ++ core.reverse).dropWhile isPadding = core.reverse :=
    dropWhile_isPadding (by simpa using hafter) (by simpa using hlast)
  rw [List.rdropWhile, List.reverse_append, hback, List.reverse_reverse]

/-- Blank texts are trimmed to nothing. -/
theorem trimmed_of_blank (h : ∀ c ∈ text, c ∈ padding) : trimmed text = [] := by
  have hdropped : (text ++ []).dropWhile isPadding = [] := dropWhile_isPadding h nofun
  rw [trimmed_eq, ← List.append_nil text, hdropped, List.rdropWhile_nil]

private theorem trimmed_of_stripped (h : Stripped text core) : trimmed text = core := by
  obtain ⟨⟨hfirst, hlast⟩, before, after, rfl, hbefore, hafter⟩ := h
  cases core with
  | nil =>
    refine trimmed_of_blank fun c hc => ?_
    rcases List.mem_append.mp hc with hc | hc
    · exact hbefore c hc
    · exact hafter c hc
  | cons c rest =>
    have hdropped : (before ++ (c :: rest ++ after)).dropWhile isPadding = c :: rest ++ after :=
      dropWhile_isPadding hbefore hfirst
    rw [trimmed_eq, hdropped, rdropWhile_isPadding hafter hlast]

private theorem stripped_trimmed (text : List Char) : Stripped text (trimmed text) := by
  have hback := List.rdropWhile_append_rtakeWhile (p := isPadding) (l := text.dropWhile isPadding)
  have hwhole : text = text.takeWhile isPadding ++
      (trimmed text ++ (text.dropWhile isPadding).rtakeWhile isPadding) := by
    rw [trimmed_eq, hback, List.takeWhile_append_dropWhile]
  refine ⟨⟨?_, ?_⟩, _, _, hwhole, ?_, ?_⟩
  -- The first character that is left is the first one after the padding in front.
  · intro c hc hpadding
    have hhead : (text.dropWhile isPadding).head? = some c := by
      rw [← hback, ← trimmed_eq, List.head?_append, hc, Option.some_or]
    have hnot := List.head?_dropWhile_not isPadding text
    rw [hhead] at hnot
    exact absurd (isPadding_iff.mpr hpadding) (Bool.eq_false_iff.mp hnot)
  · intro c hc hpadding
    rw [trimmed_eq] at hc
    have hleft : (text.dropWhile isPadding).rdropWhile isPadding ≠ [] := by
      intro hnil
      rw [hnil] at hc
      cases hc
    rw [List.getLast?_eq_some_getLast hleft] at hc
    obtain rfl := Option.some.inj hc
    exact List.rdropWhile_last_not isPadding _ hleft (isPadding_iff.mpr hpadding)
  · exact fun c hc => isPadding_iff.mp (List.mem_takeWhile_imp hc)
  · exact fun c hc => isPadding_iff.mp (List.mem_rtakeWhile_imp hc)

/-- Trimming strips a text of its padding. -/
theorem stripped_iff : Stripped text core ↔ core = trimmed text := by
  constructor
  · exact fun h => (trimmed_of_stripped h).symm
  · rintro rfl
    exact stripped_trimmed text

end Trimming

/-- A name that can be listed. -/
structure Listable (name : String) : Prop where
  written : name ≠ ""
  uncut : ',' ∉ name.toList
  bare : Bare name.toList

instance (name : String) : Decidable (Listable name) :=
  decidable_of_iff (name ≠ "" ∧ ',' ∉ name.toList ∧ Bare name.toList)
    ⟨fun h => ⟨h.1, h.2.1, h.2.2⟩, fun h => ⟨h.written, h.uncut, h.bare⟩⟩

/-- One part of a list as it is written: a name with padding around it, or padding only. -/
structure Entry where
  before : List Char
  /-- The name, or nothing if the part is blank. -/
  name : String
  after : List Char
  padded : ∀ c ∈ before ++ after, c ∈ padding

namespace Entry

/-- How an entry is written. -/
def chars (entry : Entry) : List Char :=
  entry.before ++ (entry.name.toList ++ entry.after)

/-- How a list of entries is written. -/
def listText (entries : List Entry) : String :=
  String.ofList ([','].intercalate (entries.map chars))

private theorem stripped_chars {entry : Entry} (h : Bare entry.name.toList) :
    Stripped entry.chars entry.name.toList :=
  ⟨h, entry.before, entry.after, rfl,
    fun c hc => entry.padded c (List.mem_append_left _ hc),
    fun c hc => entry.padded c (List.mem_append_right _ hc)⟩

private theorem comma_not_mem_chars {entry : Entry} (h : ',' ∉ entry.name.toList) :
    ',' ∉ entry.chars := by
  have hpadding : ',' ∉ entry.before ++ entry.after :=
    fun hc => absurd (entry.padded ',' hc) (by decide)
  simp only [chars, List.mem_append, not_or] at hpadding ⊢
  exact ⟨hpadding.1, h, hpadding.2⟩

/-- A written list is cut into its entries. -/
theorem fieldsOf_listText {entries : List Entry} (hsome : entries ≠ [])
    (huncut : ∀ entry ∈ entries, ',' ∉ entry.name.toList) :
    fieldsOf ',' (listText entries).toList = entries.map chars := by
  have hparts : ∀ part ∈ entries.map chars, ',' ∉ part := by
    intro part hpart
    obtain ⟨entry, hentry, rfl⟩ := List.mem_map.mp hpart
    exact comma_not_mem_chars (huncut entry hentry)
  refine (cutAt_iff.mp ⟨by simpa using hsome, hparts, ?_⟩).symm
  rw [listText, String.toList_ofList]

end Entry

section Reading

variable {raw item : String} {entries : List Entry}

private theorem mem_listParts :
    item ∈ listParts raw ↔
      item ≠ "" ∧ ∃ part ∈ fieldsOf ',' raw.toList, Stripped part item.toList := by
  have hempty : item.toList = [] ↔ item = "" := String.toList_eq_nil_iff
  simp only [listParts, List.mem_map, List.mem_filter, stripped_iff]
  constructor
  · rintro ⟨_, ⟨⟨part, hpart, rfl⟩, hwritten⟩, rfl⟩
    rw [String.toList_ofList] at hempty ⊢
    refine ⟨fun h => ?_, part, hpart, rfl⟩
    rw [hempty.mpr h] at hwritten
    cases hwritten
  · rintro ⟨hwritten, part, hpart, hitem⟩
    refine ⟨item.toList, ⟨⟨part, hpart, hitem.symm⟩, ?_⟩, String.ofList_toList⟩
    simpa using hwritten

/-- Of a written list exactly the names of its entries are read. -/
theorem mem_listParts_listText
    (hentries : ∀ entry ∈ entries, entry.name = "" ∨ Listable entry.name) :
    item ∈ listParts (Entry.listText entries) ↔
      item ≠ "" ∧ ∃ entry ∈ entries, entry.name = item := by
  have huncut : ∀ entry ∈ entries, ',' ∉ entry.name.toList := by
    intro entry hentry
    rcases hentries entry hentry with hblank | hlistable
    · simp [hblank]
    · exact hlistable.uncut
  have hbare : ∀ entry ∈ entries, Bare entry.name.toList := by
    intro entry hentry
    rcases hentries entry hentry with hblank | hlistable
    · rw [hblank]
      exact ⟨nofun, nofun⟩
    · exact hlistable.bare
  rw [mem_listParts]
  refine and_congr_right fun hwritten => ?_
  by_cases hsome : entries = []
  -- Without an entry nothing is written, which is one blank part.
  · subst hsome
    have hnothing : ¬Stripped [] item.toList :=
      fun h => hwritten (String.toList_eq_nil_iff.mp (stripped_iff.mp h))
    simp [Entry.listText, fieldsOf, hnothing]
  · simp only [Entry.fieldsOf_listText hsome huncut, List.mem_map, exists_exists_and_eq_and]
    refine exists_congr fun entry => and_congr_right fun hentry => ?_
    have hstripped := Entry.stripped_chars (hbare entry hentry)
    rw [stripped_iff, ← stripped_iff.mp hstripped, String.toList_inj, eq_comm]

private theorem contains_names :
    (names environment variableName).contains item ↔
      ∃ raw, environment.get? variableName = some raw ∧ item ∈ listParts raw := by
  unfold names
  split
  · rename_i hget
    simp [hget, Names.contains, Names.empty]
  · rename_i raw hget
    simp [hget, Names.contains_ofList]

end Reading

/-- A variable lists exactly the non-empty names that are left of its parts when it is cut at every
comma and each part is stripped of the spaces and tabs around it. So a set of names that can be
listed is read back from whatever lists all of its members and no other names, in any order, as
often as one likes, with padding around them and blank parts anywhere. -/
theorem names_read_back (environment : Environment) (variableName : String) :
    (∀ item, (names environment variableName).contains item ↔
      item ≠ "" ∧ ∃ raw, environment.get? variableName = some raw ∧
        ∃ parts, CutAt ',' raw.toList parts ∧ ∃ part ∈ parts, Stripped part item.toList) ∧
    ∀ (members : Names) (entries : List Entry),
      (∀ item, members.contains item → Listable item) →
      (∀ entry ∈ entries, entry.name = "" ∨ members.contains entry.name) →
      (∀ item, members.contains item → ∃ entry ∈ entries, entry.name = item) →
      environment.get? variableName = some (Entry.listText entries) →
      names environment variableName = members := by
  refine ⟨fun item => ?_, fun members entries hlistable hknown hcomplete hget => ?_⟩
  · simp only [contains_names, mem_listParts, exists_cutAt_iff]
    constructor
    · rintro ⟨raw, hget, hwritten, hpart⟩
      exact ⟨hwritten, raw, hget, hpart⟩
    · rintro ⟨hwritten, raw, hget, hpart⟩
      exact ⟨raw, hget, hwritten, hpart⟩
  · have hentries : ∀ entry ∈ entries, entry.name = "" ∨ Listable entry.name :=
      fun entry hentry => (hknown entry hentry).imp_right (hlistable entry.name)
    refine Names.ext_contains fun item => ?_
    rw [contains_names, hget]
    simp only [Option.some.injEq, exists_eq_left', mem_listParts_listText hentries]
    constructor
    · rintro ⟨hwritten, entry, hentry, rfl⟩
      exact (hknown entry hentry).resolve_left hwritten
    · exact fun hitem => ⟨(hlistable item hitem).written, hcomplete item hitem⟩

/-- Two names, one of them with a blank inside and one of them listed twice, with padding and blank
parts. -/
def scattered : List Entry :=
  [⟨[' '], "b", [' ', '\t'], by simp [padding]⟩, ⟨['\t'], "", [], by simp [padding]⟩,
    ⟨[], "a b", [], by simp⟩, ⟨[], "", [], by simp⟩, ⟨['\t'], "b", [], by simp [padding]⟩,
    ⟨[], "", [], by simp⟩]

/-- The two names are read back from a list that has one of them twice. -/
theorem names_read_back_scattered :
    let members := Names.ofList ["a b", "b"]
    let environment : Environment := .ofList [("TFLEET_RUNNER_ALLOWLIST", " b \t,\t,a b,,\tb,")]
    (∀ item, members.contains item → Listable item) ∧
      (∀ entry ∈ scattered, entry.name = "" ∨ members.contains entry.name) ∧
      (∀ item, members.contains item → ∃ entry ∈ scattered, entry.name = item) ∧
      environment.get? "TFLEET_RUNNER_ALLOWLIST" = some (Entry.listText scattered) ∧
      names environment "TFLEET_RUNNER_ALLOWLIST" = members := by
  intro members environment
  have hmembers : ∀ item, members.contains item → item ∈ ["a b", "b"] :=
    fun item h => Names.contains_ofList.mp h
  have hlistable : ∀ item, members.contains item → Listable item :=
    fun item h => (by decide : ∀ item ∈ ["a b", "b"], Listable item) item (hmembers item h)
  have hknown : ∀ entry ∈ scattered, entry.name = "" ∨ members.contains entry.name := by
    decide
  have hcomplete : ∀ item, members.contains item → ∃ entry ∈ scattered, entry.name = item :=
    fun item h => (by decide : ∀ item ∈ ["a b", "b"], ∃ entry ∈ scattered, entry.name = item) item
      (hmembers item h)
  have hget : environment.get? "TFLEET_RUNNER_ALLOWLIST" = some (Entry.listText scattered) := by
    decide
  exact ⟨hlistable, hknown, hcomplete, hget,
    (names_read_back environment _).2 members scattered hlistable hknown hcomplete hget⟩

end Fleet.Settings
