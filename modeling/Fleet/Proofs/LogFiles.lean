import Fleet.Files.LogStore
import Fleet.Proofs.Conversation
import Mathlib.Algebra.GroupWithZero.Nat
import Mathlib.Data.List.DropRight

/-!
# The files of a log store

A store chooses one path for each log, unless its folder cannot be made. However the host answers,
the path leads to a file in the folder of the store itself, and no path is chosen a second time
before all numbers of 32 bits are used up: the number of a log can be read off the end of the name
of its file, whatever the log is called.

A byte that belongs to no character counts as one underscore, as a character such as a blank does:
names that are texts are given every file name there is.
-/

namespace Fleet

/-- The name of a file that can stand in a folder, and cannot lead out of it: letters, digits and a
few signs, but neither of the names that stand for the folder and for what it lies in. -/
structure PlainName (name : String) : Prop where
  plain : ∀ c ∈ name.toList, c.isAlpha ∨ c.isDigit ∨ c ∈ ['-', '_', '.']
  written : name ≠ ""
  notHere : name ≠ "."
  notAbove : name ≠ ".."

/-- What parts a folder from a name in it. -/
def separatorAfter (folder : String) : String :=
  if folder.isEmpty || folder.endsWith "/" then "" else "/"

namespace PlainName

variable {name other : String}

private theorem not_slash (h : PlainName name) : '/' ∉ name.toList := fun hslash =>
  absurd (h.plain '/' hslash) (by decide)

private theorem isAbsolutePath_eq_false (h : PlainName name) : isAbsolutePath name = false := by
  rw [isAbsolutePath, String.startsWith_string_eq_false_iff]
  exact fun hslash => h.not_slash (hslash.subset (by decide))

/-- A name is simply put after its folder. -/
theorem joinPath_eq (h : PlainName name) (folder : String) :
    joinPath folder name = folder ++ separatorAfter folder ++ name := by
  rw [joinPath, h.isAbsolutePath_eq_false, separatorAfter]
  by_cases hempty : folder.isEmpty = true
  · simp [String.isEmpty_iff.mp hempty]
  · by_cases hslash : folder.endsWith "/" = true
    · simp [hempty, hslash]
    · simp [hempty, hslash]

/-- In one folder, different names are different paths. -/
theorem eq_of_joinPath_eq (h : PlainName name) (hother : PlainName other) {folder : String}
    (hpaths : joinPath folder name = joinPath folder other) : name = other := by
  rw [h.joinPath_eq, hother.joinPath_eq] at hpaths
  exact (String.append_right_inj _).mp hpaths

end PlainName

namespace LogStore

section Names

variable {log other : String} {kind otherKind : LogKind} {number otherNumber : Nat}

private theorem toList_fileName (log : String) (kind : LogKind) (number : Nat) :
    (fileName log kind number).toList =
      (stem log).toList ++ '_' :: (Nat.toDigits 10 number ++ '.' :: (ending kind).toList) := by
  simp [fileName]

private theorem plain_of_mem_stem {c : Char} (h : c ∈ (stem log).toList) :
    c.isAlpha ∨ c.isDigit ∨ c ∈ ['-', '_', '.'] := by
  rw [stem, String.toList_ofList] at h
  obtain ⟨original, -, hform⟩ := List.mem_flatMap.mp h
  rw [plainForm] at hform
  split at hform
  · rename_i hplain
    obtain rfl := List.mem_singleton.mp hform
    simpa [isPlain, Char.isAlphanum, or_assoc] using hplain
  · obtain rfl := List.eq_of_mem_replicate hform
    decide

private theorem isAlpha_of_mem_ending {c : Char} (h : c ∈ (ending kind).toList) :
    c.isAlpha = true := by
  have hall : (ending kind).toList.all Char.isAlpha = true := by
    cases kind <;> rfl
  exact List.all_eq_true.mp hall c h

private theorem length_ending (kind : LogKind) : (ending kind).toList.length = 3 := by
  cases kind <;> rfl

private theorem plainName_fileName (log : String) (kind : LogKind) (number : Nat) :
    PlainName (fileName log kind number) := by
  have hunderscore : '_' ∈ (fileName log kind number).toList := by
    simp [toList_fileName]
  refine ⟨?_, ?_, ?_, ?_⟩
  · intro c hc
    rw [toList_fileName, List.mem_append, List.mem_cons, List.mem_append, List.mem_cons] at hc
    rcases hc with hstem | rfl | hdigit | rfl | hending
    · exact plain_of_mem_stem hstem
    · decide
    · exact .inr (.inl (Nat.isDigit_of_mem_toDigits (by decide) (by decide) hdigit))
    · decide
    · exact .inl (isAlpha_of_mem_ending hending)
  all_goals
    intro hname
    rw [hname] at hunderscore
    exact absurd hunderscore (by decide)

/-- After an underscore, the digits at the end are those of the number. -/
theorem rtakeWhile_isDigit (before : List Char) (number : Nat) :
    (before ++ '_' :: Nat.toDigits 10 number).rtakeWhile Char.isDigit =
      Nat.toDigits 10 number := by
  have hdigits : ∀ c ∈ (Nat.toDigits 10 number).reverse, c.isDigit = true :=
    fun c hc => Nat.isDigit_of_mem_toDigits (by decide) (by decide) (List.mem_reverse.mp hc)
  rw [List.rtakeWhile, List.reverse_append, List.reverse_cons, List.append_assoc,
    List.takeWhile_append_of_pos hdigits, List.singleton_append,
    List.takeWhile_cons_of_neg (by decide), List.append_nil, List.reverse_reverse]

/-- The number of a log can be read off the end of the name of its file. -/
theorem number_eq_of_fileName_eq
    (h : fileName log kind number = fileName other otherKind otherNumber) :
    number = otherNumber := by
  have hwhole :
      ((stem log).toList ++ '_' :: Nat.toDigits 10 number) ++ '.' :: (ending kind).toList =
        ((stem other).toList ++ '_' :: Nat.toDigits 10 otherNumber) ++
          '.' :: (ending otherKind).toList := by
    simpa only [toList_fileName, List.append_assoc, List.cons_append] using congrArg String.toList h
  -- All endings are equally long, so what stands before them is the same.
  obtain ⟨hnumbered, -⟩ := List.append_inj' hwhole (by simp [length_ending])
  have hdigits : Nat.toDigits 10 number = Nat.toDigits 10 otherNumber := by
    rw [← rtakeWhile_isDigit (stem log).toList, hnumbered, rtakeWhile_isDigit]
  rw [← Nat.ofDigitChars_ten_toDigits (n := number), hdigits, Nat.ofDigitChars_ten_toDigits]

end Names

/-- A log to be kept. -/
structure Log where
  name : String
  kind : LogKind
  data : String

section Paths

variable {store : LogStore} {logs : List Log} {path : String}

/-- The store when its next number has been used up. -/
def advanced (store : LogStore) : LogStore :=
  { store with next := store.next + 1 }

/-- The paths that a store chooses for some logs in a row. -/
def pathsFor (store : LogStore) : List Log → List String
  | [] => []
  | log :: rest => store.nextPath log.name log.kind :: store.advanced.pathsFor rest

/-- The number of each of the logs is as far from the first number as the log from the first log. -/
theorem exists_number_of_mem_pathsFor (h : path ∈ store.pathsFor logs) :
    ∃ log : Log, ∃ place < logs.length,
      path = joinPath store.folder
        (fileName log.name log.kind ((store.next.toNat + place) % 2 ^ 32)) := by
  induction logs generalizing store with
  | nil => cases h
  | cons log rest ih =>
    rw [pathsFor, List.mem_cons] at h
    rcases h with hfirst | hrest
    · have hnext : (store.next.toNat + 0) % 2 ^ 32 = store.next.toNat := by
        have hbound := store.next.toNat_lt
        omega
      refine ⟨log, 0, by simp, ?_⟩
      rw [hnext, hfirst, nextPath]
    · obtain ⟨other, place, hplace, hpath⟩ := ih hrest
      have hnumber : (store.advanced.next.toNat + place) % 2 ^ 32 =
          (store.next.toNat + (place + 1)) % 2 ^ 32 := by
        rw [advanced, UInt32.toNat_add, UInt32.toNat_one]
        omega
      refine ⟨other, place + 1, by simpa using hplace, ?_⟩
      rw [hpath, hnumber, advanced]

/-- Before the numbers begin again, all paths are different. -/
theorem nodup_pathsFor (h : logs.length ≤ 2 ^ 32) : (store.pathsFor logs).Nodup := by
  induction logs generalizing store with
  | nil => exact List.nodup_nil
  | cons log rest ih =>
    rw [List.length_cons] at h
    refine List.nodup_cons.mpr ⟨fun hagain => ?_, ih (by omega)⟩
    obtain ⟨other, place, hplace, hpath⟩ := exists_number_of_mem_pathsFor hagain
    have hnames := PlainName.eq_of_joinPath_eq (plainName_fileName _ _ _)
      (plainName_fileName _ _ _) hpath
    have hnumbers := number_eq_of_fileName_eq hnames
    have hbound := store.next.toNat_lt
    rw [advanced, UInt32.toNat_add, UInt32.toNat_one] at hnumbers
    omega

end Paths

section Saving

variable {store after last : LogStore} {log : Log} {logs : List Log}
  {trace : List (Session.Exchange host)} {result : Except TaskError LogFile}
  {results : List (Except TaskError LogFile)}

/-- Keep some logs, one after the other. -/
def saveAll (store : LogStore) : List Log → Hosted (List (Except TaskError LogFile) × LogStore)
  | [] => return ([], store)
  | log :: rest => do
    let (result, after) ← store.save log.name log.kind log.data
    let (results, last) ← after.saveAll rest
    return (result :: results, last)

/-- The path that the host is asked to make a file at. -/
def writtenPath (exchange : Session.Exchange host) : Option String :=
  match exchange.question with
  | .write path _ => some path
  | _ => none

/-- A call tells of the path it has chosen, or why it has chosen none. -/
def TellsOf (folder : String) (result : Except TaskError LogFile) : Option String → Prop
  | none =>
    ∃ reason, result =
      .error (failure 501 ("Cannot create log dir " ++ folder ++ ": " ++ reason))
  | some path =>
    (∃ file, result = .ok file ∧ file.path = path) ∨
      result = .error (failure 502 ("Cannot open " ++ path ++ " for writing")) ∨
      result = .error (failure 503 ("Failed writing " ++ path))

/-- One call chooses the next path and uses its number up, unless there is no folder. -/
theorem path_save (h : (store.save log.name log.kind log.data).Path trace (result, after)) :
    (TellsOf store.folder result none ∧ trace.filterMap writtenPath = [] ∧ after = store) ∨
      (TellsOf store.folder result (some (store.nextPath log.name log.kind)) ∧
        trace.filterMap writtenPath = [store.nextPath log.name log.kind] ∧
        after = store.advanced) := by
  rw [save] at h
  generalize store.nextPath log.name log.kind = path at h ⊢
  obtain ⟨made, afterFolder, rfl, hfolder⟩ := Session.path_ask.mp h
  cases made with
  | error reason =>
    obtain ⟨rfl, rfl, rfl⟩ := Session.path_pure_pair.mp hfolder
    exact .inl ⟨⟨reason, rfl⟩, rfl, rfl⟩
  | ok made =>
    obtain ⟨outcome, afterFile, rfl, hfile⟩ := Session.path_ask.mp hfolder
    cases outcome with
    | notOpened =>
      obtain ⟨rfl, rfl, rfl⟩ := Session.path_pure_pair.mp hfile
      exact .inr ⟨.inr (.inl rfl), rfl, rfl⟩
    | notWritten =>
      obtain ⟨rfl, rfl, rfl⟩ := Session.path_pure_pair.mp hfile
      exact .inr ⟨.inr (.inr rfl), rfl, rfl⟩
    | written =>
      obtain ⟨_, afterLine, rfl, hline⟩ := Session.path_ask.mp hfile
      obtain ⟨absolute, ending, rfl, hdone⟩ := Session.path_ask.mp hline
      obtain ⟨rfl, rfl, rfl⟩ := Session.path_pure_pair.mp hdone
      exact .inr ⟨.inl ⟨_, rfl, rfl⟩, rfl, rfl⟩

/-- Several calls choose the paths of some of the logs, in order. -/
theorem path_saveAll (h : (store.saveAll logs).Path trace (results, last)) :
    ∃ (chosen : List (Option String)) (kept : List Log),
      chosen.length = logs.length ∧ List.Forall₂ (TellsOf store.folder) results chosen ∧
        trace.filterMap writtenPath = chosen.filterMap id ∧
        chosen.filterMap id = store.pathsFor kept ∧ kept.length ≤ logs.length := by
  induction logs generalizing store trace results with
  | nil =>
    obtain ⟨rfl, rfl, rfl⟩ := Session.path_pure_pair.mp h
    exact ⟨[], [], rfl, .nil, rfl, rfl, Nat.le_refl _⟩
  | cons log rest ih =>
    obtain ⟨⟨result, after⟩, before, later, rfl, hsaved, hlater⟩ := Session.path_seq.mp h
    obtain ⟨⟨others, final⟩, during, ending, rfl, hothers, hdone⟩ := Session.path_seq.mp hlater
    obtain ⟨rfl, rfl, rfl⟩ := Session.path_pure_pair.mp hdone
    obtain ⟨chosen, kept, hlength, htold, hwritten, hkept, hfew⟩ := ih hothers
    rcases path_save hsaved with ⟨htells, hnone, rfl⟩ | ⟨htells, hone, rfl⟩
    · refine ⟨none :: chosen, kept, by simp [hlength], .cons htells htold, ?_, hkept, ?_⟩
      · simp [hnone, hwritten]
      · exact Nat.le_succ_of_le hfew
    · refine ⟨some (store.nextPath log.name log.kind) :: chosen, log :: kept, by simp [hlength],
        .cons htells htold, ?_, ?_, Nat.succ_le_succ hfew⟩
      · simp [hone, hwritten]
      · rw [pathsFor, ← hkept]
        rfl

/-- Every path for a log leads to a file in the folder of the store itself. -/
theorem exists_name_of_mem_pathsFor {path : String} (h : path ∈ store.pathsFor logs) :
    ∃ name, PlainName name ∧ path = store.folder ++ separatorAfter store.folder ++ name := by
  obtain ⟨log, place, -, hpath⟩ := exists_number_of_mem_pathsFor h
  have hplain := plainName_fileName log.name log.kind ((store.next.toNat + place) % 2 ^ 32)
  exact ⟨_, hplain, hpath.trans (hplain.joinPath_eq store.folder)⟩

/-- What a store has chosen in some calls: one path at most for each of them. -/
structure Choice (folder : String) (trace : List (Session.Exchange host))
    (results : List (Except TaskError LogFile)) (chosen : List (Option String)) : Prop where
  told : List.Forall₂ (TellsOf folder) results chosen
  /-- The host makes files at these paths only. -/
  written : trace.filterMap writtenPath = chosen.filterMap id
  distinct : (chosen.filterMap id).Nodup
  /-- Each path leads to a file in the folder of the store itself. -/
  inside : ∀ path, some path ∈ chosen →
    ∃ name, PlainName name ∧ path = folder ++ separatorAfter folder ++ name

/-- Whatever is kept and however the host answers: as long as there are no more calls than numbers,
no path is chosen twice, and none leads out of the folder. -/
theorem saveAll_paths_distinct (hfew : logs.length ≤ 2 ^ 32)
    (h : (store.saveAll logs).Path trace (results, last)) :
    ∃ chosen, chosen.length = logs.length ∧ Choice store.folder trace results chosen := by
  obtain ⟨chosen, kept, hlength, htold, hwritten, hpaths, hkept⟩ := path_saveAll h
  refine ⟨chosen, hlength, htold, hwritten, ?_, fun path hpath => ?_⟩
  · rw [hpaths]
    exact nodup_pathsFor (Nat.le_trans hkept hfew)
  · have hchosen : path ∈ chosen.filterMap id :=
      List.mem_filterMap.mpr ⟨some path, hpath, rfl⟩
    rw [hpaths] at hchosen
    exact exists_name_of_mem_pathsFor hchosen

/-- A host that cannot open a file to put nothing into it. -/
def reluctant : (question : HostRequest) → host.Answer question
  | .createFolders _ => .ok ()
  | .write _ data => if data.isEmpty then .notOpened else .written
  | .absolute path => "/" ++ path
  | .log _ | .print _ => ()
  | .clock => 0
  | .isFolder _ => true

/-- Three logs are kept while the number starts again from zero, two of them with a name that would
lead out of the folder. -/
theorem saveAll_paths_distinct_at_last_number :
    let store : LogStore := { folder := "logs", next := 4294967295 }
    let logs : List Log := [⟨"../up", .text, ""⟩, ⟨"../up", .text, "a"⟩, ⟨"", .zip, "b"⟩]
    let (trace, results, last) := (store.saveAll logs).converse reluctant
    logs.length ≤ 2 ^ 32 ∧ (store.saveAll logs).Path trace (results, last) ∧
      trace.filterMap writtenPath =
        ["logs/.._up_4294967295.txt", "logs/.._up_0.txt", "logs/log_1.zip"] ∧
      ∃ chosen, chosen.length = 3 ∧ Choice "logs" trace results chosen := by
  intro store logs
  have hpath := Session.path_converse reluctant (store.saveAll logs)
  exact ⟨by decide, hpath, by decide +kernel, saveAll_paths_distinct (by decide) hpath⟩

end Saving

end LogStore

end Fleet
