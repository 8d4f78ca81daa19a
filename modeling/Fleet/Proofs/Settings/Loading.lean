import Fleet.Proofs.Conversation
import Fleet.Proofs.Settings.Numerals

/-!
# Numbers among the settings

The numbers are read one by one, and only the place of the logs can keep the program from having
settings. How long recovery waits is kept in 64 bits, the sizes of the simulated fleet in 32. So a
number is kept exactly if it fits; of a larger one the lower bits are kept, which may be zero or
below.
-/

namespace Fleet.Settings

/-- A setting keeps what a variable says in a number of bits. -/
structure Keeps (environment : Environment) (name : String) (allowZero : Bool) (bits : Nat)
    (fallback kept : Int) : Prop where
  /-- A numeral in range is brought into 64 bits, and the lower bits of that are kept. -/
  lower : ∀ numeral : Numeral, numeral.text = rawText environment name →
    numeral.InRange allowZero → kept = (min numeral.value 9223372036854775807).bmod (2 ^ bits)
  /-- That is what the numeral stands for exactly if it fits. -/
  exact_iff : ∀ numeral : Numeral, numeral.text = rawText environment name →
    numeral.InRange allowZero → (kept = numeral.value ↔ numeral.value < 2 ^ (bits - 1))
  /-- Any other text leaves the fallback. -/
  fallen : (∀ numeral : Numeral, numeral.text = rawText environment name →
    ¬numeral.InRange allowZero) → kept = fallback

section Bits

variable {value : Int} {bits : Nat}

/-- The lower bits of a number, read with a sign, are the number exactly if it fits. -/
theorem bmod_eq_iff (hvalue : 0 ≤ value) (hpositive : 0 < bits) (hbits : bits ≤ 64) :
    (min value 9223372036854775807).bmod (2 ^ bits) = value ↔ value < 2 ^ (bits - 1) := by
  obtain ⟨below, rfl⟩ : ∃ below, bits = below + 1 := ⟨bits - 1, by omega⟩
  have hhalf : (2 : Int) ^ below ≤ 2 ^ 63 := by
    have hbelow : below ≤ 63 := by omega
    gcongr
    norm_num
  have hmodulus : ((2 ^ (below + 1) : Nat) : Int) = 2 * 2 ^ below := by
    push_cast
    ring
  rw [Nat.add_sub_cancel]
  constructor
  -- Whatever is kept lies below half of the modulus.
  · intro hkept
    have hupper := Int.bmod_lt (x := min value 9223372036854775807) (Nat.two_pow_pos (below + 1))
    rw [hkept, hmodulus] at hupper
    omega
  · intro hfits
    have hmin : min value 9223372036854775807 = value := by omega
    rw [hmin]
    refine Int.bmod_eq_of_le ?_ ?_
    · rw [hmodulus]
      omega
    · rw [hmodulus]
      omega

private theorem bmod_64 (hvalue : 0 ≤ value) :
    (min value 9223372036854775807).bmod (2 ^ 64) = min value 9223372036854775807 := by
  refine Int.bmod_eq_of_le ?_ ?_
  · norm_num
    omega
  · norm_num

end Bits

section Parts

variable {environment : Environment} {name : String} {allowZero : Bool} {bits : Nat}
  {fallback value : Int} {trace : List (Session.Exchange host)}

private theorem written_or_rejected (raw : String) (allowZero : Bool) :
    (∃ numeral : Numeral, numeral.text = raw ∧ numeral.InRange allowZero) ∨
      ∀ numeral : Numeral, numeral.text = raw → ¬numeral.InRange allowZero := by
  by_cases hwritten : ∃ numeral : Numeral, numeral.text = raw ∧ numeral.InRange allowZero
  · exact .inl hwritten
  · exact .inr fun numeral htext hrange => hwritten ⟨numeral, htext, hrange⟩

/-- What a variable is read as, whatever the host answers. -/
theorem path_loadInteger (h : (loadInteger environment name fallback allowZero).Path trace value) :
    (∀ numeral : Numeral, numeral.text = rawText environment name → numeral.InRange allowZero →
      value = min numeral.value 9223372036854775807) ∧
    ((∀ numeral : Numeral, numeral.text = rawText environment name →
      ¬numeral.InRange allowZero) → value = fallback) := by
  refine ⟨?_, ?_⟩
  · intro numeral htext hrange
    have haccepted := accepted?_text hrange
    rw [htext] at haccepted
    rw [loadInteger_of_accepted fallback haccepted] at h
    exact (Session.path_pure.mp h).2
  · intro hrejected
    rw [loadInteger_of_rejected fallback (accepted?_eq_none hrejected)] at h
    by_cases hempty : rawText environment name = ""
    · rw [if_pos hempty] at h
      exact (Session.path_pure.mp h).2
    · rw [if_neg hempty] at h
      obtain ⟨_, _, _, -, -, hreturned⟩ := Session.path_seq.mp h
      exact (Session.path_pure.mp hreturned).2

/-- Keeping the lower bits of what was read is what a setting does, if its default fits. -/
theorem keeps_of_path (hpositive : 0 < bits) (hbits : bits ≤ 64)
    (hfallback : fallback.bmod (2 ^ bits) = fallback)
    (h : (loadInteger environment name fallback allowZero).Path trace value) :
    Keeps environment name allowZero bits fallback (value.bmod (2 ^ bits)) := by
  obtain ⟨hread, hfallen⟩ := path_loadInteger h
  refine ⟨?_, ?_, ?_⟩
  · intro numeral htext hrange
    rw [hread numeral htext hrange]
  · intro numeral htext hrange
    rw [hread numeral htext hrange]
    exact bmod_eq_iff hrange.nonneg hpositive hbits
  · intro hrejected
    rw [hfallen hrejected, hfallback]

/-- All that is read fits into 64 bits, if the default does. -/
theorem bmod_64_of_path (hfallback : fallback.bmod (2 ^ 64) = fallback)
    (h : (loadInteger environment name fallback allowZero).Path trace value) :
    value.bmod (2 ^ 64) = value := by
  obtain ⟨hread, hfallen⟩ := path_loadInteger h
  rcases written_or_rejected (rawText environment name) allowZero with
    ⟨numeral, htext, hrange⟩ | hrejected
  · rw [hread numeral htext hrange]
    exact bmod_64 hrange.nonneg
  · rw [hfallen hrejected, hfallback]

/-- Who has a path returns it. -/
theorem not_path_ok {path : String} {error : NoTemporaryFolder} :
    ¬(pure (.ok path) : Hosted (Except NoTemporaryFolder String)).Path trace (.error error) := by
  intro h
  cases (Session.path_pure.mp h).2

private theorem not_path_ensured {path : String} {error : NoTemporaryFolder} :
    ¬(do ensureFolder path; return .ok path : Hosted (Except NoTemporaryFolder String)).Path trace
      (.error error) := by
  intro h
  obtain ⟨_, _, _, -, -, hended⟩ := Session.path_seq.mp h
  exact not_path_ok hended

/-- The place for temporary files is the one that was asked about in vain. -/
theorem path_temporaryFolder {error : NoTemporaryFolder}
    (h : (temporaryFolder environment).Path trace (.error error)) :
    (⟨.isFolder error.path, false⟩ : Session.Exchange host) ∈ trace := by
  obtain ⟨answer, rest, rfl, hrest⟩ := Session.path_ask.mp h
  cases answer with
  | true => exact absurd hrest not_path_ok
  | false =>
    obtain ⟨-, hended⟩ := Session.path_pure.mp hrest
    cases hended
    exact List.mem_cons_self

private theorem path_dataFolder {error : NoTemporaryFolder}
    (h : (dataFolder environment).Path trace (.error error)) :
    text? environment "XDG_DATA_HOME" = none ∧ text? environment "HOME" = none ∧
      (⟨.isFolder error.path, false⟩ : Session.Exchange host) ∈ trace := by
  obtain ⟨home, before, after, rfl, hhome, hrest⟩ := Session.path_seq.mp h
  cases home with
  | ok home => exact absurd hrest not_path_ensured
  | error other =>
    obtain ⟨rfl, hended⟩ := Session.path_pure.mp hrest
    cases hended
    rw [dataHome] at hhome
    split at hhome
    · exact absurd hhome not_path_ok
    · exact absurd hhome not_path_ok
    · rename_i hdata hhomes
      exact ⟨hdata, hhomes, List.mem_append_left _ (path_temporaryFolder hhome)⟩

/-- A folder for the logs is missing only if no variable names one and the place for temporary files
is none either. -/
theorem path_logFolder {error : NoTemporaryFolder}
    (h : (logFolder environment).Path trace (.error error)) :
    text? environment "TFLEET_LOG_DIR" = none ∧ text? environment "XDG_DATA_HOME" = none ∧
      text? environment "HOME" = none ∧
      (⟨.isFolder error.path, false⟩ : Session.Exchange host) ∈ trace := by
  rw [logFolder] at h
  split at h
  · exact absurd h not_path_ensured
  · rename_i hlogs
    obtain ⟨data, before, after, rfl, hdata, hrest⟩ := Session.path_seq.mp h
    cases data with
    | ok data => exact absurd hrest not_path_ensured
    | error other =>
      obtain ⟨rfl, hended⟩ := Session.path_pure.mp hrest
      cases hended
      obtain ⟨hhome, hhomes, hasked⟩ := path_dataFolder hdata
      exact ⟨hlogs, hhome, hhomes, List.mem_append_left _ hasked⟩

/-- A setting for which nothing is written that does not fit is the default or what is written. -/
theorem Keeps.of_fits {kept : Int} (h : Keeps environment name allowZero bits fallback kept)
    (hfits : ∀ numeral : Numeral, numeral.text = rawText environment name →
      numeral.value < 2 ^ (bits - 1)) :
    kept = fallback ∨ ∃ numeral : Numeral, numeral.InRange allowZero ∧ kept = numeral.value := by
  rcases written_or_rejected (rawText environment name) allowZero with
    ⟨numeral, htext, hrange⟩ | hrejected
  · exact .inr ⟨numeral, hrange, (h.exact_iff numeral htext hrange).mpr (hfits numeral htext)⟩
  · exact .inl (h.fallen hrejected)

end Parts

/-- The numbers among the settings, whatever the host answers: each is kept as `Keeps` says, and the
sizes of the fleet are no smaller than they may be if what is written for them fits into 32 bits.
There are no settings only if no folder for the logs could be chosen. -/
theorem load_keeps_numerals {environment : Environment} {trace : List (Session.Exchange host)}
    {result : Except NoTemporaryFolder Settings} (h : (load environment).Path trace result) :
    (∃ settings, result = .ok settings ∧
      Keeps environment "TFLEET_RECOVERY_WAIT_MS" false 64 defaultRecoveryWaitMs
        settings.recoveryWaitMs ∧
      Keeps environment "TFLEET_SIM_DEVICES" false 32 defaultSimDevices settings.simDevices ∧
      Keeps environment "TFLEET_SIM_UNITS" true 32 defaultSimUnits settings.simUnits ∧
      ((∀ numeral : Numeral, numeral.text = rawText environment "TFLEET_SIM_DEVICES" →
        numeral.value < 2 ^ 31) → 1 ≤ settings.simDevices) ∧
      ((∀ numeral : Numeral, numeral.text = rawText environment "TFLEET_SIM_UNITS" →
        numeral.value < 2 ^ 31) → 0 ≤ settings.simUnits)) ∨
    ∃ error, result = .error error ∧
      text? environment "TFLEET_LOG_DIR" = none ∧ text? environment "XDG_DATA_HOME" = none ∧
      text? environment "HOME" = none ∧
      (⟨.isFolder error.path, false⟩ : Session.Exchange host) ∈ trace := by
  obtain ⟨wait, before, after, rfl, hwait, hrest⟩ := Session.path_seq.mp h
  obtain ⟨logged, during, later, rfl, hlogged, hrest⟩ := Session.path_seq.mp hrest
  cases logged with
  | error error =>
    obtain ⟨rfl, rfl⟩ := Session.path_pure.mp hrest
    obtain ⟨hlogs, hdata, hhome, hasked⟩ := path_logFolder hlogged
    refine .inr ⟨error, rfl, hlogs, hdata, hhome, ?_⟩
    exact List.mem_append_right _ (List.mem_append_left _ hasked)
  | ok logPath =>
    obtain ⟨devices, _, _, rfl, hdevices, hrest⟩ := Session.path_seq.mp hrest
    obtain ⟨units, _, _, rfl, hunits, hrest⟩ := Session.path_seq.mp hrest
    obtain ⟨-, rfl⟩ := Session.path_pure.mp hrest
    have hkeptWait : Keeps environment "TFLEET_RECOVERY_WAIT_MS" false 64 defaultRecoveryWaitMs
        wait := by
      rw [← bmod_64_of_path rfl hwait]
      exact keeps_of_path (by decide) (by decide) rfl hwait
    have hkeptDevices : Keeps environment "TFLEET_SIM_DEVICES" false 32 defaultSimDevices
        (low32 devices) :=
      keeps_of_path (by decide) (by decide) rfl hdevices
    have hkeptUnits : Keeps environment "TFLEET_SIM_UNITS" true 32 defaultSimUnits
        (low32 units) :=
      keeps_of_path (by decide) (by decide) rfl hunits
    refine .inl ⟨_, rfl, hkeptWait, hkeptDevices, hkeptUnits, ?_, ?_⟩
    · intro hfits
      rcases hkeptDevices.of_fits hfits with hfallen | ⟨numeral, hrange, hexact⟩
      · dsimp only
        rw [hfallen]
        decide
      · dsimp only
        rw [hexact]
        exact hrange
    · intro hfits
      rcases hkeptUnits.of_fits hfits with hfallen | ⟨numeral, hrange, hexact⟩
      · dsimp only
        rw [hfallen]
        decide
      · dsimp only
        rw [hexact]
        exact hrange

/-- Default settings but for the place of the logs and the sizes of the fleet. -/
def sized (devices units : Int) : Settings where
  recoveryWaitMs := defaultRecoveryWaitMs
  logPath := "logs"
  logLevel := "info"
  allowlist := .empty
  simDevices := devices
  simUnits := units

/-- An environment that asks for five devices and no units. -/
def modest : Environment :=
  .ofList [("TFLEET_LOG_DIR", "logs"), ("TFLEET_SIM_DEVICES", " 5"), ("TFLEET_SIM_UNITS", "-0")]

private theorem path_load_modest :
    (load modest).Path [⟨.createFolders "logs", .ok ()⟩] (.ok (sized 5 0)) :=
  .ask (.done _)

/-- The two sizes that are set are taken over, and the wait that is not set falls back. -/
theorem load_keeps_numerals_modest :
    (load modest).Path [⟨.createFolders "logs", .ok ()⟩] (.ok (sized 5 0)) ∧
      Keeps modest "TFLEET_RECOVERY_WAIT_MS" false 64 defaultRecoveryWaitMs 900000 ∧
      Keeps modest "TFLEET_SIM_DEVICES" false 32 defaultSimDevices 5 ∧
      Keeps modest "TFLEET_SIM_UNITS" true 32 defaultSimUnits 0 := by
  refine ⟨path_load_modest, ?_⟩
  rcases load_keeps_numerals path_load_modest with ⟨settings, hsettings, hkept⟩ | ⟨error, herror, -⟩
  · cases hsettings
    exact ⟨hkept.1, hkept.2.1, hkept.2.2.1⟩
  · cases herror

/-- An environment that asks for so many devices that no bit of their number is kept. -/
def crowded : Environment :=
  .ofList [("TFLEET_LOG_DIR", "logs"), ("TFLEET_SIM_DEVICES", "4294967296")]

/-- What is written is a positive number, but the setting is neither that number nor the default,
and not positive. -/
theorem devices_lost_to_32_bits :
    ∃ (numeral : Numeral) (trace : List (Session.Exchange host)) (settings : Settings),
      numeral.text = rawText crowded "TFLEET_SIM_DEVICES" ∧ 0 < numeral.value ∧
      (load crowded).Path trace (.ok settings) ∧
      settings.simDevices ≠ numeral.value ∧ settings.simDevices ≠ defaultSimDevices ∧
      ¬1 ≤ settings.simDevices := by
  have hload : (load crowded).Path [⟨.createFolders "logs", .ok ()⟩] (.ok (sized 0 8)) :=
    .ask (.done _)
  refine ⟨⟨[], .unwritten, [4, 2, 9, 4, 9, 6, 7, 2, 9, 6], by simp, by simp⟩, _, sized 0 8,
    rfl, by decide, hload, ?_, ?_, ?_⟩
  · decide
  · decide
  · decide

end Fleet.Settings
