import Fleet.Rehearsal.Disk
import Fleet.Settings.Load
import Mathlib.Data.Nat.Digits.Defs

/-!
# Numerals

A variable counts as a number exactly if its text is a numeral whose value is in range: white space,
a sign that may be left out, and decimal digits, with nothing after them. Only characters of ASCII
occur in numerals, so it does not matter whether the characters of a text are the bytes of the
variable or what the bytes encode.
-/

namespace Fleet.Settings

/-- The sign of a numeral. -/
inductive Sign where
  | unwritten
  | plus
  | minus

namespace Sign

/-- What is written of a sign. -/
def chars : Sign → List Char
  | unwritten => []
  | plus => ['+']
  | minus => ['-']

/-- A magnitude with a sign. -/
def apply : Sign → Nat → Int
  | minus, magnitude => -magnitude
  | _, magnitude => magnitude

end Sign

/-- White space. -/
def whiteSpace : List Char :=
  [' ', '\t', '\n', '\x0b', '\x0c', '\r']

/-- A whole number as it is written. -/
structure Numeral where
  blanks : List Char
  sign : Sign
  /-- The decimal digits, the highest first. -/
  digits : List (Fin 10)
  blank : ∀ c ∈ blanks, c ∈ whiteSpace
  written : digits ≠ []

namespace Numeral

/-- How decimal digits are written. -/
def digitChars (digits : List (Fin 10)) : List Char :=
  digits.map fun digit => digit.val.digitChar

/-- What decimal digits stand for. -/
def magnitude (digits : List (Fin 10)) : Nat :=
  Nat.ofDigits 10 (digits.map Fin.val).reverse

/-- How a numeral is written. -/
def text (numeral : Numeral) : String :=
  String.ofList (numeral.blanks ++ (numeral.sign.chars ++ digitChars numeral.digits))

/-- What a numeral stands for. -/
def value (numeral : Numeral) : Int :=
  numeral.sign.apply (magnitude numeral.digits)

/-- The numeral stands for a positive number, or for zero where that is allowed. -/
def InRange (allowZero : Bool) (numeral : Numeral) : Prop :=
  if allowZero then 0 ≤ numeral.value else 0 < numeral.value

instance (allowZero : Bool) (numeral : Numeral) : Decidable (numeral.InRange allowZero) :=
  inferInstanceAs (Decidable (if allowZero then 0 ≤ numeral.value else 0 < numeral.value))

end Numeral

section Characters

private theorem isBlank_iff_toNat {c : Char} :
    isBlank c = true ↔ c.toNat = 32 ∨ (9 ≤ c.toNat ∧ c.toNat ≤ 13) := by
  simp [isBlank, ← Char.toNat_inj]

private theorem isBlank_iff {c : Char} : isBlank c = true ↔ c ∈ whiteSpace := by
  rw [isBlank_iff_toNat]
  simp only [whiteSpace, List.mem_cons, List.not_mem_nil, or_false, ← Char.toNat_inj,
    Char.reduceToNat]
  omega

private theorem isDigit_iff {c : Char} :
    c.isDigit = true ↔ ∃ digit : Fin 10, c = digit.val.digitChar := by
  constructor
  · intro h
    have hbounds : 48 ≤ c.toNat ∧ c.toNat ≤ 57 := by
      simpa [Char.isDigit, UInt32.le_iff_toNat_le] using h
    have hdigit : c.toNat - 48 < 10 := by omega
    refine ⟨⟨c.toNat - 48, hdigit⟩, ?_⟩
    rw [← Char.toNat_inj, Nat.toNat_digitChar_of_lt_ten hdigit]
    omega
  · rintro ⟨digit, rfl⟩
    simp [Nat.isDigit_digitChar]

/-- Digits lie behind all white space and all signs. -/
theorem le_toNat_digitChar (digit : Fin 10) : 48 ≤ digit.val.digitChar.toNat := by
  rw [Nat.toNat_digitChar_of_lt_ten digit.isLt]
  omega

private theorem digitChar_ne (digit : Fin 10) {c : Char} (h : c.toNat < 48) :
    digit.val.digitChar ≠ c := by
  rintro rfl
  have hdigit := le_toNat_digitChar digit
  omega

private theorem not_isBlank_digitChar (digit : Fin 10) : ¬isBlank digit.val.digitChar = true := by
  have hdigit := le_toNat_digitChar digit
  rw [isBlank_iff_toNat]
  omega

end Characters

section Digits

/-- Reading digits after a value moves the value up by as many places. -/
theorem digitsValue_digitChars (value : Nat) (digits : List (Fin 10)) :
    digitsValue value (Numeral.digitChars digits) =
      some (value * 10 ^ digits.length + Numeral.magnitude digits) := by
  induction digits generalizing value with
  | nil => simp [Numeral.digitChars, digitsValue, Numeral.magnitude]
  | cons digit rest ih =>
    have hdigit : digit.val.digitChar.isDigit = true := isDigit_iff.mpr ⟨digit, rfl⟩
    have hvalue : digit.val.digitChar.toNat - 48 = digit := by
      rw [Nat.toNat_digitChar_of_lt_ten digit.isLt]
      omega
    -- The first digit is the highest one: it stands above as many places as digits follow.
    have hmagnitude : Numeral.magnitude (digit :: rest) =
        Numeral.magnitude rest + 10 ^ rest.length * digit := by
      simp [Numeral.magnitude, Nat.ofDigits_append]
    rw [Numeral.digitChars, List.map_cons, digitsValue, if_pos hdigit, hvalue]
    rw [← Numeral.digitChars, ih, hmagnitude, List.length_cons]
    congr 1
    ring

/-- What can be read as digits is written in digits. -/
theorem exists_digitChars {value read : Nat} {chars : List Char}
    (h : digitsValue value chars = some read) :
    ∃ digits : List (Fin 10), chars = Numeral.digitChars digits := by
  induction chars generalizing value with
  | nil => exact ⟨[], rfl⟩
  | cons c rest ih =>
    rw [digitsValue] at h
    by_cases hdigit : c.isDigit = true
    · rw [if_pos hdigit] at h
      obtain ⟨digit, rfl⟩ := isDigit_iff.mp hdigit
      obtain ⟨digits, rfl⟩ := ih h
      exact ⟨digit :: digits, rfl⟩
    · rw [if_neg hdigit] at h
      cases h

private theorem magnitude_digitChars {digits : List (Fin 10)} (h : digits ≠ []) :
    magnitude (Numeral.digitChars digits) = some (Numeral.magnitude digits) := by
  have hread := digitsValue_digitChars 0 digits
  rw [Nat.zero_mul, Nat.zero_add] at hread
  cases digits with
  | nil => exact absurd rfl h
  | cons digit rest => exact hread

/-- A magnitude is read from one or more digits only. -/
theorem exists_of_magnitude {chars : List Char} {read : Nat} (h : magnitude chars = some read) :
    ∃ digits : List (Fin 10), digits ≠ [] ∧ chars = Numeral.digitChars digits := by
  cases chars with
  | nil => cases h
  | cons c rest =>
    obtain ⟨digits, hdigits⟩ := exists_digitChars h
    refine ⟨digits, ?_, hdigits⟩
    rintro rfl
    cases hdigits

end Digits

section Texts

/-- A sign and digits are read as what they stand for. -/
theorem signed_chars (sign : Sign) {digits : List (Fin 10)} (h : digits ≠ []) :
    signed (sign.chars ++ Numeral.digitChars digits) =
      some (sign.apply (Numeral.magnitude digits)) := by
  have hread := magnitude_digitChars h
  cases sign with
  | minus => simp [Sign.chars, signed, hread, Sign.apply]
  | plus => simp [Sign.chars, signed, hread, Sign.apply]
  | unwritten =>
    obtain ⟨digit, rest, rfl⟩ := List.exists_cons_of_ne_nil h
    rw [Numeral.digitChars, List.map_cons, ← Numeral.digitChars] at hread ⊢
    rw [Sign.chars, List.nil_append, signed]
    · simp [hread, Sign.apply]
    · intro _ hsign
      exact digitChar_ne digit (by decide) (List.cons.inj hsign).1
    · intro _ hsign
      exact digitChar_ne digit (by decide) (List.cons.inj hsign).1

/-- Only signs and digits are read. -/
theorem exists_of_signed {chars : List Char} {read : Int} (h : signed chars = some read) :
    ∃ (sign : Sign) (digits : List (Fin 10)), digits ≠ [] ∧
      chars = sign.chars ++ Numeral.digitChars digits := by
  have hparts : ∃ (sign : Sign) (rest : List Char) (found : Nat),
      chars = sign.chars ++ rest ∧ magnitude rest = some found := by
    unfold signed at h
    split at h
    all_goals
      simp only [Option.map_eq_some_iff, Option.bind_eq_bind, Option.bind_eq_some_iff] at h
      obtain ⟨_, ⟨found, hfound, -⟩, -⟩ := h
    · exact ⟨.minus, _, found, rfl, hfound⟩
    · exact ⟨.plus, _, found, rfl, hfound⟩
    · exact ⟨.unwritten, _, found, rfl, hfound⟩
  obtain ⟨sign, rest, found, rfl, hfound⟩ := hparts
  obtain ⟨digits, hdigits, rfl⟩ := exists_of_magnitude hfound
  exact ⟨sign, digits, hdigits, rfl⟩

/-- Signs and digits are no white space. -/
theorem dropWhile_isBlank (sign : Sign) {digits : List (Fin 10)} (h : digits ≠ []) :
    (sign.chars ++ Numeral.digitChars digits).dropWhile isBlank =
      sign.chars ++ Numeral.digitChars digits := by
  cases sign with
  | minus => rfl
  | plus => rfl
  | unwritten =>
    obtain ⟨digit, rest, rfl⟩ := List.exists_cons_of_ne_nil h
    rw [Sign.chars, List.nil_append, Numeral.digitChars, List.map_cons,
      List.dropWhile_cons_of_neg (not_isBlank_digitChar digit)]

/-- A numeral is read as what it stands for. -/
theorem signed_text (numeral : Numeral) :
    signed (numeral.text.toList.dropWhile isBlank) = some numeral.value := by
  have hblanks : ∀ c ∈ numeral.blanks, isBlank c = true :=
    fun c hc => isBlank_iff.mpr (numeral.blank c hc)
  rw [Numeral.text, String.toList_ofList, List.dropWhile_append_of_pos hblanks,
    dropWhile_isBlank _ numeral.written, signed_chars _ numeral.written, Numeral.value]

private theorem number?_text (numeral : Numeral) :
    number? numeral.text = some (clamped numeral.value) := by
  rw [number?, signed_text, Option.map_some]

/-- Only numerals are read. -/
theorem exists_of_number? {raw : String} {read : Int} (h : number? raw = some read) :
    ∃ numeral : Numeral, numeral.text = raw := by
  obtain ⟨_, hsigned, -⟩ := Option.map_eq_some_iff.mp h
  obtain ⟨sign, digits, hdigits, hrest⟩ := exists_of_signed hsigned
  have hblanks : ∀ c ∈ raw.toList.takeWhile isBlank, c ∈ whiteSpace :=
    fun c hc => isBlank_iff.mp (List.all_eq_true.mp List.all_takeWhile c hc)
  refine ⟨{ blanks := raw.toList.takeWhile isBlank, sign, digits, blank := hblanks,
            written := hdigits }, ?_⟩
  rw [Numeral.text, ← hrest, List.takeWhile_append_dropWhile, String.ofList_toList]

end Texts

section Settings

variable {allowZero : Bool}

/-- Bringing a number into 64 bits does not change its sign. -/
theorem inRange_clamped (numeral : Numeral) :
    inRange allowZero (clamped numeral.value) = true ↔ numeral.InRange allowZero := by
  cases allowZero <;> simp [inRange, clamped, Numeral.InRange]

/-- A numeral in range is not negative. -/
theorem Numeral.InRange.nonneg {numeral : Numeral} (h : numeral.InRange allowZero) :
    0 ≤ numeral.value := by
  cases allowZero with
  | false => exact Int.le_of_lt h
  | true => exact h

/-- A numeral in range is accepted, cut off at the largest value. -/
theorem accepted?_text {numeral : Numeral} (h : numeral.InRange allowZero) :
    accepted? allowZero numeral.text = some (min numeral.value 9223372036854775807) := by
  have hrange := (inRange_clamped numeral).mpr h
  have hclamped : clamped numeral.value = min numeral.value 9223372036854775807 := by
    have hsign := h.nonneg
    rw [clamped]
    omega
  rw [accepted?, number?_text, Option.filter_some, if_pos hrange, hclamped]

/-- Nothing else is accepted. -/
theorem accepted?_eq_none {raw : String}
    (h : ∀ numeral : Numeral, numeral.text = raw → ¬numeral.InRange allowZero) :
    accepted? allowZero raw = none := by
  cases hread : number? raw with
  | none => rw [accepted?, hread, Option.filter_none]
  | some read =>
    obtain ⟨numeral, rfl⟩ := exists_of_number? hread
    have hrange : ¬inRange allowZero (clamped numeral.value) = true :=
      fun hrange => h numeral rfl ((inRange_clamped numeral).mp hrange)
    rw [accepted?, number?_text, Option.filter_some, if_neg hrange]

/-- The text of a variable; a missing one is as good as empty. -/
def rawText (environment : Environment) (name : String) : String :=
  (environment.get? name).getD ""

private theorem accepted?_empty : accepted? allowZero "" = none := by
  cases allowZero <;> rfl

variable {environment : Environment} {name : String}

/-- The number is what an accepted text says, or else the fallback. There is a warning about any
other text that is not empty. -/
theorem integer_eq (environment : Environment) (name : String) (fallback : Int) :
    integer environment name fallback allowZero =
      ((accepted? allowZero (rawText environment name)).getD fallback,
        if (accepted? allowZero (rawText environment name)).isSome ∨ rawText environment name = ""
        then none else some (invalidValue name (rawText environment name) fallback)) := by
  rw [integer, rawText]
  split
  · rename_i hget
    simp [hget, accepted?_empty]
  · rename_i hget
    simp [hget, accepted?_empty]
  · rename_i raw hset hget
    have hwritten : raw ≠ "" := hset
    cases haccepted : accepted? allowZero raw with
    | none => simp [hget, haccepted, hwritten]
    | some value => simp [hget, haccepted]

/-- An accepted text is the value, and nothing is asked of the host. -/
theorem loadInteger_of_accepted (fallback : Int) {value : Int}
    (h : accepted? allowZero (rawText environment name) = some value) :
    loadInteger environment name fallback allowZero = pure value := by
  simp [loadInteger, integer_eq, h]

/-- Any other text is warned about unless it is empty. -/
theorem loadInteger_of_rejected (fallback : Int)
    (h : accepted? allowZero (rawText environment name) = none) :
    loadInteger environment name fallback allowZero =
      if rawText environment name = "" then pure fallback
      else (do
        Host.ask (.log (invalidValue name (rawText environment name) fallback))
        return fallback) := by
  by_cases hempty : rawText environment name = ""
  · simp [loadInteger, integer_eq, hempty, accepted?_empty]
  · simp [loadInteger, integer_eq, h, hempty]

/-- A variable is read as a number exactly if its text is a numeral in range. Then its value is the
setting, brought into 64 bits, and the host is asked nothing. Otherwise the fallback is the setting,
and the host is only told of a text that is not empty, in one warning, which a machine in memory
keeps if it keeps log lines at all. -/
theorem loadInteger_reads_numerals (environment : Environment) (name : String) (fallback : Int)
    (allowZero : Bool) :
    (∀ numeral : Numeral, numeral.text = rawText environment name → numeral.InRange allowZero →
      loadInteger environment name fallback allowZero =
        pure (min numeral.value 9223372036854775807)) ∧
    ((∀ numeral : Numeral, numeral.text = rawText environment name →
        ¬numeral.InRange allowZero) →
      (rawText environment name = "" →
        loadInteger environment name fallback allowZero = pure fallback) ∧
      (rawText environment name ≠ "" →
        let warning := invalidValue name (rawText environment name) fallback
        loadInteger environment name fallback allowZero =
          (do Host.ask (.log warning); return fallback) ∧
        ∀ machine : Rehearsal.Machine,
          (Rehearsal.Machine.play (loadInteger environment name fallback allowZero)).run machine =
            (fallback, { machine with
              entries := if machine.logging then warning :: machine.entries
                else machine.entries }))) := by
  refine ⟨?_, ?_⟩
  · intro numeral htext hrange
    have haccepted := accepted?_text hrange
    rw [htext] at haccepted
    exact loadInteger_of_accepted fallback haccepted
  · intro hrejected
    have hloaded := loadInteger_of_rejected fallback (accepted?_eq_none hrejected)
    refine ⟨fun hempty => ?_, fun hwritten => ⟨?_, fun machine => ?_⟩⟩
    · rw [hloaded, if_pos hempty]
    · rw [hloaded, if_neg hwritten]
    · rw [hloaded, if_neg hwritten]
      obtain ⟨disk, logging, entries, printed⟩ := machine
      cases logging <;> rfl

/-- A padded numeral beyond all bounds is cut off; a signed zero counts where zero is allowed only;
and a blank behind a numeral spoils it. -/
theorem loadInteger_reads_numerals_spelled :
    let devices (raw : String) : Environment := .ofList [("TFLEET_SIM_DEVICES", raw)]
    loadInteger (devices "\t +99999999999999999999") "TFLEET_SIM_DEVICES" 2 false =
        pure 9223372036854775807 ∧
      loadInteger (devices "-0") "TFLEET_SIM_DEVICES" 2 true = pure 0 ∧
      loadInteger (devices "-0") "TFLEET_SIM_DEVICES" 2 false =
        (do Host.ask (.log (invalidValue "TFLEET_SIM_DEVICES" "-0" 2)); return 2) ∧
      loadInteger (devices "4 ") "TFLEET_SIM_DEVICES" 2 false =
        (do Host.ask (.log (invalidValue "TFLEET_SIM_DEVICES" "4 " 2)); return 2) := by
  intro devices
  have hzero : ∀ numeral : Numeral, numeral.text = "-0" → ¬numeral.InRange false := by
    intro numeral htext hrange
    have haccepted := accepted?_text hrange
    rw [htext] at haccepted
    cases haccepted
  have htrailing : ∀ numeral : Numeral, numeral.text = "4 " → ¬numeral.InRange false := by
    intro numeral htext
    have hread := number?_text numeral
    rw [htext] at hread
    cases hread
  refine ⟨?_, ?_, ?_, ?_⟩
  · exact (loadInteger_reads_numerals (devices "\t +99999999999999999999") "TFLEET_SIM_DEVICES" 2
      false).1 ⟨['\t', ' '], .plus, List.replicate 20 9, by simp [whiteSpace], by simp⟩ rfl
      (by decide)
  · exact (loadInteger_reads_numerals (devices "-0") "TFLEET_SIM_DEVICES" 2 true).1
      ⟨[], .minus, [0], by simp, by simp⟩ rfl (by decide)
  · exact (((loadInteger_reads_numerals (devices "-0") "TFLEET_SIM_DEVICES" 2 false).2 hzero).2
      (by decide)).1
  · exact (((loadInteger_reads_numerals (devices "4 ") "TFLEET_SIM_DEVICES" 2 false).2
      htrailing).2 (by decide)).1

end Settings

end Fleet.Settings
