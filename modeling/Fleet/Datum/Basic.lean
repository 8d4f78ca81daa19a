import Fleet.Data.Names
import Fleet.Data.Dict

/-!
# Data

The plain values in which scripts are written and journals are kept: flags, whole numbers, texts,
lists and records. `ToDatum` and `OfDatum` say how a type is written and read; what is missing
reads as `nothing`.
-/

namespace Fleet

/-- A plain value. -/
inductive Datum where
  | nothing
  | flag (value : Bool)
  | number (value : Int)
  | text (value : String)
  | list (items : List Datum)
  /-- Values by name, in the order in which they were written. -/
  | record (fields : List (String × Datum))
  deriving Inhabited

/-- What reading a datum comes to: a value, or why it cannot be read. -/
abbrev Reading := Except String

namespace Datum

/-! ## Text -/

/-- A character inside a quoted text. Control characters are escaped, all others stand for
themselves. -/
def escaped (c : Char) : String :=
  match c with
  | '"' => "\\\""
  | '\\' => "\\\\"
  | '\n' => "\\n"
  | '\t' => "\\t"
  | '\r' => "\\r"
  | c =>
    if c.toNat < 32 || c.toNat = 127 then
      "\\u00" ++ String.ofList [Nat.digitChar (c.toNat / 16), Nat.digitChar (c.toNat % 16)]
    else c.toString

/-- A text in quotes. -/
def quoted (text : String) : String :=
  "\"" ++ String.join (text.toList.map escaped) ++ "\""

mutual

/-- The text of a datum on one line, without blanks. -/
def compact : Datum → String
  | nothing => "null"
  | flag value => if value then "true" else "false"
  | number value => toString value
  | text value => quoted value
  | list items => "[" ++ ",".intercalate (compactItems items) ++ "]"
  | record fields => "\x7b" ++ ",".intercalate (compactFields fields) ++ "\x7d"

/-- The texts of the items of a list. -/
def compactItems : List Datum → List String
  | [] => []
  | item :: rest => item.compact :: compactItems rest

/-- The texts of the fields of a record. -/
def compactFields : List (String × Datum) → List String
  | [] => []
  | (key, value) :: rest => (quoted key ++ ":" ++ value.compact) :: compactFields rest

end

/-! ## Parts -/

/-- The value of a record under a name. -/
def field (datum : Datum) (key : String) : Datum :=
  match datum with
  | record fields => (fields.lookup key).getD nothing
  | _ => nothing

/-- The items of a list; nothing has no items. -/
def items? : Datum → Reading (List Datum)
  | nothing => .ok []
  | list items => .ok items
  | _ => .error "list expected"

/-- The fields of a record; nothing has no fields. -/
def fields? : Datum → Reading (List (String × Datum))
  | nothing => .ok []
  | record fields => .ok fields
  | _ => .error "record expected"

/-- The item of a list at a position. -/
def item (datum : Datum) (index : Nat) : Datum :=
  match datum with
  | list items => items.getD index nothing
  | _ => nothing

/-- Whether anything is there. -/
def isNothing : Datum → Bool
  | nothing => true
  | _ => false

end Datum

/-! ## Writing -/

/-- How values of a type are written. -/
class ToDatum (α : Type) where
  /-- The datum of a value. -/
  toDatum : α → Datum

export ToDatum (toDatum)

section Writing

variable {α β : Type}

instance [ToDatum α] : CoeHead α Datum := ⟨toDatum⟩

instance : ToDatum Bool := ⟨.flag⟩
instance : ToDatum Int := ⟨.number⟩
instance : ToDatum Nat := ⟨fun n => .number n⟩
instance : ToDatum String := ⟨.text⟩
instance : ToDatum Datum := ⟨id⟩
instance : ToDatum Unit := ⟨fun () => .nothing⟩
instance [ToDatum α] : ToDatum (List α) := ⟨fun xs => .list (xs.map toDatum)⟩
instance [ToDatum α] : ToDatum (Option α) := ⟨fun x => x.elim .nothing toDatum⟩
instance [ToDatum α] [ToDatum β] : ToDatum (α × β) :=
  ⟨fun (a, b) => .list [toDatum a, toDatum b]⟩
instance [ToDatum α] : ToDatum (Dict α) :=
  ⟨fun dict => .record (dict.entries.map fun (key, value) => (key, toDatum value))⟩
instance : ToDatum Names := ⟨fun names => toDatum names.toList⟩

/-- A list that starts with a word. -/
def Datum.row (word : String) (rest : List Datum) : Datum :=
  .list (.text word :: rest)

end Writing

/-! ## Reading -/

/-- How values of a type are read. -/
class OfDatum (α : Type) where
  /-- The value a datum stands for. -/
  ofDatum : Datum → Reading α

section Reading

variable {α : Type}

namespace Datum

/-- Read a datum. -/
def read [OfDatum α] (datum : Datum) : Reading α :=
  OfDatum.ofDatum datum

/-- Read a datum; nothing stands for a default. -/
def readD [OfDatum α] (datum : Datum) (default : α) : Reading α :=
  match datum with
  | nothing => .ok default
  | datum => datum.read

/-- Read a field of a record. -/
def get [OfDatum α] (datum : Datum) (key : String) : Reading α :=
  (datum.field key).read

/-- Read a field of a record; a missing one stands for a default. -/
def getD [OfDatum α] (datum : Datum) (key : String) (default : α) : Reading α :=
  (datum.field key).readD default

/-- Read an item of a list. -/
def nth [OfDatum α] (datum : Datum) (index : Nat) : Reading α :=
  (datum.item index).read

/-- The word a list starts with. -/
def word (datum : Datum) : Reading String :=
  match datum.item 0 with
  | text value => .ok value
  | _ => .error "word expected"

end Datum

instance : OfDatum Datum := ⟨.ok⟩
instance : OfDatum Bool where
  ofDatum
    | .flag value => .ok value
    | _ => .error "flag expected"
instance : OfDatum Int where
  ofDatum
    | .number value => .ok value
    | _ => .error "number expected"
instance : OfDatum Nat where
  ofDatum
    | .number value => .ok value.toNat
    | _ => .error "number expected"
instance : OfDatum String where
  ofDatum
    | .text value => .ok value
    | _ => .error "text expected"
instance [OfDatum α] : OfDatum (Option α) where
  ofDatum
    | .nothing => .ok none
    | datum => some <$> datum.read
instance [OfDatum α] : OfDatum (List α) where
  ofDatum datum := do (← datum.items?).mapM Datum.read
instance [OfDatum α] : OfDatum (Dict α) where
  ofDatum datum := do
    return .ofList (← (← datum.fields?).mapM fun (key, value) => return (key, ← value.read))
instance : OfDatum Names where
  ofDatum datum := return .ofList (← datum.read)

end Reading

end Fleet
