import StoryScript.Json.Printer
import StoryScript.Text.Printable

/-!
# Taking JSON apart

Records are read from objects by field name, or from arrays by position. Of several things wrong
with an object the first wrong value is reported, in the order of field names, and only then the
first missing field, in the order of declaration. In an array everything goes by position.

## Main definitions

* `DecodeError` and `DecodeError.message` — why a value is refused.
* `text`, `flag`, `int64`, `size`, `float`, `list`, `optional`, `variant` — the plain decoders.
* `Record`, `Slot`, `settle` — the fields of a record, and the order in which they are judged.
-/

namespace StoryScript

/-- What stands where something else was expected. -/
inductive Found where
  | null
  | bool (b : Bool)
  | int (n : Int)
  | float (x : Float)
  | string (s : String)
  | sequence
  | map
deriving Repr

def Found.text : Found → String
  | .null => "null"
  | .bool b => if b then "boolean `true`" else "boolean `false`"
  | .int n => s!"integer `{n}`"
  | .float x => s!"floating point `{floatText x}`"
  | .string s => s!"string {Text.quoted s}"
  | .sequence => "sequence"
  | .map => "map"

/-- Why a value is refused. -/
inductive DecodeError where
  | wrongType (found : Found) (expected : String)
  | wrongValue (found : Found) (expected : String)
  | wrongLength (length : Nat) (expected : String)
  | missingField (name : String)
  | repeatedField (name : String)
  | unknownVariant (name : String) (known : List String)
  | unreadable
  /-- Arrays and objects stand inside each other too often. -/
  | tooDeep
  /-- The value was read and then refused by the rules of what it describes. -/
  | refused (reason : String)
deriving Repr

def expectedNames (names : List String) : String :=
  let marked := names.map fun n => s!"`{n}`"
  match marked with
  | [a] => a
  | [a, b] => s!"{a} or {b}"
  | _ => "one of " ++ ", ".intercalate marked

def DecodeError.message : DecodeError → String
  | .wrongType found expected => s!"invalid type: {found.text}, expected {expected}"
  | .wrongValue found expected => s!"invalid value: {found.text}, expected {expected}"
  | .wrongLength length expected => s!"invalid length {length}, expected {expected}"
  | .missingField name => s!"missing field `{name}`"
  | .repeatedField name => s!"duplicate field `{name}`"
  | .unknownVariant name known => s!"unknown variant `{name}`, expected {expectedNames known}"
  | .unreadable => "the value cannot be read"
  | .tooDeep => "recursion limit exceeded"
  | .refused reason => reason

namespace Json

/-- Refuses a value where `expected` should be. -/
def wrongType (j : Json) (expected : String) : DecodeError :=
  match j with
  | .null => .wrongType .null expected
  | .bool b => .wrongType (.bool b) expected
  | .number (.int n) => .wrongType (.int n) expected
  | .number (.float x) => .wrongType (.float x) expected
  | .string s => .wrongType (.string s) expected
  | .array _ => .wrongType .sequence expected
  | .object _ => .wrongType .map expected
  | .unreadable => .unreadable

def text : Json → Except DecodeError String
  | .string s => .ok s
  | j => .error (j.wrongType "a string")

def flag : Json → Except DecodeError Bool
  | .bool b => .ok b
  | j => .error (j.wrongType "a boolean")

def int64 : Json → Except DecodeError Int64
  | .number (.int n) =>
    if Int64.minValue.toInt ≤ n ∧ n ≤ Int64.maxValue.toInt then .ok (.ofInt n)
    else .error (.wrongValue (.int n) "i64")
  | j => .error (j.wrongType "i64")

def size : Json → Except DecodeError Nat
  | .number (.int n) =>
    if 0 ≤ n ∧ n < UInt64.size then .ok n.toNat else .error (.wrongValue (.int n) "usize")
  | j => .error (j.wrongType "usize")

/-- A float; integers count as floats. -/
def float : Json → Except DecodeError Float
  | .number (.int n) => .ok (if n < 0 then -Float.ofNat n.natAbs else Float.ofNat n.natAbs)
  | .number (.float x) => .ok x
  | j => .error (j.wrongType "f64")

def list (item : Json → Except DecodeError α) : Json → Except DecodeError (List α)
  | .array items => items.mapM item
  | j => .error (j.wrongType "a sequence")

/-- A value, or `null` for none. -/
def optional (item : Json → Except DecodeError α) : Json → Except DecodeError (Option α)
  | .null => .ok none
  | j => (item j).map some

def named (known : List (String × α)) (name : String) : Except DecodeError α :=
  match known.find? (·.1 == name) with
  | some (_, a) => .ok a
  | none => .error (.unknownVariant name (known.map (·.1)))

/-- One of several names, plain or as the only field of an object whose value is `null`. -/
def variant (known : List (String × α)) : Json → Except DecodeError α
  | .string s => named known s
  | .object [(name, value)] => do
    let a ← named known name
    match value with
    | .null => return a
    | j => throw (j.wrongType "unit")
  | .object _ => .error (.wrongValue .map "map with a single key")
  | j => .error (j.wrongType "string or map")

/-- The values a record is read from. -/
inductive Record where
  | byName (fields : List (String × Json))
  | byPosition (items : List Json)

def record (name : String) : Json → Except DecodeError Record
  | .object fields => .ok (.byName fields)
  | .array items => .ok (.byPosition items)
  | j => .error (j.wrongType s!"struct {name}")

/-- Whether a field has to be there. -/
inductive Presence where
  | required
  /-- An object may leave the field out, an array may not. -/
  | nullable
  | optional
deriving DecidableEq

/-- What was found of a field. -/
structure Slot (α : Type) where
  key : String
  presence : Presence
  found : Option (Except DecodeError α)

/-- What counts when a record is judged: name, presence, and what is wrong with the value. -/
structure SlotState where
  key : String
  presence : Presence
  present : Bool
  fault : Option DecodeError

/-- Looks up the field with the given name and position. -/
def Record.slot (r : Record) (position : Nat) (key : String) (presence : Presence)
    (decode : Json → Except DecodeError α) : Slot α :=
  match r with
  | .byPosition items => ⟨key, presence, items[position]?.map decode⟩
  | .byName fields =>
    match fields.filter (·.1 == key) with
    | [] => ⟨key, presence, none⟩
    | [(_, j)] => ⟨key, presence, some (decode j)⟩
    | _ => ⟨key, presence, some (.error (.repeatedField key))⟩

namespace Slot

def state (s : Slot α) : SlotState :=
  ⟨s.key, s.presence, s.found.isSome,
    match s.found with
    | some (.error e) => some e
    | _ => none⟩

def get (s : Slot α) : Except DecodeError α :=
  s.found.getD (.error (.missingField s.key))

def getD (s : Slot α) (default : α) : Except DecodeError α :=
  s.found.getD (.ok default)

end Slot

def firstByPosition? (short : String) (position : Nat) : List SlotState → Option DecodeError
  | [] => none
  | s :: rest =>
    if !s.present && s.presence != .optional then some (.wrongLength position short)
    else s.fault <|> firstByPosition? short (position + 1) rest

/-- Judges a record by its fields, given in the order of declaration. -/
def Record.settle (r : Record) (name : String) (slots : List SlotState) :
    Except DecodeError Unit :=
  let fault :=
    match r with
    | .byName _ =>
      (slots.mergeSort fun s t => s.key ≤ t.key).findSome? (·.fault) <|>
        (slots.find? fun s => !s.present && s.presence == .required).map fun s =>
          .missingField s.key
    | .byPosition items =>
      let count := s!"{slots.length} element" ++ if slots.length = 1 then "" else "s"
      firstByPosition? s!"struct {name} with {count}" 0 slots <|>
        if slots.length < items.length then
          some (.wrongLength items.length "fewer elements in array")
        else none
  match fault with
  | some e => .error e
  | none => .ok ()

end Json

end StoryScript
