import StoryScript.Decimal.Shortest

/-!
# JSON values

## Main definitions

* `Number` — integers and floats are kept apart, as their spelling tells them apart.
* `Json` — a JSON value; the fields of an object keep their order and may repeat.
-/

namespace StoryScript

/-- A number as it was spelled: without fraction and exponent it is an integer. -/
inductive Number where
  | int (n : Int)
  | float (x : Float)
deriving Repr, Inhabited

/-- A JSON value. -/
inductive Json where
  | null
  | bool (b : Bool)
  | number (n : Number)
  | string (s : String)
  | array (items : List Json)
  | object (fields : List (String × Json))
  /-- Text that is well formed but names no value: half of a surrogate pair, or a number beyond
  the range of floats. -/
  | unreadable
deriving Repr, Inhabited

namespace Json

def ofNat (n : Nat) : Json :=
  .number (.int n)

def ofInt (n : Int) : Json :=
  .number (.int n)

def ofFloat (x : Float) : Json :=
  .number (.float x)

/-- Text, or `null` for nothing. -/
def ofOption (f : α → Json) : Option α → Json
  | none => .null
  | some a => f a

def ofStrings (xs : List String) : Json :=
  .array (xs.map .string)

/-- The first field of that name, if the value is an object that has it. -/
def get? (j : Json) (key : String) : Option Json :=
  match j with
  | .object fields => (fields.find? (·.1 == key)).map (·.2)
  | _ => none

end Json

end StoryScript
