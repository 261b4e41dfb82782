/-!
# Digits

## Main definitions

* `hexDigit?` — the value of a hexadecimal digit.
* `digitsValue`, `digitsInBase?` — the value of a row of digits.
-/

namespace StoryScript

def hexDigit? (c : Char) : Option Nat :=
  if '0' ≤ c ∧ c ≤ '9' then some (c.toNat - 48)
  else if 'a' ≤ c ∧ c ≤ 'f' then some (c.toNat - 87)
  else if 'A' ≤ c ∧ c ≤ 'F' then some (c.toNat - 55)
  else none

def digitsValue (ds : List Char) : Nat :=
  ds.foldl (fun n c => n * 10 + (c.toNat - 48)) 0

/-- The value of a row of digits to a base of at most sixteen; `none` if there is no digit or
something else among them. -/
def digitsInBase? (base : Nat) (ds : List Char) : Option Nat :=
  if ds.isEmpty then none
  else ds.foldlM (fun n c => ((hexDigit? c).filter (· < base)).map (n * base + ·)) 0

end StoryScript
