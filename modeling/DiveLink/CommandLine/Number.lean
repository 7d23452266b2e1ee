import DiveLink.Text.Digits

/-!
# Numbers on the command line

A number is written in decimal, in hexadecimal behind `0x`, or in binary behind `0b`; a plus sign
may stand in front of its digits.

## Main definitions

* `Number.parse?` — the number of a text, if it is below a limit.
-/

namespace DiveLink.Number

/-- What is left when every `0m` is taken off the front. -/
def dropMarks (m : Char) : List Char → List Char
  | '0' :: c :: rest => if c = m then dropMarks m rest else '0' :: c :: rest
  | cs => cs

/-- The number that digits of a radix stand for, a plus sign in front of them or not. -/
def signed? (radix : Nat) : List Char → Option Nat
  | '+' :: rest => Digits.value? radix rest
  | cs => Digits.value? radix cs

/-- The number of some characters, whatever its size.  A mark of the radix may be repeated. -/
def value? : List Char → Option Nat
  | '0' :: 'x' :: rest => signed? 16 (dropMarks 'x' rest)
  | '0' :: 'b' :: rest => signed? 2 (dropMarks 'b' rest)
  | cs => signed? 10 cs

/-- The number of a text, if it is below `limit`. -/
def parse? (limit : Nat) (s : String) : Option Nat := (value? s.toList).filter (· < limit)

example : parse? 256 "0b101" = some 5 ∧ parse? 256 "256" = none := by decide +kernel

end DiveLink.Number
