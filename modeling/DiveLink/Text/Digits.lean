/-!
# Digits

Numbers written in a radix, and the padding of short texts.

## Main definitions

* `Digits.ofChar?`, `Digits.toChar` — the value of a digit and the digit of a value.
* `Digits.value?` — the number that some digits stand for.
* `Digits.write` — the digits of a number, without leading zeros.
* `Digits.hexadecimal` — `0x` and at least so many digits.
* `padLeft`, `padRight` — a text brought to a width with blanks.
-/

namespace DiveLink

namespace Digits

/-- The value of a digit: `0` to `9`, then `a` to `z` in either case. -/
def ofChar? (c : Char) : Option Nat :=
  if '0' ≤ c ∧ c ≤ '9' then some (c.toNat - '0'.toNat)
  else if 'a' ≤ c ∧ c ≤ 'z' then some (c.toNat - 'a'.toNat + 10)
  else if 'A' ≤ c ∧ c ≤ 'Z' then some (c.toNat - 'A'.toNat + 10)
  else none

/-- The digit of a value below thirty-six. -/
def toChar (d : Nat) : Char :=
  if d < 10 then Char.ofNat ('0'.toNat + d) else Char.ofNat ('a'.toNat + (d - 10))

/-- The digit of a value is read as that value. -/
theorem ofChar?_toChar {d : Nat} (h : d < 36) : ofChar? (toChar d) = some d := by
  have all : ∀ d < 36, ofChar? (toChar d) = some d := by decide +kernel
  exact all d h

/-- The number written by `cs` behind a number `n` already read, if all of them are digits of the
radix. -/
def valueFrom? (radix : Nat) : Nat → List Char → Option Nat
  | n, [] => some n
  | n, c :: cs =>
    match ofChar? c with
    | some d => if d < radix then valueFrom? radix (n * radix + d) cs else none
    | none => none

/-- The number written by `cs` in a radix; there has to be at least one digit. -/
def value? (radix : Nat) : List Char → Option Nat
  | [] => none
  | c :: cs => valueFrom? radix 0 (c :: cs)

/-- The digits of `n` in front of `rest`; `fuel` bounds their number. -/
def writeBefore (radix : Nat) : Nat → Nat → List Char → List Char
  | 0, _, rest => rest
  | fuel + 1, n, rest =>
    if n < radix then toChar n :: rest
    else writeBefore radix fuel (n / radix) (toChar (n % radix) :: rest)

/-- The digits of `n`, without leading zeros; zero is one digit. -/
def write (radix n : Nat) : List Char := writeBefore radix (n + 1) n []

/-- `n` in hexadecimal behind `0x`, with zeros in front where it has fewer than `width` digits. -/
def hexadecimal (width n : Nat) : String :=
  let digits := write 16 n
  "0x" ++ String.ofList (List.replicate (width - digits.length) '0' ++ digits)

/-- `n` in decimal. -/
def decimal (n : Nat) : String := String.ofList (write 10 n)

example : hexadecimal 4 0x19A = "0x019a" ∧ hexadecimal 1 0x300 = "0x300" := by decide +kernel

end Digits

/-- `s` behind as many blanks as bring it to `width` characters. -/
def padLeft (width : Nat) (s : String) : String :=
  String.ofList (List.replicate (width - s.length) ' ') ++ s

/-- `s` in front of as many blanks as bring it to `width` characters. -/
def padRight (width : Nat) (s : String) : String :=
  s ++ String.ofList (List.replicate (width - s.length) ' ')

end DiveLink
