import DiveLink.Bytes.Hex
import DiveLink.Dive
import DiveLink.Family

/-!
# Output of the command line

What the tool prints, for people or for programs.

## Main definitions

* `Output.row`, `Output.rows` — bytes in hexadecimal, and sixteen of them to a line.
* `Output.numberArray`, `Output.stringArray`, `Output.diveArray` — the same things as JSON.
* `Output.families`, `Output.bytes`, `Output.memory`, `Output.dives` — what the commands print.
-/

namespace DiveLink.Output

/-- Bytes in hexadecimal, a blank between any two. -/
def row (b : Bytes) : String := " ".intercalate (b.map fun x => Bytes.toHex [x])

/-- The pieces of some bytes that fill lines of `n` bytes. -/
def lines (n : Nat) (b : Bytes) : List Bytes :=
  if _h : n = 0 ∨ b = [] then [] else b.take n :: lines n (b.drop n)
termination_by b.length
decreasing_by
  have : 0 < b.length := by
    cases b <;> simp_all
  simp; omega

/-- Bytes in hexadecimal, sixteen to a line. -/
def rows (b : Bytes) : String := "\n".intercalate ((lines 16 b).map row)

/-- The items of an array between brackets. -/
def array (items : List String) : String := "[" ++ ",".intercalate items ++ "]"

/-- Bytes as an array of numbers. -/
def numberArray (b : Bytes) : String := array (b.map fun x => Digits.decimal x.toNat)

/-- A text of letters and digits between quotes. -/
def plainQuoted (s : String) : String := "\"" ++ s ++ "\""

/-- Texts of letters and digits as an array. -/
def stringArray (items : List String) : String := array (items.map plainQuoted)

/-- Dives as an array of objects with fingerprint and size. -/
def diveArray (dives : List Dive) : String :=
  array (dives.map fun d =>
    "\x7b" ++ plainQuoted "fingerprint" ++ ":" ++ plainQuoted (Bytes.toHex d.fingerprint) ++ "," ++
      plainQuoted "size" ++ ":" ++ Digits.decimal d.bytes.length ++ "\x7d")

/-- The families that can be chosen. -/
def families (json : Bool) : String :=
  if json then stringArray (Family.all.map Family.name)
  else "\n".intercalate (Family.all.map fun f => padRight 12 f.name ++ f.description)

/-- A few bytes, on one line. -/
def bytes (json : Bool) (b : Bytes) : String := if json then numberArray b else row b

/-- A range of memory. -/
def memory (json : Bool) (b : Bytes) : String := if json then numberArray b else rows b

/-- Dives, one to a line: fingerprint and size. -/
def dives (json : Bool) (ds : List Dive) : String :=
  if json then diveArray ds
  else
    "\n".intercalate (ds.map fun d =>
      Bytes.toHex d.fingerprint ++ " " ++ Digits.decimal d.bytes.length)

end DiveLink.Output
