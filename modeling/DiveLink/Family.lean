import DiveLink.Text.Digits

/-!
# Device families

The two families of dive computers that can be talked to, with the short names by which they are
chosen.

## Main definitions

* `Family`, `Family.all` — the families, in the order in which they are listed.
* `Family.name`, `Family.description` — the short and the full name.
* `Family.ofName?` — the family of a short name.
-/

namespace DiveLink

/-- A family of dive computers that share one protocol. -/
inductive Family
  /-- Woken by a break condition; its memory comes as one stream. -/
  | sensusPro
  /-- Answers packets; its dives lie in a ring buffer. -/
  | vyper2
  deriving DecidableEq, Repr, Inhabited

namespace Family

/-- Every family, in the order in which they are listed. -/
def all : List Family := [sensusPro, vyper2]

/-- The short name. -/
def name : Family → String
  | sensusPro => "sensuspro"
  | vyper2 => "vyper2"

/-- The full name. -/
def description : Family → String
  | sensusPro => "Reefnet Sensus Pro"
  | vyper2 => "Suunto Vyper2"

/-- The family with a short name; letter case counts. -/
def ofName? (s : String) : Option Family := all.find? (·.name == s)

@[simp] theorem ofName?_name (f : Family) : ofName? f.name = some f := by
  cases f <;> decide +kernel

/-- What is said of a name that no family has. -/
def unknownName (s : String) : String := "unknown device family '" ++ s ++ "'"

end Family

end DiveLink
