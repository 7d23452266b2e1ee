/-!
# Numbered enumerations

Dive data are full of small enumerations whose variants are known by number.  The number of a
variant is its place in the list of all variants.

## Main definitions

* `Coded` — an enumeration with its variants in order and their names.
* `Coded.code`, `Coded.ofCode?` — the number of a variant and the variant of a number.
-/

namespace DiveLink

/-- An enumeration whose variants are numbered from zero in the order of `variants`. -/
class Coded (α : Type) where
  variants : List α
  name : α → String

namespace Coded

variable {α : Type} [Coded α]

/-- The number of a variant. -/
def code [BEq α] (a : α) : Nat := (variants (α := α)).idxOf a

/-- The variant with a number, if there is one. -/
def ofCode? (n : Nat) : Option α := (variants (α := α))[n]?

/-- The variant with a number that may be negative, if there is one. -/
def ofInt? : Int → Option α
  | .ofNat n => ofCode? n
  | .negSucc _ => none

/-- The variant with a name, if there is one. -/
def ofName? (s : String) : Option α := (variants (α := α)).find? (name · == s)

theorem ofCode?_code [BEq α] [LawfulBEq α] {a : α} (h : a ∈ variants (α := α)) :
    ofCode? (code a) = some a := by
  have hi : (variants (α := α)).idxOf a < (variants (α := α)).length :=
    List.idxOf_lt_length_of_mem h
  simp [ofCode?, code, List.getElem?_eq_getElem hi]

end Coded

end DiveLink
