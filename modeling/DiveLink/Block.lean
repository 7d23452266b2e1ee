import DiveLink.Bytes

/-!
# Blocks of memory

Memory is read and written block by block; a range is cut into blocks of the largest size that one
exchange carries.

## Main definitions

* `Block` — a piece of memory.
* `Block.tile` — the blocks of a range.
* `Block.split` — the pieces of some bytes that are to be written from an address on.
-/

namespace DiveLink

/-- A piece of memory. -/
structure Block where
  address : Nat
  size : Nat
  deriving DecidableEq, Repr, Inhabited

namespace Block

/-- Consecutive blocks that cover `length` bytes from `address` on, each of at most `most`
bytes. -/
def tile (most : Nat) (address length : Nat) : List Block :=
  if _h : most = 0 ∨ length = 0 then []
  else
    let size := min most length
    ⟨address, size⟩ :: tile most (address + size) (length - size)
termination_by length
decreasing_by omega

/-- Consecutive pieces of `data`, with the address of each, each of at most `most` bytes. -/
def split (most : Nat) (address : Nat) (data : Bytes) : List (Nat × Bytes) :=
  if _h : most = 0 ∨ data = [] then []
  else
    (address, data.take most) ::
      split most (address + (data.take most).length) (data.drop most)
termination_by data.length
decreasing_by
  have : 0 < data.length := by
    cases data <;> simp_all
  simp; omega

end Block

end DiveLink
