/-!
# Bytes

Frames on the wire, memory images and identifiers are lists of bytes.  Numbers are stored in them
with either end first; the serial number of a device is stored two decimal digits to a byte.

The plain readers (`le16`, `be16`, …) read a missing byte as zero and are used where a length has
already been checked; the readers with a question mark check it themselves.

## Main definitions

* `Bytes.le16`, `Bytes.le32`, `Bytes.be16`, `Bytes.be24` — the number at the front of some bytes.
* `Bytes.le16?`, … — the same number, if there are enough bytes for it.
* `Bytes.ofLE16`, `Bytes.ofBE16`, `Bytes.ofLE32` — the bytes of a number.
* `Bytes.decimalPairs` — the number written two decimal digits to a byte.
* `Bytes.slice` — the bytes of a range.
* `Bytes.resize` — bytes cut, or filled up with zeros, to a length.
-/

namespace DiveLink

/-- A run of bytes: a frame, a memory image or a part of either. -/
abbrev Bytes := List UInt8

namespace Bytes

/-! ### Parts -/

/-- The `n` bytes of `b` from position `i` on, fewer if `b` ends before. -/
def slice (b : Bytes) (i n : Nat) : Bytes := (b.drop i).take n

@[simp] theorem slice_zero_right (b : Bytes) (i : Nat) : b.slice i 0 = [] := by simp [slice]

theorem length_slice (b : Bytes) (i n : Nat) : (b.slice i n).length = min n (b.length - i) := by
  simp [slice]

/-- The first `n` bytes of `b`, with zeros behind them if there are fewer. -/
def resize (n : Nat) (b : Bytes) : Bytes := b.take n ++ List.replicate (n - b.length) 0

@[simp] theorem length_resize (n : Nat) (b : Bytes) : (b.resize n).length = n := by
  simp only [resize, List.length_append, List.length_take, List.length_replicate]
  omega

@[simp] theorem resize_nil (n : Nat) : resize n [] = List.replicate n 0 := by simp [resize]

/-! ### Numbers at the front -/

/-- The byte at position `i` as a number, zero behind the end. -/
def byteAt (b : Bytes) (i : Nat) : Nat := (b.getD i 0).toNat

theorem byteAt_lt (b : Bytes) (i : Nat) : b.byteAt i < 256 := (b.getD i 0).toNat_lt

/-- The first two bytes, least significant first. -/
def le16 (b : Bytes) : Nat := b.byteAt 0 + 256 * b.byteAt 1

/-- The first two bytes, most significant first. -/
def be16 (b : Bytes) : Nat := 256 * b.byteAt 0 + b.byteAt 1

/-- The first three bytes, most significant first. -/
def be24 (b : Bytes) : Nat := 65536 * b.byteAt 0 + 256 * b.byteAt 1 + b.byteAt 2

/-- The first four bytes, least significant first. -/
def le32 (b : Bytes) : Nat :=
  b.byteAt 0 + 256 * b.byteAt 1 + 65536 * b.byteAt 2 + 16777216 * b.byteAt 3

theorem le16_lt (b : Bytes) : b.le16 < 65536 := by
  have := b.byteAt_lt 0; have := b.byteAt_lt 1; unfold le16; omega

theorem be16_lt (b : Bytes) : b.be16 < 65536 := by
  have := b.byteAt_lt 0; have := b.byteAt_lt 1; unfold be16; omega

theorem le32_lt (b : Bytes) : b.le32 < 4294967296 := by
  have := b.byteAt_lt 0; have := b.byteAt_lt 1
  have := b.byteAt_lt 2; have := b.byteAt_lt 3
  unfold le32; omega

/-- `read b`, provided `b` holds at least `n` bytes. -/
def checked (n : Nat) (read : Bytes → Nat) (b : Bytes) : Option Nat :=
  if n ≤ b.length then some (read b) else none

/-- `le16` where two bytes are there. -/
def le16? : Bytes → Option Nat := checked 2 le16

/-- `be16` where two bytes are there. -/
def be16? : Bytes → Option Nat := checked 2 be16

/-- `be24` where three bytes are there. -/
def be24? : Bytes → Option Nat := checked 3 be24

/-- `le32` where four bytes are there. -/
def le32? : Bytes → Option Nat := checked 4 le32

/-! ### Bytes of a number -/

/-- The low sixteen bits of `n`, least significant byte first. -/
def ofLE16 (n : Nat) : Bytes := [UInt8.ofNat n, UInt8.ofNat (n / 256)]

/-- The low sixteen bits of `n`, most significant byte first. -/
def ofBE16 (n : Nat) : Bytes := [UInt8.ofNat (n / 256), UInt8.ofNat n]

/-- The low thirty-two bits of `n`, least significant byte first. -/
def ofLE32 (n : Nat) : Bytes :=
  [UInt8.ofNat n, UInt8.ofNat (n / 256), UInt8.ofNat (n / 65536), UInt8.ofNat (n / 16777216)]

@[simp] theorem length_ofLE16 (n : Nat) : (ofLE16 n).length = 2 := rfl

@[simp] theorem length_ofBE16 (n : Nat) : (ofBE16 n).length = 2 := rfl

@[simp] theorem length_ofLE32 (n : Nat) : (ofLE32 n).length = 4 := rfl

theorem le16_ofLE16 (n : Nat) (h : n < 65536) (rest : Bytes) : (ofLE16 n ++ rest).le16 = n := by
  simp [ofLE16, le16, byteAt]; omega

theorem be16_ofBE16 (n : Nat) (h : n < 65536) (rest : Bytes) : (ofBE16 n ++ rest).be16 = n := by
  simp [ofBE16, be16, byteAt]; omega

theorem le32_ofLE32 (n : Nat) (h : n < 4294967296) (rest : Bytes) :
    (ofLE32 n ++ rest).le32 = n := by
  simp [ofLE32, le32, byteAt]; omega

/-! ### Serial numbers -/

/-- Each byte holds two decimal digits, most significant byte first; the number is kept to
thirty-two bits. -/
def decimalPairs (b : Bytes) : UInt32 := b.foldl (fun n d => n * 100 + d.toUInt32) 0

@[simp] theorem decimalPairs_nil : decimalPairs [] = 0 := rfl

theorem decimalPairs_concat (b : Bytes) (d : UInt8) :
    decimalPairs (b ++ [d]) = decimalPairs b * 100 + d.toUInt32 := by
  simp [decimalPairs]

end Bytes

end DiveLink
