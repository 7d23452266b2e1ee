import DiveLink.Bytes

/-!
# Checksums

Two checksums guard what a device sends.  Packets end in the exclusive-or of their bytes; the
streams pushed after a break condition end in a sixteen-bit cyclic redundancy check with the
polynomial `x¹⁶ + x¹² + x⁵ + 1`, started from all ones, most significant bit first and without a
final inversion.

## Main definitions

* `Checksum.xorSum` — exclusive-or of some bytes, from a starting value.
* `Checksum.crc16` — the cyclic redundancy check.
* `Checksum.withCrc16` — bytes followed by their check, least significant byte first.
* `Checksum.stripCrc16?` — the bytes in front of their check, if the check is right.
-/

namespace DiveLink.Checksum

/-! ### Exclusive-or -/

/-- The exclusive-or of `start` and all bytes of `b`. -/
def xorSum (start : UInt8) (b : Bytes) : UInt8 := b.foldl (· ^^^ ·) start

@[simp] theorem xorSum_nil (s : UInt8) : xorSum s [] = s := rfl

@[simp] theorem xorSum_cons (s x : UInt8) (b : Bytes) :
    xorSum s (x :: b) = xorSum (s ^^^ x) b := rfl

theorem xorSum_append (s : UInt8) (a b : Bytes) : xorSum s (a ++ b) = xorSum (xorSum s a) b := by
  simp [xorSum]

/-! ### Cyclic redundancy check -/

/-- The polynomial without its leading term. -/
def polynomial : UInt16 := 0x1021

/-- One bit of division: the remainder moves up, and the polynomial is taken off when a bit falls
out at the top. -/
def shift (r : UInt16) : UInt16 :=
  if r.toBitVec.msb then (r <<< 1) ^^^ polynomial else r <<< 1

/-- `n` bits of division. -/
def shifts : Nat → UInt16 → UInt16
  | 0, r => r
  | n + 1, r => shifts n (shift r)

/-- The remainder after one more byte, which enters at the top. -/
def feed (r : UInt16) (x : UInt8) : UInt16 := shifts 8 (r ^^^ (x.toUInt16 <<< 8))

/-- The check of some bytes. -/
def crc16 (b : Bytes) : UInt16 := b.foldl feed 0xFFFF

@[simp] theorem crc16_nil : crc16 [] = 0xFFFF := rfl

theorem crc16_concat (b : Bytes) (x : UInt8) : crc16 (b ++ [x]) = feed (crc16 b) x := by
  simp [crc16]

/-- A payload as it is sent: followed by its check, least significant byte first. -/
def withCrc16 (payload : Bytes) : Bytes := payload ++ Bytes.ofLE16 (crc16 payload).toNat

@[simp] theorem length_withCrc16 (payload : Bytes) :
    (withCrc16 payload).length = payload.length + 2 := by
  simp [withCrc16]

/-- The payload of a stream that ends in its check; nothing if the check is wrong. -/
def stripCrc16? (stream : Bytes) : Option Bytes :=
  let payload := stream.take (stream.length - 2)
  if Bytes.le16 (stream.drop (stream.length - 2)) = (crc16 payload).toNat then some payload
  else none

@[simp] theorem stripCrc16?_withCrc16 (payload : Bytes) :
    stripCrc16? (withCrc16 payload) = some payload := by
  have h := Bytes.le16_ofLE16 (crc16 payload).toNat (crc16 payload).toNat_lt []
  simp [stripCrc16?, withCrc16] at h ⊢
  simp [h]

example : crc16 [0x31, 0x32, 0x33, 0x34, 0x35, 0x36, 0x37, 0x38, 0x39] = 0x29B1 := by decide +kernel

end DiveLink.Checksum
