import DiveLink.Block
import DiveLink.Dive

/-!
# Dives in a ring

Some devices keep their dives in a ring of memory in which the newest dive follows the one before
it and goes on at the start of the ring where its end is reached.  Each dive begins with the
addresses of its predecessor and of its successor, and a header outside the ring says where the
ring is in use.

## Main definitions

* `RingAddress` — an address inside the ring.
* `RingAddress.distance`, `RingAddress.advance` — the bytes between two addresses, and the address
  so many bytes further on.
* `RingHeader`, `RingHeader.parse`, `RingHeader.used` — the header and the bytes in use.
* `RingAddress.blocksBefore` — the blocks that cover the bytes in use, last block first.
* `RingHeader.walk` — the dives of a ring, newest first.
-/

namespace DiveLink

/-! ### Addresses -/

/-- The first address of the ring. -/
def ringStart : Nat := 0x019A

/-- The first address behind the ring. -/
def ringEnd : Nat := 0x7FFE

/-- The number of bytes in the ring. -/
def ringSize : Nat := ringEnd - ringStart

/-- An address inside the ring. -/
structure RingAddress where
  val : Nat
  start_le : ringStart ≤ val
  lt_end : val < ringEnd
  deriving DecidableEq, Repr

namespace RingAddress

instance : Inhabited RingAddress := ⟨⟨ringStart, by decide, by decide⟩⟩

/-- A number as an address of the ring, if it is one. -/
def ofNat? (n : Nat) : Option RingAddress :=
  if h : ringStart ≤ n ∧ n < ringEnd then some ⟨n, h.1, h.2⟩ else none

@[simp] theorem ofNat?_val (a : RingAddress) : ofNat? a.val = some a := by
  simp [ofNat?, a.start_le, a.lt_end]

/-- The number of bytes from `a` forward to `b`.  Between equal addresses lies the whole ring if
`full`, and nothing otherwise. -/
def distance (a b : RingAddress) (full : Bool) : Nat :=
  if a.val < b.val then b.val - a.val
  else if b.val < a.val then (ringEnd - a.val) + (b.val - ringStart)
  else if full then ringSize
  else 0

/-- The address `d` bytes further on, around the ring. -/
def advance (a : RingAddress) (d : Nat) : RingAddress :=
  ⟨ringStart + (a.val - ringStart + d) % ringSize, by omega, by
    have : (a.val - ringStart + d) % ringSize < ringSize := Nat.mod_lt _ (by decide)
    unfold ringSize at *
    have : ringStart < ringEnd := by decide
    omega⟩

theorem distance_le (a b : RingAddress) (full : Bool) : distance a b full ≤ ringSize := by
  have := a.start_le; have := a.lt_end; have := b.start_le; have := b.lt_end
  unfold distance ringSize
  split
  · omega
  · split
    · omega
    · split <;> omega

/-- Blocks of at most `most` bytes that cover the `n` bytes in front of an address, around the ring
and last block first.  No block crosses the end of the ring. -/
def blocksBefore (most : Nat) (a : RingAddress) (n : Nat) : List Block :=
  if h : most = 0 ∨ n = 0 then []
  else
    let top := if a.val = ringStart then ringEnd else a.val
    let size := min n (min most (top - ringStart))
    have lo := a.start_le
    have hi := a.lt_end
    have ends : ringStart < ringEnd := by decide
    have pos : 0 < size ∧ ringStart ≤ top - size ∧ top - size < ringEnd := by grind
    ⟨top - size, size⟩ :: blocksBefore most ⟨top - size, pos.2.1, pos.2.2⟩ (n - size)
termination_by n
decreasing_by omega

end RingAddress

/-! ### The header -/

/-- Where a ring is in use. -/
structure RingHeader where
  /-- The start of the newest dive. -/
  last : RingAddress
  /-- The number of dives; only whether there are any counts. -/
  count : Nat
  /-- The address behind the newest dive. -/
  stop : RingAddress
  /-- The start of the oldest dive. -/
  start : RingAddress
  deriving DecidableEq, Repr, Inhabited

namespace RingHeader

/-- The length of the header in memory. -/
def length : Nat := 8

/-- The header in some bytes: newest dive, count, end and start, two bytes each. -/
def parse (b : Bytes) : Except DataFault RingHeader :=
  let last := b.le16
  let count := Bytes.le16 (b.drop 2)
  let stop := Bytes.le16 (b.drop 4)
  let start := Bytes.le16 (b.drop 6)
  match RingAddress.ofNat? last, RingAddress.ofNat? stop, RingAddress.ofNat? start with
  | some l, some e, some s => .ok ⟨l, count, e, s⟩
  | _, _, _ => .error (.ringPointers last count stop start)

/-- The header as it lies in memory. -/
def toBytes (h : RingHeader) : Bytes :=
  Bytes.ofLE16 h.last.val ++ Bytes.ofLE16 h.count ++ Bytes.ofLE16 h.stop.val ++
    Bytes.ofLE16 h.start.val

@[simp] theorem length_toBytes (h : RingHeader) : h.toBytes.length = length := rfl

/-- A header is read back from memory. -/
theorem parse_toBytes (h : RingHeader) (hc : h.count < 65536) : parse h.toBytes = .ok h := by
  have hb : ringEnd < 65536 := by decide
  have hl := h.last.lt_end
  have he := h.stop.lt_end
  have hs := h.start.lt_end
  have last : h.toBytes.le16 = h.last.val := by
    rw [toBytes, List.append_assoc, List.append_assoc]
    exact Bytes.le16_ofLE16 _ (by omega) _
  have count : Bytes.le16 (h.toBytes.drop 2) = h.count :=
    Bytes.le16_ofLE16 _ hc (Bytes.ofLE16 h.stop.val ++ Bytes.ofLE16 h.start.val)
  have stop : Bytes.le16 (h.toBytes.drop 4) = h.stop.val :=
    Bytes.le16_ofLE16 _ (by omega) (Bytes.ofLE16 h.start.val)
  have start : Bytes.le16 (h.toBytes.drop 6) = h.start.val :=
    Bytes.le16_ofLE16 _ (by omega) []
  simp [parse, last, count, stop, start]

/-- The number of bytes of the ring that hold dives. -/
def used (h : RingHeader) : Nat := h.start.distance h.stop (h.count ≠ 0)

end RingHeader

/-! ### The walk -/

/-- The length of a dive's fingerprint in a ring. -/
def ringFingerprintSize : Nat := 7

/-- The walk back from the dive at `current`, which ends in front of `next`, through the bytes
`data` that are left of the ring, oldest first.  Fingerprints stand at `offset` in a dive. -/
def ringWalk (offset : Nat) (current next : RingAddress) (data : Bytes) : Walk :=
  if _hd : data = [] then .nothing
  else
    let size := current.distance next true
    if _hs : size < 4 ∨ data.length < size then .broken (.diveSize current.val size)
    else
      let older := data.take (data.length - size)
      let bytes := data.drop (data.length - size)
      let predecessor := Bytes.le16 bytes
      let successor := Bytes.le16 (bytes.drop 2)
      if successor ≠ next.val then .broken (.brokenChain current.val successor next.val)
      else if size < offset + ringFingerprintSize then .broken (.noFingerprint current.val)
      else
        let dive : Dive := ⟨current.val, bytes, Bytes.slice bytes offset ringFingerprintSize⟩
        if older = [] then .cons dive .nothing
        else
          match RingAddress.ofNat? predecessor with
          | none => .cons dive (.broken (.linkOutside current.val predecessor))
          | some p => .cons dive (ringWalk offset p current older)
termination_by data.length
decreasing_by
  have : 0 < data.length := List.length_pos_iff.2 _hd
  simp only [List.length_take]
  omega

/-- The dives of a ring whose bytes in use are `data`, newest first. -/
def RingHeader.walk (h : RingHeader) (offset : Nat) (data : Bytes) : Walk :=
  ringWalk offset h.last h.stop data

end DiveLink
