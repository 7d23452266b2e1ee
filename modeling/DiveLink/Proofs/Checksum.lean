import DiveLink.Checksum
import Mathlib.Data.List.Basic

/-!
# What the cyclic check notices

The check of some bytes is a division bit by bit.  Division is linear over exclusive-or, keeps the
parity of what it is fed, and loses no bit: a remainder other than zero stays other than zero.  So
a frame that ends in its check and is changed in an odd number of bits, or in bits of the payload
that lie close together, or in the check alone, does not end in its check any more.

## Main definitions

* `Bytes.bits`, `Bytes.differing` — the bits of some bytes, and in how many of them two differ.
* `Checksum.enter`, `Checksum.divide` — division by one bit, and by one bit after the other.
* `Checksum.odd` — whether an odd number of bits are set.
* `Checksum.Damaged` — a frame that was changed in one of these ways.

## Main results

* `Checksum.crc16_eq_divide` — the check is a division bit by bit.
* `Checksum.divide_xor` — **division is linear.**
* `Checksum.odd_bits_withCrc16` — **a frame that ends in its check has an even number of bits set.**
* `Checksum.divide_burst` — **bits that lie close together do not divide out.**
* `Checksum.eq_withCrc16_of_strip` — a stream that is accepted ends in its check.
* `Checksum.strip_eq_none_of_damaged` — **damage is noticed.**
-/

namespace DiveLink

/-! ### Bits -/

namespace Bytes

/-- The bits of a byte, most significant bit first. -/
def byteBits (x : UInt8) : List Bool := (List.range 8).map fun i => x.toBitVec.getMsbD i

/-- The bits of some bytes, most significant bit of each byte first. -/
def bits (b : Bytes) : List Bool := b.flatMap byteBits

/-- The number of bits in which two runs of bytes differ. -/
def differing (a b : Bytes) : Nat := (List.zipWith xor a.bits b.bits).count true

@[simp] theorem length_byteBits (x : UInt8) : (byteBits x).length = 8 := by simp [byteBits]

@[simp] theorem bits_nil : bits [] = [] := rfl

@[simp] theorem bits_cons (x : UInt8) (b : Bytes) : bits (x :: b) = byteBits x ++ bits b := rfl

@[simp] theorem bits_append (a b : Bytes) : bits (a ++ b) = bits a ++ bits b :=
  List.flatMap_append

@[simp] theorem length_bits (b : Bytes) : (bits b).length = 8 * b.length := by
  induction b with
  | nil => rfl
  | cons x b ih => rw [bits_cons, List.length_append, ih, length_byteBits, List.length_cons]; omega

theorem byteBits_inj {x y : UInt8} (h : byteBits x = byteBits y) : x = y := by
  rw [← UInt8.toBitVec_inj]
  refine BitVec.eq_of_getMsbD_eq fun i hi => ?_
  exact List.map_inj_left.1 h i (List.mem_range.2 hi)

/-- Bytes are told apart by their bits. -/
theorem bits_inj : ∀ {a b : Bytes}, bits a = bits b → a = b := by
  intro a
  induction a with
  | nil =>
    -- bytes of equal bits are equally many
    intro b h
    have hlength := congrArg List.length h
    rw [length_bits, length_bits, List.length_nil] at hlength
    exact (List.eq_nil_of_length_eq_zero (by omega)).symm
  | cons x a ih =>
    intro b h
    cases b with
    | nil =>
      have hlength := congrArg List.length h
      rw [length_bits, length_bits, List.length_nil, List.length_cons] at hlength
      omega
    | cons y b =>
      -- equal bits are equal in the first eight, and in the rest
      obtain ⟨hfirst, hrest⟩ := List.append_inj h (by rw [length_byteBits, length_byteBits])
      rw [byteBits_inj hfirst, ih hrest]

end Bytes

namespace Checksum

/-! ### Division is linear -/

theorem shift_xor (r s : UInt16) : shift (r ^^^ s) = shift r ^^^ shift s := by
  unfold shift
  rw [UInt16.toBitVec_xor, BitVec.msb_xor, UInt16.shiftLeft_xor]
  -- the polynomial is taken off for each bit that falls out, and off twice is not at all
  cases r.toBitVec.msb <;> cases s.toBitVec.msb
  · rfl
  · exact UInt16.xor_assoc _ _ _
  · simp only [Bool.xor_false, if_true, Bool.false_eq_true, if_false]
    rw [UInt16.xor_assoc, UInt16.xor_comm (s <<< 1), ← UInt16.xor_assoc]
  · simp only [Bool.xor_self, if_true, Bool.false_eq_true, if_false]
    rw [UInt16.xor_comm (s <<< 1), UInt16.xor_assoc, ← UInt16.xor_assoc polynomial,
      UInt16.xor_self, UInt16.zero_xor]

@[simp] theorem shift_zero : shift 0 = 0 := by decide

/-- A bit at the top of a word. -/
def topBit (bit : Bool) : UInt16 := if bit then 0x8000 else 0

theorem topBit_xor (a b : Bool) : topBit (xor a b) = topBit a ^^^ topBit b := by
  cases a <;> cases b <;> rfl

/-- The remainder after one more bit, which enters at the top. -/
def enter (r : UInt16) (bit : Bool) : UInt16 := shift (r ^^^ topBit bit)

/-- The remainder after some more bits. -/
def divide (r : UInt16) (bs : List Bool) : UInt16 := bs.foldl enter r

@[simp] theorem divide_nil (r : UInt16) : divide r [] = r := rfl

@[simp] theorem divide_cons (r : UInt16) (b : Bool) (bs : List Bool) :
    divide r (b :: bs) = divide (enter r b) bs := rfl

theorem divide_append (r : UInt16) (bs cs : List Bool) :
    divide r (bs ++ cs) = divide (divide r bs) cs := List.foldl_append

theorem enter_xor (r s : UInt16) (a b : Bool) :
    enter (r ^^^ s) (xor a b) = enter r a ^^^ enter s b := by
  unfold enter
  rw [topBit_xor, ← shift_xor]
  congr 1
  ac_rfl

/-- **Division is linear**: the remainder of a difference is the difference of the remainders. -/
theorem divide_xor : ∀ (bs cs : List Bool) (r s : UInt16), bs.length = cs.length →
    divide (r ^^^ s) (List.zipWith xor bs cs) = divide r bs ^^^ divide s cs := by
  intro bs
  induction bs with
  | nil =>
    intro cs r s h
    rw [List.eq_nil_of_length_eq_zero h.symm]
    rfl
  -- the division takes in one bit at a time, and each step is linear
  | cons b bs ih =>
    intro cs r s h
    cases cs with
    | nil => exact absurd h (by simp)
    | cons c cs =>
      rw [List.zipWith_cons_cons, divide_cons, enter_xor, ih _ _ _ (Nat.succ.inj h)]
      rfl

/-! ### The check as a division -/

/-- A word that begins with some bits. -/
def beginning : List Bool → UInt16
  | [] => 0
  | b :: bs => topBit b ^^^ (beginning bs >>> 1)

theorem getMsbD_beginning : ∀ (bs : List Bool) (i : Nat), i < 16 →
    (beginning bs).toBitVec.getMsbD i = bs.getD i false := by
  intro bs
  induction bs with
  | nil =>
    intro i hi
    simp [beginning]
  | cons b bs ih =>
    intro i hi
    have hshift : (beginning bs >>> 1).toBitVec = (beginning bs).toBitVec >>> 1 := rfl
    rw [beginning, UInt16.toBitVec_xor, BitVec.getMsbD_xor, hshift, BitVec.getMsbD_ushiftRight]
    -- the first bit is the top one; each later one is moved down by one
    cases i with
    | zero => cases b <;> rfl
    | succ i =>
      -- the top bit has no other bit set
      have htop : (topBit b).toBitVec.getMsbD (i + 1) = false := by
        cases b with
        | false => simp [topBit]
        | true =>
          have hall : ∀ j : Fin 15, (0x8000 : UInt16).toBitVec.getMsbD (j + 1) = false := by decide
          exact hall ⟨i, by omega⟩
      rw [htop, Bool.false_xor, Nat.add_sub_cancel, ih i (by omega)]
      simp [hi]

/-- A word whose last bit is not set comes back when it is moved down and divided by one bit. -/
theorem shift_half {w : UInt16} (h : w.toBitVec.getMsbD 15 = false) : shift (w >>> 1) = w := by
  have hdown : (w >>> 1).toBitVec = w.toBitVec >>> 1 := rfl
  have hmsb : (w >>> 1).toBitVec.msb = false := by
    rw [hdown, BitVec.msb_eq_getMsbD_zero, BitVec.getMsbD_ushiftRight]
    rfl
  have hup : ((w >>> 1) <<< 1).toBitVec = (w.toBitVec >>> 1) <<< 1 := rfl
  unfold shift
  rw [hmsb, if_neg Bool.false_ne_true, ← UInt16.toBitVec_inj, hup]
  refine BitVec.eq_of_getMsbD_eq fun i hi => ?_
  rw [BitVec.getMsbD_shiftLeft, BitVec.getMsbD_ushiftRight, Nat.add_sub_cancel]
  -- the bit that is moved out of the word is zero by assumption
  rcases Nat.lt_or_ge (i + 1) 16 with hlt | hge
  · simp [hlt]
  · obtain rfl : i = 15 := by omega
    rw [h]
    rfl

/-- Bits that enter one after the other could as well have stood at the top. -/
theorem shifts_beginning : ∀ (bs : List Bool) (r : UInt16), bs.length ≤ 16 →
    shifts bs.length (r ^^^ beginning bs) = divide r bs := by
  intro bs
  induction bs with
  | nil =>
    intro r _
    exact UInt16.xor_zero
  | cons b bs ih =>
    intro r h
    rw [List.length_cons] at h
    -- the lowest bit of a beginning of at most fifteen bits is not set
    have hlast : (beginning bs).toBitVec.getMsbD 15 = false := by
      rw [getMsbD_beginning bs 15 (by omega), List.getD_eq_getElem?_getD,
        List.getElem?_eq_none (by omega)]
      rfl
    rw [List.length_cons, shifts, beginning, ← UInt16.xor_assoc, shift_xor, shift_half hlast,
      ih _ (by omega)]
    rfl

/-- A byte enters bit by bit. -/
theorem feed_eq_divide (r : UInt16) (x : UInt8) : feed r x = divide r (Bytes.byteBits x) := by
  have hbyte : x.toUInt16 <<< 8 = beginning (Bytes.byteBits x) := by
    have hall : ∀ v : BitVec 8,
        UInt16.ofBitVec (v.setWidth 16) <<< 8 = beginning (Bytes.byteBits (UInt8.ofBitVec v)) := by
      decide +kernel
    exact hall x.toBitVec
  have h := shifts_beginning (Bytes.byteBits x) r (by rw [Bytes.length_byteBits]; decide)
  rwa [Bytes.length_byteBits, ← hbyte] at h

/-- The check of some bytes is what is left of their bits. -/
theorem crc16_eq_divide (b : Bytes) : crc16 b = divide 0xFFFF b.bits := by
  have hfold : ∀ (b : Bytes) (r : UInt16), b.foldl feed r = divide r b.bits := by
    intro b
    induction b with
    | nil =>
      intro r
      rfl
    | cons x b ih =>
      intro r
      rw [List.foldl_cons, ih, Bytes.bits_cons, divide_append, feed_eq_divide]
  exact hfold b 0xFFFF

/-! ### Parity -/

/-- Whether an odd number of bits are set. -/
def odd (bs : List Bool) : Bool := bs.foldr xor false

@[simp] theorem odd_nil : odd [] = false := rfl

@[simp] theorem odd_cons (b : Bool) (bs : List Bool) : odd (b :: bs) = xor b (odd bs) := rfl

theorem odd_append (bs cs : List Bool) : odd (bs ++ cs) = xor (odd bs) (odd cs) := by
  induction bs with
  | nil => simp
  | cons b bs ih => rw [List.cons_append, odd_cons, odd_cons, ih, Bool.xor_assoc]

theorem odd_zipWith : ∀ {bs cs : List Bool}, bs.length = cs.length →
    odd (List.zipWith xor bs cs) = xor (odd bs) (odd cs) := by
  intro bs
  induction bs with
  | nil =>
    intro cs h
    rw [List.eq_nil_of_length_eq_zero h.symm]
    rfl
  -- two bits that differ make the one odd where the other is even
  | cons b bs ih =>
    intro cs h
    cases cs with
    | nil => exact absurd h (by simp)
    | cons c cs =>
      rw [List.zipWith_cons_cons, odd_cons, odd_cons, odd_cons, ih (Nat.succ.inj h), Bool.xor_assoc,
        Bool.xor_assoc, Bool.xor_left_comm c]

theorem odd_eq_true_iff (bs : List Bool) : odd bs = true ↔ bs.count true % 2 = 1 := by
  induction bs with
  | nil => simp
  | cons b bs ih =>
    cases b with
    | false =>
      rw [odd_cons, Bool.false_xor, ih]
      simp
    | true =>
      rw [odd_cons, Bool.true_xor, List.count_cons_self]
      cases hodd : odd bs with
      | false =>
        have hnot : ¬ bs.count true % 2 = 1 := by rw [← ih, hodd]; decide
        exact ⟨fun _ => by omega, fun _ => rfl⟩
      | true =>
        have hone : bs.count true % 2 = 1 := ih.1 hodd
        exact ⟨fun h => absurd h (by decide), fun h => by omega⟩

/-- The bits of a word, most significant bit first. -/
def wordBits (w : UInt16) : List Bool := (List.range 16).map fun i => w.toBitVec.getMsbD i

theorem odd_wordBits_xor (v w : UInt16) :
    odd (wordBits (v ^^^ w)) = xor (odd (wordBits v)) (odd (wordBits w)) := by
  rw [← odd_zipWith (by simp [wordBits])]
  congr 1
  simp only [wordBits, UInt16.toBitVec_xor, BitVec.getMsbD_xor, List.zipWith_map, List.zipWith_self]

/-- What falls out at the top is missing at the bottom. -/
theorem odd_wordBits_shiftLeft (w : UInt16) :
    odd (wordBits (w <<< 1)) = xor w.toBitVec.msb (odd (wordBits w)) := by
  have hup : (w <<< 1).toBitVec = w.toBitVec <<< 1 := rfl
  -- the bits move up by one, and a zero comes in at the low end
  have hshifted : wordBits (w <<< 1) = (List.range 15).map (fun i => w.toBitVec.getMsbD (i + 1)) ++
      [w.toBitVec.getMsbD 16] := by
    simp only [wordBits, hup, BitVec.getMsbD_shiftLeft]
    rw [List.range_succ, List.map_append]
    rfl
  have hword : wordBits w = w.toBitVec.msb ::
      (List.range 15).map (fun i => w.toBitVec.getMsbD (i + 1)) := by
    rw [wordBits, List.range_succ_eq_map, List.map_cons, List.map_map, BitVec.msb_eq_getMsbD_zero]
    rfl
  have hout : w.toBitVec.getMsbD 16 = false := BitVec.getMsbD_of_ge _ _ (Nat.le_refl 16)
  rw [hshifted, hword, odd_append, odd_cons, hout]
  cases w.toBitVec.msb <;> simp

/-- The polynomial takes off as many bits as keep the parity. -/
theorem odd_wordBits_shift (w : UInt16) : odd (wordBits (shift w)) = odd (wordBits w) := by
  have hpolynomial : odd (wordBits polynomial) = true := by decide
  unfold shift
  cases hmsb : w.toBitVec.msb with
  | false => rw [if_neg Bool.false_ne_true, odd_wordBits_shiftLeft, hmsb, Bool.false_xor]
  | true =>
    rw [if_pos rfl, odd_wordBits_xor, odd_wordBits_shiftLeft, hmsb, hpolynomial]
    simp

/-- Division keeps the parity of what it is fed. -/
theorem odd_wordBits_divide : ∀ (bs : List Bool) (r : UInt16),
    odd (wordBits (divide r bs)) = xor (odd (wordBits r)) (odd bs) := by
  intro bs
  induction bs with
  | nil =>
    intro r
    simp
  | cons b bs ih =>
    intro r
    have htop : odd (wordBits (topBit b)) = b := by cases b <;> decide
    rw [divide_cons, ih, enter, odd_wordBits_shift, odd_wordBits_xor, htop, odd_cons,
      Bool.xor_assoc]

/-- The bytes of a word have the bits of the word, in another order. -/
theorem odd_bits_ofLE16 (w : UInt16) : odd (Bytes.ofLE16 w.toNat).bits = odd (wordBits w) := by
  -- the low byte holds the later eight bits of the word
  have hlow : Bytes.byteBits (UInt8.ofNat w.toNat) =
      (List.range 8).map fun i => w.toBitVec.getMsbD (i + 8) := by
    have hbyte : (UInt8.ofNat w.toNat).toBitVec = w.toBitVec.setWidth 8 :=
      BitVec.eq_of_toNat_eq (by simp)
    refine List.map_congr_left fun i hi => ?_
    have hi : i < 8 := List.mem_range.1 hi
    simp only [hbyte, BitVec.getMsbD, BitVec.getLsbD_setWidth]
    rw [show 16 - 1 - (i + 8) = 8 - 1 - i by omega]
    simp [hi, show i + 8 < 16 by omega, show 7 - i < 8 by omega]
  -- the high byte holds the first eight
  have hhigh : Bytes.byteBits (UInt8.ofNat (w.toNat / 256)) =
      (List.range 8).map fun i => w.toBitVec.getMsbD i := by
    have hbyte : (UInt8.ofNat (w.toNat / 256)).toBitVec = (w.toBitVec >>> 8).setWidth 8 :=
      BitVec.eq_of_toNat_eq (by simp [Nat.shiftRight_eq_div_pow])
    refine List.map_congr_left fun i hi => ?_
    have hi : i < 8 := List.mem_range.1 hi
    simp only [hbyte, BitVec.getMsbD, BitVec.getLsbD_setWidth, BitVec.getLsbD_ushiftRight]
    rw [show 8 + (8 - 1 - i) = 16 - 1 - i by omega]
    simp [hi, show i < 16 by omega, show 7 - i < 8 by omega]
  have hword : wordBits w = ((List.range 8).map fun i => w.toBitVec.getMsbD i) ++
      (List.range 8).map fun i => w.toBitVec.getMsbD (i + 8) := rfl
  rw [Bytes.ofLE16, Bytes.bits_cons, Bytes.bits_cons, Bytes.bits_nil, List.append_nil, hlow, hhigh,
    hword, odd_append, odd_append, Bool.xor_comm]

/-- **A frame that ends in its check has an even number of bits set.** -/
theorem odd_bits_withCrc16 (payload : Bytes) : odd (withCrc16 payload).bits = false := by
  have hstart : odd (wordBits 0xFFFF) = false := by decide
  rw [withCrc16, Bytes.bits_append, odd_append, odd_bits_ofLE16, crc16_eq_divide,
    odd_wordBits_divide, hstart, Bool.false_xor, Bool.xor_self]

/-! ### Bits that lie close together -/

/-- Division by one bit loses nothing: what goes in at the bottom is an even number, and the
polynomial is odd. -/
theorem eq_zero_of_shift {r : UInt16} (h : shift r = 0) : r = 0 := by
  have hup : (r <<< 1).toNat = r.toNat * 2 % 65536 := by
    rw [UInt16.toNat_shiftLeft, Nat.shiftLeft_eq]
    rfl
  have hmsb : r.toBitVec.msb = decide (32768 ≤ r.toNat) := BitVec.msb_eq_decide _
  have hlt := r.toNat_lt
  rw [← UInt16.toNat_inj]
  show r.toNat = 0
  unfold shift at h
  -- if the top bit goes out, the shifted word would have to be the polynomial, which is odd
  by_cases hout : r.toBitVec.msb = true
  · rw [if_pos hout, UInt16.xor_eq_zero_iff] at h
    have heven := congrArg UInt16.toNat h
    have hpolynomial : polynomial.toNat = 4129 := rfl
    omega
  · -- otherwise the word is doubled without loss, and so it was zero
    rw [if_neg hout] at h
    have hzero : (r <<< 1).toNat = 0 := congrArg UInt16.toNat h
    rw [hmsb, decide_eq_true_iff] at hout
    omega

theorem eq_zero_of_shifts : ∀ (n : Nat) {r : UInt16}, shifts n r = 0 → r = 0 := by
  intro n
  induction n with
  | zero => exact fun h => h
  | succ n ih => exact fun h => eq_zero_of_shift (ih h)

/-- Bits that are not set only move the remainder up. -/
theorem divide_replicate_false (n : Nat) : ∀ r : UInt16,
    divide r (List.replicate n false) = shifts n r := by
  induction n with
  | zero =>
    intro r
    rfl
  | succ n ih =>
    intro r
    have henter : enter r false = shift r := congrArg shift UInt16.xor_zero
    rw [List.replicate_succ, divide_cons, ih, henter]
    rfl

theorem shifts_zero (n : Nat) : shifts n 0 = 0 := by
  induction n with
  | zero => rfl
  | succ n ih => rw [shifts, shift_zero, ih]

/-- **Bits that lie close together do not divide out**, whatever number of bits that are not set
stands in front of them and behind. -/
theorem divide_burst {burst : List Bool} (hshort : burst.length ≤ 16) (hset : true ∈ burst)
    (before behind : Nat) : divide 0
      (List.replicate before false ++ (burst ++ List.replicate behind false)) ≠ 0 := by
  intro h
  rw [divide_append, divide_append, divide_replicate_false, divide_replicate_false,
    shifts_zero] at h
  have hburst := eq_zero_of_shifts behind h
  rw [← shifts_beginning burst 0 hshort, UInt16.zero_xor] at hburst
  have hnone := eq_zero_of_shifts burst.length hburst
  -- the bits are those of the word, and that is zero
  obtain ⟨i, hi, hbit⟩ := List.getElem_of_mem hset
  have hmsb := getMsbD_beginning burst i (by omega)
  rw [hnone, List.getD_eq_getElem?_getD, List.getElem?_eq_getElem hi, hbit] at hmsb
  exact absurd hmsb (by simp)

/-- Bits within a window are bits that lie close together. -/
theorem divide_window {ds : List Bool} {start : Nat} (hset : true ∈ ds)
    (hwindow : ∀ i, ds[i]? = some true → start ≤ i ∧ i < start + 16) : divide 0 ds ≠ 0 := by
  -- no bit is set in front of the window
  have hbefore : ∀ b ∈ ds.take start, b = false := by
    intro b hb
    obtain ⟨i, hi, rfl⟩ := List.mem_take_iff_getElem.1 hb
    rw [Bool.eq_false_iff]
    intro htrue
    have hin := hwindow i (by rw [List.getElem?_eq_getElem (by omega), htrue])
    omega
  -- no bit is set behind the window
  have hbehind : ∀ b ∈ ds.drop (start + 16), b = false := by
    intro b hb
    obtain ⟨i, hi, rfl⟩ := List.mem_drop_iff_getElem.1 hb
    rw [Bool.eq_false_iff]
    intro htrue
    have hin := hwindow (start + 16 + i) (by rw [List.getElem?_eq_getElem (by omega), htrue])
    omega
  -- the bits are those in front, the burst and those behind
  have hparts : ds = ds.take start ++ ((ds.drop start).take 16 ++ ds.drop (start + 16)) := by
    rw [← List.drop_drop, List.take_append_drop, List.take_append_drop]
  have hburst : true ∈ (ds.drop start).take 16 := by
    rw [hparts, List.mem_append, List.mem_append] at hset
    rcases hset with h | h | h
    · exact absurd (hbefore _ h) (by simp)
    · exact h
    · exact absurd (hbehind _ h) (by simp)
  rw [hparts, List.eq_replicate_of_mem hbefore, List.eq_replicate_of_mem hbehind]
  exact divide_burst (List.length_take_le _ _) hburst _ _

/-- The checks of two payloads differ by the remainder of their difference. -/
theorem crc16_xor {a b : Bytes} (h : a.length = b.length) :
    crc16 a ^^^ crc16 b = divide 0 (List.zipWith xor a.bits b.bits) := by
  rw [crc16_eq_divide, crc16_eq_divide, ← divide_xor _ _ _ _ (by
    rw [Bytes.length_bits, Bytes.length_bits, h]), UInt16.xor_self]

/-- Payloads that differ within a window have different checks. -/
theorem crc16_ne_of_window {a b : Bytes} {start : Nat} (hlength : a.length = b.length)
    (hne : a ≠ b) (hwindow : ∀ i, a.bits[i]? ≠ b.bits[i]? → start ≤ i ∧ i < start + 16) :
    crc16 a ≠ crc16 b := by
  have hbits : a.bits.length = b.bits.length := by
    rw [Bytes.length_bits, Bytes.length_bits, hlength]
  -- the bits of the difference are set where the two differ
  have hdiffer : ∀ i : Nat, (List.zipWith xor a.bits b.bits)[i]? = some true ↔
      a.bits[i]? ≠ b.bits[i]? := by
    intro i
    rw [List.getElem?_zipWith]
    rcases Nat.lt_or_ge i a.bits.length with hi | hi
    · rw [List.getElem?_eq_getElem hi, List.getElem?_eq_getElem (hbits ▸ hi)]
      simp
    · rw [List.getElem?_eq_none hi, List.getElem?_eq_none (hbits ▸ hi)]
      simp
  -- the two differ somewhere, since their bits determine them
  obtain ⟨i, hi⟩ : ∃ i : Nat, a.bits[i]? ≠ b.bits[i]? := by
    by_contra hall
    rw [not_exists] at hall
    exact hne (Bytes.bits_inj (List.ext_getElem? fun i => not_not.1 (hall i)))
  intro h
  -- if the checks were equal, the difference would leave no remainder
  have hzero := crc16_xor hlength
  rw [h, UInt16.xor_self] at hzero
  exact divide_window (List.mem_of_getElem? ((hdiffer i).2 hi))
    (fun j hj => hwindow j ((hdiffer j).1 hj)) hzero.symm

/-! ### Streams that end in their check -/

theorem ofLE16_le16 (lo hi : UInt8) : Bytes.ofLE16 (Bytes.le16 [lo, hi]) = [lo, hi] := by
  have hle : Bytes.le16 [lo, hi] = hi.toNat * 256 + lo.toNat := by
    show lo.toNat + 256 * hi.toNat = _
    omega
  have hlo := lo.toNat_lt
  rw [hle, Bytes.ofLE16, Nat.add_comm, Nat.add_mul_div_right _ _ (by decide),
    Nat.div_eq_of_lt hlo, Nat.zero_add]
  simp [UInt8.ofNat_add, UInt8.ofNat_mul]

/-- **A stream that is accepted ends in its check.** -/
theorem eq_withCrc16_of_strip {stream payload : Bytes} (hlong : 2 ≤ stream.length)
    (h : stripCrc16? stream = some payload) : stream = withCrc16 payload := by
  unfold stripCrc16? at h
  dsimp only at h
  split at h
  · next hcrc =>
    cases h
    -- the check is the last two bytes
    obtain ⟨lo, hi, htail⟩ : ∃ lo hi, stream.drop (stream.length - 2) = [lo, hi] :=
      List.length_eq_two.1 (by rw [List.length_drop]; omega)
    rw [withCrc16, ← hcrc, htail, ofLE16_le16, ← htail, List.take_append_drop]
  · exact absurd h (by simp)

/-- Different checks are written in different bytes. -/
theorem ofLE16_inj {v w : UInt16} (h : Bytes.ofLE16 v.toNat = Bytes.ofLE16 w.toNat) : v = w := by
  have hv := Bytes.le16_ofLE16 v.toNat v.toNat_lt []
  have hw := Bytes.le16_ofLE16 w.toNat w.toNat_lt []
  rw [h, hw] at hv
  exact UInt16.toNat_inj.1 hv.symm

/-! ### Damage -/

/-- The bytes `frame` are as many as those of a payload and its check, but damaged. -/
inductive Damaged (payload : Bytes) : Bytes → Prop
  /-- An odd number of bits is wrong, wherever they are. -/
  | odd {frame : Bytes} (hlength : frame.length = payload.length + 2)
      (hodd : Bytes.differing frame (withCrc16 payload) % 2 = 1) : Damaged payload frame
  /-- Bits of the payload are wrong, none of them outside a window of sixteen bits. -/
  | burst {other : Bytes} (start : Nat) (hlength : other.length = payload.length)
      (hne : other ≠ payload)
      (hwindow : ∀ i, other.bits[i]? ≠ payload.bits[i]? → start ≤ i ∧ i < start + 16) :
      Damaged payload (other ++ Bytes.ofLE16 (crc16 payload).toNat)
  /-- The check is wrong, and the payload is not. -/
  | trailer {check : Bytes} (hlength : check.length = 2)
      (hne : check ≠ Bytes.ofLE16 (crc16 payload).toNat) : Damaged payload (payload ++ check)

variable {payload frame : Bytes}

theorem Damaged.length (h : Damaged payload frame) : frame.length = payload.length + 2 := by
  cases h with
  | odd hlength _ => exact hlength
  | burst _ hlength _ _ => rw [List.length_append, hlength, Bytes.length_ofLE16]
  | trailer hlength _ => rw [List.length_append, hlength]

/-- **Damage is noticed.** -/
theorem strip_eq_none_of_damaged (h : Damaged payload frame) : stripCrc16? frame = none := by
  rw [Option.eq_none_iff_forall_not_mem]
  intro other hsome
  have hlong : 2 ≤ frame.length := by
    have hlength := h.length
    omega
  have hframe := eq_withCrc16_of_strip hlong hsome
  cases h with
  | odd hlength hodd =>
    -- both frames have an even number of bits set, and so do their differences
    rw [Bytes.differing, ← odd_eq_true_iff, odd_zipWith (by
      rw [Bytes.length_bits, Bytes.length_bits, length_withCrc16, hlength]), hframe,
      odd_bits_withCrc16, odd_bits_withCrc16] at hodd
    exact absurd hodd (by decide)
  | @burst arrived start hlength hne hwindow =>
    rw [withCrc16] at hframe
    obtain ⟨rfl, hcheck⟩ := List.append_inj' hframe rfl
    exact crc16_ne_of_window hlength hne hwindow (ofLE16_inj hcheck).symm
  | trailer hlength hne =>
    rw [withCrc16] at hframe
    obtain ⟨rfl, hcheck⟩ := List.append_inj' hframe hlength
    exact hne hcheck

end Checksum
end DiveLink
