import DiveLink.Proofs.Checksum
import DiveLink.Proofs.Packet.Acceptance

/-!
# What the check of an answer notices

An answer that fits its command is changed on its way, but not in its length.  The change goes
unnoticed if and only if it leaves the first byte, the length and the parameters alone, and the
bytes by which the two answers differ make zero.  Otherwise the first field that was changed is the
one that is told, whatever else was changed.

## Main definitions

* `Bytes.difference` — the bytes by which two runs of bytes differ.
* `Bytes.bitAt` — one and the same bit of each byte.
* `AnswerFault.Damaged` — the fault of which a field is damaged.

## Main results

* `Checksum.xorSum_difference` — **the checksum of a difference is the difference of the
  checksums.**
* `Checksum.getLsbD_xorSum` — a bit of the checksum is the parity of that bit over all bytes.
* `Packet.check_changed` — **the first damaged field is told.**
* `Packet.check_notices` — what is noticed of a change, and what is not.
-/

namespace DiveLink

/-! ### Differences -/

namespace Bytes

/-- The bytes by which two runs of bytes differ. -/
def difference (a b : Bytes) : Bytes := List.zipWith (· ^^^ ·) a b

/-- The bit `k` of each byte, counted from the least significant one. -/
def bitAt (k : Nat) (b : Bytes) : List Bool := b.map fun x => x.toBitVec.getLsbD k

@[simp] theorem difference_nil : difference [] [] = [] := rfl

@[simp] theorem difference_cons (x y : UInt8) (a b : Bytes) :
    difference (x :: a) (y :: b) = (x ^^^ y) :: difference a b := rfl

@[simp] theorem bitAt_cons (k : Nat) (x : UInt8) (b : Bytes) :
    bitAt k (x :: b) = x.toBitVec.getLsbD k :: bitAt k b := rfl

end Bytes

namespace Checksum

open Bytes

/-- **The checksum of a difference is the difference of the checksums.** -/
theorem xorSum_difference : ∀ {a b : Bytes} (s t : UInt8), a.length = b.length →
    xorSum (s ^^^ t) (difference a b) = xorSum s a ^^^ xorSum t b := by
  intro a
  induction a with
  | nil =>
    intro b s t h
    rw [List.eq_nil_of_length_eq_zero h.symm]
    rfl
  | cons x a ih =>
    intro b s t h
    cases b with
    | nil => exact absurd h (by simp)
    | cons y b =>
      -- the two sums take in a byte each, and their difference the difference of the bytes
      have hswap : s ^^^ t ^^^ (x ^^^ y) = s ^^^ x ^^^ (t ^^^ y) := by ac_rfl
      rw [difference_cons, xorSum_cons, hswap, ih _ _ (Nat.succ.inj h)]
      rfl

/-- A bit of the checksum tells whether that bit is set in an odd number of bytes. -/
theorem getLsbD_xorSum (k : Nat) : ∀ (s : UInt8) (b : Bytes),
    (xorSum s b).toBitVec.getLsbD k = xor (s.toBitVec.getLsbD k) (odd (bitAt k b)) := by
  intro s b
  induction b generalizing s with
  | nil => exact (Bool.xor_false _).symm
  | cons x b ih =>
    rw [xorSum_cons, ih, UInt8.toBitVec_xor, BitVec.getLsbD_xor, bitAt_cons, odd_cons,
      Bool.xor_assoc]

theorem xorSum_xor (s t : UInt8) (b : Bytes) : xorSum (s ^^^ t) b = xorSum s b ^^^ t := by
  induction b generalizing s with
  | nil => rfl
  | cons x b ih =>
    have hswap : s ^^^ t ^^^ x = s ^^^ x ^^^ t := by ac_rfl
    rw [xorSum_cons, xorSum_cons, hswap, ih]

/-- A byte in place of another changes the checksum by their difference. -/
theorem xorSum_set : ∀ {b : Bytes} {i : Nat} (h : i < b.length) (s v : UInt8),
    xorSum s (b.set i v) = xorSum s b ^^^ (b[i] ^^^ v) := by
  intro b
  induction b with
  | nil => exact fun h => absurd h (Nat.not_lt_zero _)
  | cons x b ih =>
    intro i h s v
    cases i with
    | zero =>
      rw [List.set_cons_zero, List.getElem_cons_zero, xorSum_cons, xorSum_cons, xorSum_xor,
        xorSum_xor, UInt8.xor_assoc, ← UInt8.xor_assoc x, UInt8.xor_self, UInt8.zero_xor]
    | succ i => exact ih (Nat.lt_of_succ_lt_succ h) (s ^^^ x) v

end Checksum

/-! ### Damaged fields -/

namespace AnswerFault

open Bytes

/-- The fault of which the field is damaged where the answer `a`, which repeats `n` bytes of
parameters, has become `a'`. -/
def Damaged (n : Nat) (a a' : Bytes) : AnswerFault → Prop
  | tooShort => False
  | header => a'.slice 0 1 ≠ a.slice 0 1
  | size => a'.slice 1 2 ≠ a.slice 1 2
  | parameters => a'.slice 3 n ≠ a.slice 3 n
  | checksum => Checksum.xorSum 0 (difference a a') ≠ 0

instance (n : Nat) (a a' : Bytes) : DecidablePred (Damaged n a a')
  | tooShort => inferInstanceAs (Decidable False)
  | header => inferInstanceAs (Decidable (_ ≠ _))
  | size => inferInstanceAs (Decidable (_ ≠ _))
  | parameters => inferInstanceAs (Decidable (_ ≠ _))
  | checksum => inferInstanceAs (Decidable (_ ≠ _))

theorem first_damaged (n : Nat) (a a' : Bytes) : first (Damaged n a a') order =
    if a'.slice 0 1 ≠ a.slice 0 1 then .error .header
    else if a'.slice 1 2 ≠ a.slice 1 2 then .error .size
    else if a'.slice 3 n ≠ a.slice 3 n then .error .parameters
    else if Checksum.xorSum 0 (difference a a') ≠ 0 then .error .checksum
    else .ok () := by
  rw [order, first_cons, first_cons, first_cons, first_cons, first_cons, first_nil]
  exact if_neg id

variable {P Q : AnswerFault → Prop} [DecidablePred P] [DecidablePred Q]

theorem first_congr (h : ∀ f, P f ↔ Q f) (fs : List AnswerFault) : first P fs = first Q fs := by
  induction fs with
  | nil => rfl
  | cons f fs ih => rw [first_cons, first_cons, ih, if_congr (h f) rfl rfl]

theorem first_eq_ok {fs : List AnswerFault} : first P fs = .ok () ↔ ∀ f ∈ fs, ¬ P f := by
  induction fs with
  | nil => simp
  | cons f fs ih =>
    rw [first_cons, List.forall_mem_cons, ← ih]
    by_cases h : P f <;> simp [h]

end AnswerFault

namespace Packet

open AnswerFault Bytes

variable {command a a' : Bytes} {size : Nat}

/-- No fault is present in an answer that fits. -/
theorem not_present (h : check command a size = .ok ()) (f : AnswerFault) :
    ¬ Present command a size f := by
  rw [check_eq_first, first_eq_ok] at h
  exact h f (by cases f <;> decide)

/-- Two bytes hold the same number only if they are the same. -/
theorem slice_eq_iff_be16 (h : 3 ≤ a.length) (h' : 3 ≤ a'.length) :
    a'.slice 1 2 = a.slice 1 2 ↔ be16 (a'.drop 1) = be16 (a.drop 1) := by
  match a, a', h, h' with
  | _ :: hi :: lo :: rest, _ :: hi' :: lo' :: rest', _, _ =>
    have hbytes := ofBE16_be16 hi lo rest
    have hbytes' := ofBE16_be16 hi' lo' rest'
    constructor
    · intro heq
      obtain ⟨rfl, rfl⟩ : hi' = hi ∧ lo' = lo := by simpa [Bytes.slice] using heq
      rfl
    · intro heq
      have hsame : [hi', lo'] = [hi, lo] := by
        rw [← hbytes, ← hbytes']
        exact congrArg ofBE16 heq
      exact hsame

/-- Where an answer that fits is changed, a fault is present if its field is damaged. -/
theorem present_iff_damaged (h : check command a size = .ok ()) (hlength : a'.length = a.length)
    (f : AnswerFault) : Present command a' size f ↔ Damaged (echoed a size) a a' f := by
  have hfits := not_present h
  obtain ⟨hcommand, hlong⟩ := not_or.1 (hfits .tooShort)
  have hbytes : 4 ≤ a.length := Nat.le_trans (Nat.le_add_right 4 size) (Nat.not_lt.1 hlong)
  -- how much is echoed depends on the length of the answer alone
  have hechoed : echoed a' size = echoed a size := by rw [echoed, echoed, hlength]
  cases f with
  | tooShort =>
    show command = [] ∨ a'.length < overhead + size ↔ False
    rw [hlength]
    exact iff_false_intro (not_or.2 ⟨hcommand, hlong⟩)
  | header =>
    have hhead : a.head? = command.head? := Decidable.of_not_not (hfits .header)
    show a'.head? ≠ command.head? ↔ a'.slice 0 1 ≠ a.slice 0 1
    rw [← hhead]
    obtain ⟨x, rest, rfl⟩ := List.exists_cons_of_length_pos (show 0 < a.length by omega)
    obtain ⟨x', rest', rfl⟩ := List.exists_cons_of_length_pos (show 0 < a'.length by omega)
    simp [Bytes.slice]
  | size =>
    have hsize : be16 (a.drop 1) + overhead = a.length := Decidable.of_not_not (hfits .size)
    show be16 (a'.drop 1) + overhead ≠ a'.length ↔ a'.slice 1 2 ≠ a.slice 1 2
    rw [ne_eq, ne_eq, slice_eq_iff_be16 (by omega) (by omega), hlength, ← hsize,
      Nat.add_right_cancel_iff]
  | parameters =>
    obtain ⟨hroom, hsame⟩ := not_or.1 (hfits .parameters)
    show command.length < 3 + echoed a' size ∨
      command.slice 3 (echoed a' size) ≠ a'.slice 3 (echoed a' size) ↔ _
    rw [hechoed, or_iff_right hroom, Decidable.of_not_not hsame]
    exact not_congr eq_comm
  | checksum =>
    -- the answer that fits adds up to zero, so the damaged one adds up to the damage
    have hsum : Checksum.xorSum 0 a = 0 := Decidable.of_not_not (hfits .checksum)
    have hdifference := Checksum.xorSum_difference 0 0 hlength.symm
    rw [UInt8.xor_self, hsum, UInt8.zero_xor] at hdifference
    show Checksum.xorSum 0 a' ≠ 0 ↔ Checksum.xorSum 0 (difference a a') ≠ 0
    rw [hdifference]

/-- **The first damaged field is told**, whatever else is damaged. -/
theorem check_changed (h : check command a size = .ok ()) (hlength : a'.length = a.length) :
    check command a' size = first (Damaged (echoed a size) a a') order := by
  rw [check_eq_first]
  exact first_congr (present_iff_damaged h hlength) order

/-- Of an answer that fits, all bytes make zero. -/
theorem xorSum_of_fits (h : check command a size = .ok ()) : Checksum.xorSum 0 a = 0 :=
  Decidable.of_not_not (not_present h .checksum)

/-- **What is noticed of a change.**  It goes unnoticed if and only if it leaves first byte, length
and parameters alone and the differences of all bytes make zero.  So a change of one byte is
noticed, and so is one that turns over some bit an odd number of times.  What is told is the first
damaged field. -/
theorem check_notices (h : check command a size = .ok ()) (hlength : a'.length = a.length) :
    (check command a' size = .ok () ↔
      a'.slice 0 1 = a.slice 0 1 ∧ a'.slice 1 2 = a.slice 1 2 ∧
        a'.slice 3 (echoed a size) = a.slice 3 (echoed a size) ∧
        Checksum.xorSum 0 (difference a a') = 0) ∧
      (∀ i v, a' = a.set i v → a' ≠ a → check command a' size ≠ .ok ()) ∧
      (∀ k, (bitAt k (difference a a')).count true % 2 = 1 → check command a' size ≠ .ok ()) ∧
      ∀ f, check command a' size = .error f → f.error =
        if a'.slice 0 1 ≠ a.slice 0 1 then .badHeader
        else if a'.slice 1 2 ≠ a.slice 1 2 then .badLength
        else if a'.slice 3 (echoed a size) ≠ a.slice 3 (echoed a size) then .badParameters
        else .badChecksum := by
  refine ⟨?_, ?_, ?_, ?_⟩
  · rw [check_changed h hlength, first_eq_ok]
    simp [order, Damaged]
  · -- one byte in another's place changes the sum by their difference
    rintro i v rfl hne hfits
    have hsum := xorSum_of_fits hfits
    rcases Nat.lt_or_ge i a.length with hi | hi
    · rw [Checksum.xorSum_set hi, xorSum_of_fits h, UInt8.zero_xor, UInt8.xor_eq_zero_iff] at hsum
      exact hne (by rw [← hsum, List.set_getElem_self])
    · exact hne (List.set_eq_of_length_le hi)
  · -- over an odd number of flips, one bit of the sum is set
    intro k hodd hfits
    have hdifference := Checksum.xorSum_difference 0 0 hlength.symm
    rw [xorSum_of_fits h, xorSum_of_fits hfits, UInt8.xor_self] at hdifference
    have hbit := Checksum.getLsbD_xorSum k 0 (difference a a')
    rw [hdifference, (Checksum.odd_eq_true_iff _).2 hodd] at hbit
    simp at hbit
  · intro f hf
    rw [check_changed h hlength, first_damaged] at hf
    split_ifs at hf ⊢ <;> cases hf <;> rfl

/-- An answer with two bytes of data on its way: where one bit is turned over in both of them,
nobody notices; and where a parameter is changed, this is what is told. -/
theorem check_notices_two_bytes :
    let command := frame [0x05, 0x00, 0x03, 0x01, 0x9A, 0x02]
    let a := frame [0x05, 0x00, 0x05, 0x01, 0x9A, 0x02, 0xAA, 0xBB]
    let twice := (a.set 6 0xBA).set 7 0xAB
    let once := a.set 4 0x9B
    check command a 2 = .ok () ∧ (twice ≠ a ∧ check command twice 2 = .ok ()) ∧
      ∃ f, check command once 2 = .error f ∧ f.error = .badParameters := by
  intro command a twice once
  have hfits : check command a 2 = .ok () := by decide
  have htwice : twice.length = a.length := by decide
  have honce : once.length = a.length := by decide
  obtain ⟨hunnoticed, -⟩ := check_notices hfits htwice
  obtain ⟨-, hone, -, hfirst⟩ := check_notices hfits honce
  refine ⟨hfits, ⟨by decide, hunnoticed.2 (by decide)⟩, ?_⟩
  cases hcheck : check command once 2 with
  | ok => exact absurd hcheck (hone 4 0x9B rfl (by decide))
  | error f => exact ⟨f, rfl, hfirst f hcheck⟩

end Packet
end DiveLink
