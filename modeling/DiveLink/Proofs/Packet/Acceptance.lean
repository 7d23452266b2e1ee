import DiveLink.Proofs.Guarded
import DiveLink.Proofs.Packet

/-!
# Which answers are accepted

An answer is accepted if it is a frame that repeats the first byte and some parameters of its
command, carries the data that are asked for, and says how long it is.  Of an answer that is not
accepted the first fault is told, in a fixed order, whatever else is wrong with it.

## Main definitions

* `AnswerFault.Present` — whether an answer has a fault.
* `AnswerFault.order`, `AnswerFault.first` — the order in which the faults are looked for, and the
  first one that is found.

## Main results

* `Checksum.xorSum_eq_zero_iff` — a frame ends in its checksum if all of its bytes make zero.
* `Packet.check_eq_first` — **the first fault that is present is told.**
* `Packet.fits_iff` — **an answer is accepted if and only if it is framed from its command.**
* `Packet.check_exact` — the two together, for an answer that is read under guard.
-/

namespace DiveLink

namespace Checksum

theorem xorSum_concat (s x : UInt8) (b : Bytes) : xorSum s (b ++ [x]) = xorSum s b ^^^ x := by
  rw [xorSum_append, xorSum_cons, xorSum_nil]

/-- Bytes that end in the checksum of those in front of it make zero, and no others do. -/
theorem xorSum_eq_zero_iff {b : Bytes} (hb : b ≠ []) :
    xorSum 0 b = 0 ↔ b.getLast? = some (xorSum 0 b.dropLast) := by
  obtain ⟨body, sum, rfl⟩ : ∃ body sum, b = body ++ [sum] :=
    ⟨b.dropLast, b.getLast hb, (List.dropLast_concat_getLast hb).symm⟩
  rw [xorSum_concat, List.getLast?_concat, List.dropLast_concat, UInt8.xor_eq_zero_iff,
    Option.some_inj]
  exact eq_comm

end Checksum

/-! ### Faults in their order -/

namespace AnswerFault

/-- The order in which the faults of an answer are looked for. -/
def order : List AnswerFault := [tooShort, header, size, parameters, checksum]

/-- The first of some faults of which `P` holds; nothing is wrong if it holds of none. -/
def first (P : AnswerFault → Prop) [DecidablePred P] (fs : List AnswerFault) :
    Except AnswerFault Unit :=
  match fs.find? (P ·) with
  | some f => .error f
  | none => .ok ()

@[simp] theorem first_nil (P : AnswerFault → Prop) [DecidablePred P] : first P [] = .ok () := rfl

theorem first_cons (P : AnswerFault → Prop) [DecidablePred P] (f : AnswerFault)
    (fs : List AnswerFault) : first P (f :: fs) = if P f then .error f else first P fs := by
  unfold first
  by_cases h : P f <;> simp [h]

/-- How many bytes of parameters an answer with `n` bytes of data repeats. -/
def echoed (answer : Bytes) (n : Nat) : Nat := answer.length - (Packet.overhead + n)

/-- The answer to a command, which should carry `n` bytes of data, has the fault. -/
def Present (command answer : Bytes) (n : Nat) : AnswerFault → Prop
  | tooShort => command = [] ∨ answer.length < Packet.overhead + n
  | header => answer.head? ≠ command.head?
  | size => Bytes.be16 (answer.drop 1) + Packet.overhead ≠ answer.length
  | parameters => command.length < 3 + echoed answer n ∨
      Bytes.slice command 3 (echoed answer n) ≠ Bytes.slice answer 3 (echoed answer n)
  | checksum => Checksum.xorSum 0 answer ≠ 0

instance (command answer : Bytes) (n : Nat) : DecidablePred (Present command answer n)
  | tooShort => inferInstanceAs (Decidable (_ ∨ _))
  | header => inferInstanceAs (Decidable (_ ≠ _))
  | size => inferInstanceAs (Decidable (_ ≠ _))
  | parameters => inferInstanceAs (Decidable (_ ∨ _))
  | checksum => inferInstanceAs (Decidable (_ ≠ _))

end AnswerFault

namespace Packet

open AnswerFault

variable {command answer : Bytes} {size : Nat}

/-- **The first fault that is present is told.** -/
theorem check_eq_first (command answer : Bytes) (size : Nat) :
    check command answer size = first (Present command answer size) order := by
  rw [order, first_cons, first_cons, first_cons, first_cons, first_cons, first_nil]
  unfold check
  by_cases hshort : command = [] ∨ answer.length < overhead + size
  · have hpresent : Present command answer size .tooShort := hshort
    rw [if_pos hshort, if_pos hpresent]
  have habsent : ¬ Present command answer size .tooShort := hshort
  have hanswer : answer ≠ [] := by
    rintro rfl
    exact hshort (.inr (Nat.lt_of_lt_of_le (by decide) (Nat.le_add_right _ _)))
  have hechoed : answer.length - size - overhead = echoed answer size := by
    rw [echoed, Nat.sub_sub, Nat.add_comm]
  have hsum : answer.getLast? ≠ some (Checksum.xorSum 0 answer.dropLast) ↔
      Present command answer size .checksum :=
    (not_congr (Checksum.xorSum_eq_zero_iff hanswer)).symm
  rw [if_neg hshort, if_neg habsent, hechoed]
  simp only [hsum]
  rfl

/-! ### What is accepted -/

/-- **An answer is accepted if and only if it is framed from its command**: its first byte and its
parameters are those of the command, and the two bytes between them hold the length. -/
theorem fits_iff : check command answer size = .ok () ↔
    ∃ c x y hi lo, ∃ parameters rest data : Bytes, data.length = size ∧
      command = [c, x, y] ++ parameters ++ rest ∧
      answer = frame ([c, hi, lo] ++ parameters ++ data) ∧
      hi.toNat * 256 + lo.toNat = parameters.length + data.length := by
  constructor
  · intro h
    obtain ⟨-, -, -, hsize, -⟩ := checks_of_fits h
    obtain ⟨c, data, hc, hdata, hroom, hanswer⟩ := eq_response_of_check h
    obtain ⟨n, hn⟩ : ∃ n, n = answer.length - size - overhead := ⟨_, rfl⟩
    rw [← hn] at hroom hanswer
    obtain ⟨c', x, y, tail, rfl⟩ : ∃ c' x y tail, command = c' :: x :: y :: tail := by
      match command, Nat.le_trans (Nat.le_add_right 3 n) hroom with
      | c' :: x :: y :: tail, _ => exact ⟨c', x, y, tail, rfl⟩
    obtain rfl : c' = c := Option.some.inj hc
    have hslice : Bytes.slice (c' :: x :: y :: tail) 3 n = tail.take n := rfl
    rw [hslice] at hanswer
    obtain ⟨m, hm⟩ : ∃ m, m = (tail.take n).length + data.length := ⟨_, rfl⟩
    -- the length is one that two bytes can hold
    have hlt : m < 65536 := by
      have hbe := Bytes.be16_lt (answer.drop 1)
      have hlength := congrArg List.length hanswer
      rw [length_response] at hlength
      omega
    have hnumber := Bytes.be16_ofBE16 m hlt []
    refine ⟨c', x, y, UInt8.ofNat (m / 256), UInt8.ofNat m, tail.take n, tail.drop n, data, hdata,
      ?_, ?_, ?_⟩
    · rw [List.append_assoc, List.take_append_drop]
      rfl
    · rw [hanswer, response, ← hm]
      rfl
    · rw [← hm, Nat.mul_comm]
      exact hnumber
  · rintro ⟨c, x, y, hi, lo, parameters, rest, data, rfl, rfl, rfl, hnumber⟩
    have hi_lt := hi.toNat_lt
    have lo_lt := lo.toNat_lt
    have hwords : Bytes.ofBE16 (parameters.length + data.length) = [hi, lo] := by
      rw [← ofBE16_be16 hi lo [], ← hnumber, Nat.mul_comm]
      rfl
    have hresponse : frame ([c, hi, lo] ++ parameters ++ data) = response c parameters data := by
      rw [response, hwords]
      simp
    rw [hresponse]
    refine check_response rfl ?_ ?_ (by omega)
    · simp
      omega
    · simp [Bytes.slice]

/-- **The check of an answer.**  No guard stops it, whatever the command and the answer are; it
accepts precisely the answers that are framed from the command; and it tells the first fault of any
other. -/
theorem check_exact (command answer : Bytes) (size : Nat) :
    check? command answer size = some (check command answer size) ∧
      (check command answer size = .ok () ↔
        ∃ c x y hi lo, ∃ parameters rest data : Bytes, data.length = size ∧
          command = [c, x, y] ++ parameters ++ rest ∧
          answer = frame ([c, hi, lo] ++ parameters ++ data) ∧
          hi.toNat * 256 + lo.toNat = parameters.length + data.length) ∧
      check command answer size = first (Present command answer size) order ∧
      order.map error = [.badLength, .badHeader, .badLength, .badParameters, .badChecksum] :=
  ⟨check?_eq command answer size, fits_iff, check_eq_first command answer size, rfl⟩

-- an answer with another first byte, a wrong length and a wrong checksum
example : check (frame [0x0F, 0x00, 0x00]) [0x0E, 0x00, 0x05, 0x13, 0x01, 0x02, 0x03, 0x00] 4 =
    .error .header := by rfl

end Packet
end DiveLink
