import DiveLink.Packet

/-!
# Answers that fit

An answer that repeats the first byte and the parameters of its command, and says how long it is,
fits the command, and the data it carries is found in it.  No other answer fits.

## Main definitions

* `Packet.response` — an answer as a device frames it.

## Main results

* `Packet.check_response` — **an answer that repeats the parameters of its command fits it.**
* `Packet.eq_response_of_check` — **an answer that fits is one of these.**
* `Packet.data_response` — its data is the data it was framed with.
-/

namespace DiveLink
namespace Packet

variable {x : UInt8} {parameters data command : Bytes}

/-! ### Frames -/

@[simp] theorem getLast?_frame (body : Bytes) :
    (frame body).getLast? = some (Checksum.xorSum 0 body) := by
  simp [frame]

@[simp] theorem dropLast_frame (body : Bytes) : (frame body).dropLast = body := by
  simp [frame]

/-- The bytes of a frame make zero, its checksum included. -/
theorem xorSum_frame (body : Bytes) : Checksum.xorSum 0 (frame body) = 0 := by
  rw [frame, Checksum.xorSum_append, Checksum.xorSum_cons, Checksum.xorSum_nil, UInt8.xor_self]

/-! ### Answers -/

/-- The answer to a command with the first byte `x`: its length, the parameters of the command, and
some data. -/
def response (x : UInt8) (parameters data : Bytes) : Bytes :=
  frame (x :: (Bytes.ofBE16 (parameters.length + data.length) ++ (parameters ++ data)))

@[simp] theorem length_response (x : UInt8) (parameters data : Bytes) :
    (response x parameters data).length = overhead + parameters.length + data.length := by
  simp only [response, length_frame, List.length_cons, List.length_append, Bytes.length_ofBE16,
    overhead]
  omega

/-- Behind the first three bytes stand the parameters, the data and the checksum. -/
theorem drop_response (x : UInt8) (parameters data : Bytes) :
    ∃ sum, (response x parameters data).drop 3 = parameters ++ (data ++ [sum]) :=
  ⟨_, List.append_assoc parameters data [_]⟩

theorem be16_response (h : parameters.length + data.length < 65536) :
    Bytes.be16 ((response x parameters data).drop 1) = parameters.length + data.length := by
  obtain ⟨rest, hrest⟩ : ∃ rest, (response x parameters data).drop 1 =
      Bytes.ofBE16 (parameters.length + data.length) ++ rest :=
    ⟨_, List.append_assoc _ (parameters ++ data) [_]⟩
  rw [hrest, Bytes.be16_ofBE16 _ h]

theorem slice_response (x : UInt8) (parameters data : Bytes) :
    Bytes.slice (response x parameters data) 3 parameters.length = parameters := by
  obtain ⟨sum, hdrop⟩ := drop_response x parameters data
  rw [Bytes.slice, hdrop, List.take_left]

/-- **An answer that repeats the parameters of its command fits it.** -/
theorem check_response (hx : command.head? = some x)
    (hlong : 3 + parameters.length ≤ command.length)
    (hparameters : Bytes.slice command 3 parameters.length = parameters)
    (hshort : parameters.length + data.length < 65536) :
    check command (response x parameters data) data.length = .ok () := by
  -- one fact for each of the checks, in their order
  have hne : command ≠ [] := by
    rintro rfl
    exact absurd hx (by simp)
  have hrest : (response x parameters data).length - data.length - overhead =
      parameters.length := by
    rw [length_response]
    omega
  have hlong' : ¬ (command = [] ∨
      (response x parameters data).length < overhead + data.length) := by
    rw [length_response]
    rintro (h | h)
    · exact hne h
    · omega
  have hsize : Bytes.be16 ((response x parameters data).drop 1) + overhead =
      (response x parameters data).length := by
    rw [be16_response hshort, length_response]
    omega
  have hsame : ¬ (command.length < 3 + parameters.length ∨
      Bytes.slice command 3 parameters.length ≠
        Bytes.slice (response x parameters data) 3 parameters.length) := by
    rw [hparameters, slice_response]
    rintro (h | h)
    · omega
    · exact h rfl
  unfold check
  rw [if_neg hlong', if_neg (by rw [hx]; exact fun h => h rfl), if_neg (fun h => h hsize)]
  simp only [hrest]
  rw [if_neg hsame, response, getLast?_frame, dropLast_frame, if_neg (fun h => h rfl)]

/-- The checks that an answer has passed if it fits, in their order. -/
theorem checks_of_fits {answer : Bytes} {size : Nat} (h : check command answer size = .ok ()) :
    command ≠ [] ∧ overhead + size ≤ answer.length ∧ answer.head? = command.head? ∧
      Bytes.be16 (answer.drop 1) + overhead = answer.length ∧
      3 + (answer.length - size - overhead) ≤ command.length ∧
      Bytes.slice command 3 (answer.length - size - overhead) =
        Bytes.slice answer 3 (answer.length - size - overhead) ∧
      answer.getLast? = some (Checksum.xorSum 0 answer.dropLast) := by
  -- each check that is passed leaves its condition behind
  unfold check at h
  split at h
  · exact absurd h (by simp)
  · next hshort =>
    rw [not_or, Nat.not_lt] at hshort
    split at h
    · exact absurd h (by simp)
    · next hhead =>
      split at h
      · exact absurd h (by simp)
      · next hsize =>
        simp only at h
        split at h
        · exact absurd h (by simp)
        · next hsame =>
          rw [not_or, Nat.not_lt] at hsame
          split at h
          · exact absurd h (by simp)
          · next hsum =>
            exact ⟨hshort.1, hshort.2, Decidable.of_not_not hhead, Decidable.of_not_not hsize,
              hsame.1, Decidable.of_not_not hsame.2, Decidable.of_not_not hsum⟩

/-- Two bytes are those of the number that they hold. -/
theorem ofBE16_be16 (hi lo : UInt8) (rest : Bytes) :
    Bytes.ofBE16 (Bytes.be16 (hi :: lo :: rest)) = [hi, lo] := by
  have hbe : Bytes.be16 (hi :: lo :: rest) = 256 * hi.toNat + lo.toNat := rfl
  rw [hbe, Bytes.ofBE16, Nat.mul_add_div (by decide), Nat.div_eq_of_lt lo.toNat_lt, Nat.add_zero]
  simp [UInt8.ofNat_add, UInt8.ofNat_mul]

/-- **An answer that fits repeats the parameters of its command**, and is nothing but these and its
data, framed. -/
theorem eq_response_of_check {answer : Bytes} {size : Nat}
    (h : check command answer size = .ok ()) :
    ∃ y payload, command.head? = some y ∧ payload.length = size ∧
      3 + (answer.length - size - overhead) ≤ command.length ∧
      answer = response y (Bytes.slice command 3 (answer.length - size - overhead)) payload := by
  obtain ⟨hne, hlong, hhead, hsize, hroom, hsame, hsum⟩ := checks_of_fits h
  unfold overhead at hlong hsize hroom hsame ⊢
  obtain ⟨n, hn⟩ : ∃ n, n = answer.length - size - 4 := ⟨_, rfl⟩
  rw [← hn] at hroom hsame ⊢
  -- three bytes in front, the checksum at the end, and parameters and data between them
  match answer, hlong with
  | y :: hi :: lo :: rest, hlong =>
    simp only [List.length_cons] at hlong hn
    have hrest : rest ≠ [] := List.length_pos_iff.1 (by omega)
    obtain ⟨body, sum, rfl⟩ : ∃ body sum, rest = body ++ [sum] :=
      ⟨rest.dropLast, rest.getLast hrest, (List.dropLast_concat_getLast hrest).symm⟩
    rw [List.length_append, List.length_singleton] at hlong hn
    have hparameters : Bytes.slice command 3 n = body.take n := by
      rw [hsame]
      show (body ++ [sum]).take n = _
      rw [List.take_append_of_le_length (by omega)]
    have htaken : (body.take n).length = n := by rw [List.length_take]; omega
    have hpayload : (body.drop n).length = size := by rw [List.length_drop]; omega
    have hwords : Bytes.ofBE16 (n + size) = [hi, lo] := by
      rw [← ofBE16_be16 hi lo (body ++ [sum])]
      simp only [List.drop_succ_cons, List.drop_zero, List.length_cons, List.length_append,
        List.length_nil] at hsize
      congr 1
      omega
    have hlast : sum = Checksum.xorSum 0 (y :: hi :: lo :: body) := by
      have hconcat : y :: hi :: lo :: (body ++ [sum]) = y :: hi :: lo :: body ++ [sum] := rfl
      rw [hconcat, List.dropLast_concat, List.getLast?_concat] at hsum
      exact Option.some.inj hsum
    refine ⟨y, body.drop n, hhead.symm, hpayload, hroom, ?_⟩
    rw [response, frame, hparameters, htaken, hpayload, hwords, List.take_append_drop, hlast]
    rfl

/-- The data of an answer is the data it was framed with. -/
theorem data_response (x : UInt8) (parameters payload : Bytes) :
    Packet.data (response x parameters payload) parameters.length payload.length = payload := by
  obtain ⟨sum, hdrop⟩ := drop_response x parameters payload
  rw [Packet.data, Bytes.slice, ← List.drop_drop, hdrop, List.drop_left, List.take_left]

end Packet
end DiveLink
