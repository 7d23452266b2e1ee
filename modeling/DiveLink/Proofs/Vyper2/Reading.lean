import DiveLink.Proofs.Bench
import DiveLink.Proofs.Block
import DiveLink.Proofs.Incremental
import DiveLink.Proofs.Vyper2.Simulator

/-!
# Reading memory from a device that may not be trusted

A range of memory is read block by block into the caller's buffer.  Whatever the link delivers, a
block reaches the buffer only if its answer is the one that a device gives for that very block, with
the right header, lengths and checksum; behind the last such block the buffer is as it was.

## Main definitions

* `Vyper2.Answered` — a block, and the data that an answer to its command carried.
* `Vyper2.Filled` — a buffer in which the first blocks of a range were answered.

## Main results

* `Vyper2.Obtained.answered` — what was obtained for a block is the data of an answer for it.
* `Device.read_fills` — **only answers that fit reach the buffer**, block by block.
-/

namespace DiveLink
namespace Vyper2

open Session

variable {σ δ : Type} [Link σ] {es : List Entry}

/-- In the course of `es` the command for the block `b` was sent, and the answer for that block with
the bytes `data` was received. -/
def Answered (es : List Entry) (b : Block) (data : Bytes) : Prop :=
  data.length = b.size ∧ ∃ part, part <:+: es ∧
    Packet.Exchanged settle (readCommand b) (blockAnswer b data) b.size part

/-- What was obtained for a block was carried by an answer for it, and by nothing else. -/
theorem Obtained.answered {b : Block} {data : Bytes} (h : Obtained es b data) :
    Answered es b data := by
  refine ⟨h.length, ?_⟩
  obtain ⟨answer, part, hpart, hex, hlen, rfl⟩ := h
  obtain ⟨_, _, _, _, _, -, -, -, -, -, -, -, hfits⟩ := id hex
  obtain ⟨y, payload, hy, hpayload, -, hanswer⟩ := Packet.eq_response_of_check hfits
  -- the parameters of the answer are those of the command
  have hthree : answer.length - b.size - Packet.overhead = rangeParameters := by
    rw [hlen]
    unfold Packet.overhead rangeParameters
    omega
  have hparameters : Bytes.slice (readCommand b) 3 rangeParameters = blockParameters b := rfl
  obtain rfl : 0x05 = y := Option.some.inj hy
  rw [hthree, hparameters] at hanswer
  have hdata := Packet.data_response 0x05 (blockParameters b) payload
  rw [length_blockParameters, hpayload, ← hanswer] at hdata
  refine ⟨part, hpart, ?_⟩
  rwa [hdata, blockAnswer, ← hanswer]

/-- The `i`th block of a range. -/
def nthBlock (address length i : Nat) : Block :=
  ⟨address + blockSize * i, min blockSize (length - blockSize * i)⟩

/-- The buffer `filled` was `buffer` before the first `k` blocks of the range from `address` on were
answered. -/
structure Filled (es : List Entry) (address k : Nat) (buffer filled : Bytes) : Prop where
  length : filled.length = buffer.length
  /-- Each of the blocks stands where it belongs, with the data of its answer. -/
  answered : ∀ i, i < k → blockSize * i < buffer.length ∧
    Answered es (nthBlock address buffer.length i)
      (filled.slice (blockSize * i) (nthBlock address buffer.length i).size)
  untouched : filled.drop (blockSize * k) = buffer.drop (blockSize * k)

/-- Blocks at the front of a range fill the front of the buffer. -/
theorem filled_of_answered {address : Nat} {buffer : Bytes} {chunks : List Bytes}
    {r : Except DeviceError Unit} (h : List.Forall₂ (Answered es)
      ((Block.tile blockSize address buffer.length).take chunks.length) chunks) :
    Filled es address chunks.length buffer (Receipt.fill ⟨chunks.flatten, r⟩ buffer) := by
  obtain ⟨hlen, hat⟩ := Block.chunk_at (by decide) (fun _ _ h => h.1) chunks _ _ h
  refine ⟨?_, ?_, ?_⟩
  · rw [Receipt.fill, List.length_append, List.length_drop, hlen]
    omega
  · intro i hi
    obtain ⟨hlt, data, hdata, hslice⟩ := hat i hi
    refine ⟨hlt, ?_⟩
    rw [Receipt.fill, show (nthBlock address buffer.length i).size =
      min blockSize (buffer.length - blockSize * i) from rfl, hslice]
    exact hdata
  · rcases Nat.le_total buffer.length (blockSize * chunks.length) with hle | hle
    · -- the blocks reach to the end of the buffer
      rw [List.drop_eq_nil_of_le hle, List.drop_eq_nil_iff, Receipt.fill, List.length_append,
        List.length_drop, hlen]
      omega
    · rw [Nat.min_eq_left hle] at hlen
      rw [Receipt.fill, ← hlen, List.drop_left]

end Vyper2

/-- **Only answers that fit reach the buffer.**  A read leaves the answers for the first blocks of
the range in it, however the link behaves, and the rest of the buffer as it was; it succeeds exactly
if these blocks are all. -/
theorem Device.read_fills {σ : Type} [Link σ] {address : Nat} {buffer : Bytes}
    (hrange : address + buffer.length ≤ Vyper2.memorySize) (s : Session σ Vyper2) :
    ∃ r t es k, Device.read address buffer.length (.vyper2 s) = (r, .vyper2 t) ∧
      t.history = s.history ++ es ∧ Vyper2.Filled es address k buffer (r.fill buffer) ∧
      (r.outcome = .ok () ↔ buffer.length ≤ Vyper2.blockSize * k) := by
  obtain ⟨f, t, es, hrun, hgrows, hobtained, hok⟩ := Vyper2.obtained_of_readBlocks
    (Block.tile Vyper2.blockSize address buffer.length) none s
  have hread : Session.run (Vyper2.read address buffer.length) s =
      (.ok ⟨f.chunks.flatten, f.outcome⟩, t) := by
    unfold Vyper2.read
    rw [Vyper2.rangeFault_of_le hrange]
    exact Session.run_bind_ok hrun _
  refine ⟨⟨f.chunks.flatten, f.outcome⟩, t, es, f.chunks.length, ?_, hgrows.history,
    Vyper2.filled_of_answered (hobtained.imp fun _ _ h => h.answered), ?_⟩
  · rw [Device.read, Device.fill, Device.run_vyper2, hread]
  · rw [hok, Block.length_tile_le_iff (by decide)]

/-- One bit of the second answer is turned over on the way: the first block reaches the buffer, and
the second does not. -/
theorem Device.read_fills_before_damage :
    let buffer : Bytes := List.replicate 130 0xEE
    let bench := Bench.disturbed [0x13, 1, 2, 3] (List.replicate 0x100 0x5A)
      [{ answer := 2, flips := [(8, 1)] }] {}
    0x10 + buffer.length ≤ Vyper2.memorySize ∧ ∃ r t es,
      Device.read 0x10 buffer.length (.vyper2 (.start bench ⟨none⟩ ⟨0⟩)) = (r, .vyper2 t) ∧
        t.history = es ∧ Vyper2.Filled es 0x10 1 buffer (r.fill buffer) ∧ r.outcome ≠ .ok () := by
  intro buffer bench
  have hlength : buffer.length = 130 := List.length_replicate
  have hrange : 0x10 + buffer.length ≤ Vyper2.memorySize := by
    rw [hlength]
    decide
  obtain ⟨r, t, es, k, hread, hes, hfilled, hok⟩ :=
    Device.read_fills hrange (.start bench ⟨none⟩ ⟨0⟩)
  have hr : r = (Device.read 0x10 buffer.length (.vyper2 (.start bench ⟨none⟩ ⟨0⟩))).1 :=
    (congrArg Prod.fst hread).symm
  have hfill : r.fill buffer = List.replicate 120 0x5A ++ List.replicate 10 0xEE := by
    rw [hr]
    decide +kernel
  have hfails : ¬ r.outcome = .ok () := by
    have hnot : r.outcome.isOk = false := by
      rw [hr]
      decide +kernel
    rintro h
    rw [h] at hnot
    exact absurd hnot (by decide)
  -- one block is in the buffer, and two would have been all
  have hone : k = 1 := by
    have hlt : k < 2 := by
      by_contra hge
      refine hfails (hok.2 ?_)
      rw [hlength, Vyper2.blockSize]
      omega
    have hpos : k ≠ 0 := by
      rintro rfl
      have hsame := hfilled.untouched
      rw [hfill] at hsame
      exact absurd hsame (by decide)
    omega
  rw [hone] at hfilled
  exact ⟨hrange, r, t, es, hread, hes, hfilled, hfails⟩

end DiveLink
