import DiveLink.Proofs.Bench
import DiveLink.Proofs.Incremental
import DiveLink.Proofs.Vyper2.Requests

/-!
# Ranges of memory are read whole

A device at the other end of a link that works gives every range of its memory, down to the empty
one and up to its last byte.  It is asked for the range in as few blocks as can be, one behind the
other; for a range that reaches beyond the memory it is not asked at all.

## Main definitions

* `Vyper2.Asks` — a command that asks for a block.
* `Vyper2.Tiles` — blocks that cover a range in order.

## Main results

* `Vyper2.asks_readCommand` — the commands for blocks say what is asked for, with nothing cut short.
* `Device.read_complete` — **a range is read whole if it lies in the memory**, and refused if not.
-/

namespace DiveLink
namespace Vyper2

open Session

/-! ### What is asked for -/

/-- The command asks for the block: it is a frame of seven bytes that make zero, and the address and
the size in it are those of the block. -/
structure Asks (command : Bytes) (b : Block) : Prop where
  code : command.head? = some 0x05
  length : command.length = 7
  sum : Checksum.xorSum 0 command = 0
  address : Bytes.be16 (command.drop 3) = b.address
  size : Bytes.byteAt command 5 = b.size

theorem asks_readCommand {b : Block} (hb : Addressable b) : Asks (readCommand b) b where
  code := rfl
  length := rfl
  sum := Packet.xorSum_frame _
  address := be16_readCommand hb
  size := byteAt_readCommand hb

/-- The blocks cover a range without a gap, each address once and in order, and are as few as can
be. -/
structure Tiles (blocks : List Block) (address length : Nat) : Prop where
  count : blocks.length = (length + (blockSize - 1)) / blockSize
  cover : blocks.flatMap RingAddress.addresses = List.range' address length
  size : ∀ b ∈ blocks, 0 < b.size ∧ b.size ≤ blockSize

theorem tiles_tile (address length : Nat) :
    Tiles (Block.tile blockSize address length) address length := by
  have hm : blockSize ≠ 0 := by decide
  refine ⟨Block.length_tile hm length address, Block.tile_addresses hm length address, ?_⟩
  intro b hb
  exact ⟨Block.pos_of_mem_tile hm length address b hb,
    (Block.bounds_of_mem_tile hm length address b hb).2.2⟩

/-! ### A range that is read -/

variable {σ δ : Type} [Link σ] {At : Simulator → Bytes → σ → Prop} {version memory : Bytes}
  {s : Session σ δ} {address length : Nat}

theorem rangeFault_of_lt (h : memorySize < address + length) :
    rangeFault address length = some (.invalidArgument (.memoryRange address length)) :=
  if_neg (Nat.not_le.2 h)

/-- A range is read from memory, block by block. -/
theorem run_read (hs : Serves At version memory s) (hm : memory.length = memorySize)
    (hrange : address + length ≤ memorySize) :
    ∃ t, run (read address length) s = (.ok (.whole (memory.slice address length)), t) ∧
      Traced s t ((Block.tile blockSize address length).map readCommand) [] := by
  obtain ⟨t, hblocks, -⟩ := yields_readBlocks (Block.tile blockSize address length) none
    (fun b hb => addressable_of_mem_tile hrange hb) s hs
  have hbytes := flatten_tile memory address length
  rw [Memory.load_eq_slice (by omega)] at hbytes
  refine ⟨t, ?_, traced_readBlocks _ _ _ _ _ hblocks rfl⟩
  unfold read
  rw [rangeFault_of_le hrange]
  simp only
  rw [run_bind_ok hblocks, hbytes]
  rfl

end Vyper2

/-- **A range is read whole if it lies in the memory** of a device at the other end of a link that
works: the device is asked for it in blocks that cover it, and for nothing else.  A range that
reaches beyond the memory is refused on any link, and no call is made. -/
theorem Device.read_complete {σ : Type} [Link σ] {memory : Bytes}
    (hm : memory.length = Vyper2.memorySize) (address length : Nat) :
    (address + length ≤ Vyper2.memorySize →
      ∀ (At : Vyper2.Simulator → Bytes → σ → Prop) (version : Bytes) (s : Session σ Vyper2),
        Vyper2.Serves At version memory s → ∃ t commands blocks,
          Device.read address length (.vyper2 s) =
            (.whole (memory.slice address length), .vyper2 t) ∧
          t.sent = s.sent ++ commands ∧ List.Forall₂ Vyper2.Asks commands blocks ∧
          Vyper2.Tiles blocks address length) ∧
    (Vyper2.memorySize < address + length → ∀ s : Session σ Vyper2,
      Device.read address length (.vyper2 s) =
        (.refused (.invalidArgument (.memoryRange address length)), .vyper2 s)) := by
  constructor
  · intro hrange At version s hs
    obtain ⟨t, hrun, htraced⟩ := Vyper2.run_read hs hm hrange
    refine ⟨t, _, Block.tile Vyper2.blockSize address length, ?_, htraced.sent, ?_,
      Vyper2.tiles_tile address length⟩
    · rw [Device.read, Device.fill, Device.run_vyper2, hrun]
    · rw [List.forall₂_map_left_iff, List.forall₂_same]
      exact fun b hb => Vyper2.asks_readCommand (Vyper2.addressable_of_mem_tile hrange hb)
  · intro hbeyond s
    have hrun : Session.run (Vyper2.read address length) s =
        (.error (.invalidArgument (.memoryRange address length)), s) := by
      unfold Vyper2.read
      rw [Vyper2.rangeFault_of_lt hbeyond]
      rfl
    rw [Device.read, Device.fill, Device.run_vyper2, hrun]

/-- The last bytes of a memory, in one full block and a short one, and one byte too many. -/
theorem Device.read_complete_to_end :
    let memory : Bytes := List.replicate 0x7FFF 0x5A ++ [0xA5]
    let s : Session Bench.LinkBench Vyper2 :=
      .start (Bench.simulating [0x13, 1, 2, 3] memory) ⟨none⟩ ⟨0⟩
    memory.length = Vyper2.memorySize ∧ 0x7F7E + 130 ≤ Vyper2.memorySize ∧
      Vyper2.memorySize < 0x7F7E + 131 ∧
      Vyper2.Serves (Bench.Holds ⟨0⟩) [0x13, 1, 2, 3] memory s ∧
      (∃ t, Device.read 0x7F7E 130 (.vyper2 s) =
          (.whole (List.replicate 129 0x5A ++ [0xA5]), .vyper2 t) ∧ t.sent.length = 2) ∧
      Device.read 0x7F7E 131 (.vyper2 s) =
        (.refused (.invalidArgument (.memoryRange 0x7F7E 131)), .vyper2 s) := by
  intro memory s
  have hmemory : memory.length = Vyper2.memorySize := by
    rw [List.length_append, List.length_replicate]
    rfl
  have hserves : Vyper2.Serves (Bench.Holds ⟨0⟩) [0x13, 1, 2, 3] memory s :=
    Bench.serves_simulating ⟨0⟩ (⟨none⟩ : Vyper2) _ _
  have hslice : memory.slice 0x7F7E 130 = List.replicate 129 0x5A ++ [0xA5] := by
    simp only [memory, Bytes.slice, List.drop_append, List.drop_replicate, List.length_replicate]
    rfl
  obtain ⟨t, commands, blocks, hread, hsent, hasks, htiles⟩ :=
    (Device.read_complete hmemory 0x7F7E 130).1 (by decide) _ _ s hserves
  rw [hslice] at hread
  refine ⟨hmemory, by decide, by decide, hserves, ⟨t, hread, ?_⟩,
    (Device.read_complete hmemory 0x7F7E 131).2 (by decide) s⟩
  rw [hsent, show s.sent = [] from rfl, List.nil_append, hasks.length_eq, htiles.count]
  rfl

end DiveLink
