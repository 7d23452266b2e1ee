import DiveLink.Proofs.Memory
import DiveLink.Proofs.Packet

/-!
# What a simulated Vyper2 answers

A device that is fed a whole frame at a time, and whose answers are not damaged, answers each frame
at once; to a command for a block it answers with the bytes of its memory.

## Main definitions

* `Vyper2.Addressable` — a block that one exchange can carry.
* `Vyper2.Simulator.Ready` — a device that waits for a command and whose answers arrive as they are.

## Main results

* `Vyper2.check_blockAnswer`, `Vyper2.check_versionAnswer` — the answers fit their commands.
* `Vyper2.Simulator.feed_frame` — a whole frame is answered at once.
* `Vyper2.Simulator.feed_versionCommand`, `Vyper2.Simulator.feed_readCommand` — **the answers carry
  the version block and the memory**, and leave the device as ready as it was.
-/

namespace DiveLink

namespace Vyper2

/-! ### Answers -/

/-- The parameters of a command for a block: its address and its size. -/
def blockParameters (b : Block) : Bytes := Bytes.ofBE16 b.address ++ [UInt8.ofNat b.size]

@[simp] theorem length_blockParameters (b : Block) :
    (blockParameters b).length = rangeParameters := rfl

/-- The answer to a command for a block that holds `data`. -/
def blockAnswer (b : Block) (data : Bytes) : Bytes := Packet.response 0x05 (blockParameters b) data

/-- The answer to a command for the version block. -/
def versionAnswer (version : Bytes) : Bytes := Packet.response 0x0F [] version

/-- A block that one exchange can carry. -/
structure Addressable (b : Block) : Prop where
  address : b.address < 65536
  size : b.size + rangeParameters < 256

/-- The answer to a command for a block fits it. -/
theorem check_blockAnswer {b : Block} {data : Bytes} (hb : Addressable b)
    (hdata : data.length = b.size) :
    Packet.check (readCommand b) (blockAnswer b data) b.size = .ok () := by
  have hsize := hb.size
  rw [← hdata] at hsize ⊢
  exact Packet.check_response rfl (Nat.le_of_ble_eq_true rfl) rfl
    (by rw [length_blockParameters]; omega)

/-- The address in a command for a block. -/
theorem be16_readCommand {b : Block} (hb : Addressable b) :
    Bytes.be16 ((readCommand b).drop 3) = b.address :=
  Bytes.be16_ofBE16 b.address hb.address _

/-- The size in a command for a block: no size that one exchange carries is cut short in a byte. -/
theorem byteAt_readCommand {b : Block} (hb : Addressable b) :
    Bytes.byteAt (readCommand b) 5 = b.size := by
  have hs := hb.size
  unfold rangeParameters at hs
  show (UInt8.ofNat b.size).toNat = b.size
  rw [UInt8.toNat_ofNat', Nat.mod_eq_of_lt (by omega)]

/-- The answer to a command for the version block fits it. -/
theorem check_versionAnswer {version : Bytes} (hv : version.length = versionSize) :
    Packet.check versionCommand (versionAnswer version) versionSize = .ok () := by
  rw [← hv]
  exact Packet.check_response rfl (by decide) rfl (by rw [hv]; decide)

/-! ### The device -/

namespace Simulator

variable {d : Simulator} {version memory : Bytes} {b : Block}

/-- A device with a version block and a memory that waits for a command, and whose answers arrive as
they are. -/
structure Ready (version memory : Bytes) (d : Simulator) : Prop where
  versionBlock : d.versionBlock = version
  memory : d.memory = memory
  pending : d.pending = []
  damages : d.damages = []

theorem Ready.next (h : Ready version memory d) :
    Ready version memory { d with answered := d.answered + 1 } :=
  ⟨h.versionBlock, h.memory, h.pending, h.damages⟩

/-- A device that has nothing to answer yet waits for more. -/
theorem drain_of_short (h : d.pending.length < 3 ∨ d.pending.length < frameLength d.pending) :
    d.drain = ([], d) := by
  rw [drain, dif_neg (by omega)]

theorem feed_nil (h : d.pending = []) : d.feed [] = ([], d) := by
  rw [feed, List.append_nil]
  exact drain_of_short (Or.inl (by simp [h]))

/-- A whole frame is answered at once. -/
theorem feed_frame (h : Ready version memory d) {frame body stored : Bytes}
    (hlong : 3 ≤ frame.length) (hwhole : frameLength frame = frame.length)
    (hanswer : d.answer frame = (some body, stored)) :
    d.feed frame =
      (Packet.frame body, { d with memory := stored, answered := d.answered + 1 }) := by
  have htake : ({ d with pending := frame } : Simulator).takeFrame frame = (Packet.frame body,
      { d with pending := frame, memory := stored, answered := d.answered + 1 }) := by
    have hsame : ({ d with pending := frame } : Simulator).answer frame = (some body, stored) :=
      hanswer
    unfold takeFrame
    rw [hsame]
    simp only [h.damages, List.filter_nil, List.foldl_nil]
  unfold feed
  rw [h.pending, List.nil_append, drain, dif_pos ⟨hlong, Nat.le_of_eq hwhole⟩]
  simp only [hwhole, List.take_length, List.drop_length, htake]
  -- nothing is left behind the frame
  rw [drain_of_short (Or.inl (by simp))]
  simp [← h.pending]

/-- The beginning of a frame is kept until the rest arrives. -/
theorem feed_part (h : Ready version memory d) {frame : Bytes}
    (hwhole : frameLength frame = frame.length) {n : Nat} (hn : n < frame.length) :
    d.feed (frame.take n) = ([], { d with pending := frame.take n }) := by
  unfold feed
  rw [h.pending, List.nil_append]
  refine drain_of_short ?_
  show (frame.take n).length < 3 ∨ (frame.take n).length < frameLength (frame.take n)
  rw [List.length_take, Nat.min_eq_left (Nat.le_of_lt hn)]
  rcases Nat.lt_or_ge n 3 with hshort | hlong
  · exact Or.inl hshort
  · -- its length has arrived already
    have hsame : frameLength (frame.take n) = frameLength frame := by
      match frame, n, hlong with
      | x :: hi :: lo :: rest, n + 3, _ => rfl
      | [], _, _ => rw [List.take_nil]
      | [_], n + 3, _ => rfl
      | [_, _], n + 3, _ => rfl
    rw [hsame, hwhole]
    exact Or.inr hn

/-- The command for the version block is answered by it. -/
theorem feed_versionCommand (h : Ready version memory d) (hv : version.length = versionSize) :
    d.feed versionCommand =
      (versionAnswer version, { d with answered := d.answered + 1 }) := by
  refine feed_frame h (by decide) (by decide) ?_
  show (some ([0x0F, 0x00, UInt8.ofNat d.versionBlock.length] ++ d.versionBlock), d.memory) = _
  rw [h.versionBlock, hv]
  rfl

/-- The command for a block is answered by the memory there. -/
theorem feed_readCommand (h : Ready version memory d) (hb : Addressable b) :
    d.feed (readCommand b) =
      (blockAnswer b (Memory.load memory b.address b.size),
        { d with answered := d.answered + 1 }) := by
  have hs := hb.size
  unfold rangeParameters at hs
  refine feed_frame h (Nat.le_of_ble_eq_true rfl) rfl ?_
  show (some ([0x05, 0x00, UInt8.ofNat (Bytes.byteAt (readCommand b) 5 + 3)] ++
    blockParameters b ++ Memory.load d.memory (Bytes.be16 ((readCommand b).drop 3))
      (Bytes.byteAt (readCommand b) 5)), d.memory) = _
  have hlength : Bytes.ofBE16 (rangeParameters + b.size) = [0x00, UInt8.ofNat (b.size + 3)] := by
    unfold Bytes.ofBE16
    rw [rangeParameters, Nat.div_eq_of_lt (by omega), Nat.add_comm]
    rfl
  rw [h.memory, be16_readCommand hb, byteAt_readCommand hb, length_blockParameters,
    Memory.length_load, hlength]
  simp

theorem length_writeCommand (address : Nat) (data : Bytes) :
    (writeCommand address data).length = data.length + 7 := by
  simp only [writeCommand, Packet.length_frame, List.length_append, List.length_cons,
    List.length_nil, Bytes.length_ofBE16]
  omega

/-- A command to write says how long it is. -/
theorem frameLength_writeCommand {address : Nat} {data : Bytes}
    (hdata : data.length + rangeParameters < 256) :
    frameLength (writeCommand address data) = (writeCommand address data).length := by
  have hlength : frameLength (writeCommand address data) =
      256 * 0 + (UInt8.ofNat (data.length + 3)).toNat + 4 := rfl
  unfold rangeParameters at hdata
  rw [hlength, UInt8.toNat_ofNat', Nat.mod_eq_of_lt (by omega), length_writeCommand]
  omega

/-- The command to write is answered by its parameters, and the data is stored. -/
theorem feed_writeCommand (h : Ready version memory d) {address : Nat} {data : Bytes}
    (haddress : address < 65536) (hdata : data.length + rangeParameters < 256) :
    d.feed (writeCommand address data) =
      (Packet.response 0x06 (blockParameters ⟨address, data.length⟩) [],
        { d with memory := Memory.store memory address data, answered := d.answered + 1 }) := by
  have hlength := length_writeCommand address data
  have hplace : Bytes.be16 ((writeCommand address data).drop 3) = address :=
    Bytes.be16_ofBE16 address haddress _
  have hecho : Bytes.slice (writeCommand address data) 3 3 =
      blockParameters ⟨address, data.length⟩ := rfl
  have hcarried : Bytes.slice (writeCommand address data) 6 data.length = data := by
    show (data ++ [_]).take data.length = data
    rw [List.take_left]
  have hwords : Bytes.ofBE16 (rangeParameters + ([] : Bytes).length) = [0x00, 0x03] := by decide
  refine feed_frame h (by omega) (frameLength_writeCommand hdata) ?_
  show (if 7 ≤ (writeCommand address data).length then _ else _) = _
  rw [if_pos (by omega), hlength, hplace, hecho, Nat.add_sub_cancel, hcarried, h.memory,
    length_blockParameters, hwords, List.append_nil]
  rfl

end Simulator

end Vyper2
end DiveLink
