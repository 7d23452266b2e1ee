import DiveLink.Vyper2

/-!
# A simulated Vyper2

The other end of the link: a device with a version block and a memory that answers command frames.
Its answers can be damaged on the way.

## Main definitions

* `Vyper2.Simulator`, `Simulator.feed` — the device, and what it answers to some bytes.
* `Vyper2.Simulator.answer` — the answer to one frame.
* `Vyper2.Damage` — what happens to an answer on the way.
* `Memory.load`, `Memory.store` — a range of memory.
-/

namespace DiveLink

namespace Memory

/-- The `n` bytes from `address` on; bytes behind the memory are zero. -/
def load (memory : Bytes) (address n : Nat) : Bytes :=
  let found := memory.slice address n
  found ++ List.replicate (n - found.length) 0

/-- The memory with `data` stored from `address` on; what would lie behind the memory is lost. -/
def store (memory : Bytes) (address : Nat) (data : Bytes) : Bytes :=
  memory.take address ++ data.take (memory.length - address) ++
    memory.drop (address + data.length)

theorem length_load (memory : Bytes) (address n : Nat) : (load memory address n).length = n := by
  simp only [load, Bytes.slice, List.length_append, List.length_replicate, List.length_take,
    List.length_drop]
  omega

theorem length_store (memory : Bytes) (address : Nat) (data : Bytes) :
    (store memory address data).length = memory.length := by
  simp only [store, List.length_append, List.length_take, List.length_drop]
  omega

end Memory

namespace Vyper2

/-- What happens to one answer on the way, in the order of the fields. -/
structure Damage where
  /-- The answer that is damaged, counted from one. -/
  answer : Nat
  /-- Other bytes in its place. -/
  replace : Option Bytes := none
  /-- Positions, and the bits that are turned over there. -/
  flips : List (Nat × UInt8) := []
  /-- Whether the checksum is made right again. -/
  repair : Bool := false
  /-- How many bytes arrive. -/
  keep : Option Nat := none
  /-- Bytes that arrive behind it. -/
  extra : Bytes := []
  deriving DecidableEq, Repr, Inhabited

/-- An answer as it arrives. -/
def Damage.apply (d : Damage) (answer : Bytes) : Bytes :=
  let a := d.replace.getD answer
  let a := d.flips.foldl (fun a f => a.modify f.1 (· ^^^ f.2)) a
  let a := if d.repair ∧ a ≠ [] then Packet.frame a.dropLast else a
  let a := match d.keep with
    | some n => a.take n
    | none => a
  a ++ d.extra

/-- A device that answers commands. -/
structure Simulator where
  versionBlock : Bytes
  memory : Bytes
  /-- The start of a command that is not complete yet. -/
  pending : Bytes := []
  /-- How many answers were given. -/
  answered : Nat := 0
  damages : List Damage := []
  deriving DecidableEq, Repr, Inhabited

namespace Simulator

/-- The answer to a frame, without its checksum, and the memory behind it.  The frame's own checksum
is not looked at. -/
def answer (s : Simulator) (frame : Bytes) : Option Bytes × Bytes :=
  let address := Bytes.be16 (frame.drop 3)
  let echo := Bytes.slice frame 3 3
  match frame.head? with
  | some 0x0F =>
    if frame.length = 4 then
      (some ([0x0F, 0x00, UInt8.ofNat s.versionBlock.length] ++ s.versionBlock), s.memory)
    else (none, s.memory)
  | some 0x05 =>
    if frame.length = 7 then
      let n := Bytes.byteAt frame 5
      (some ([0x05, 0x00, UInt8.ofNat (n + 3)] ++ echo ++ Memory.load s.memory address n),
        s.memory)
    else (none, s.memory)
  | some 0x06 =>
    if 7 ≤ frame.length then
      (some ([0x06, 0x00, 0x03] ++ echo),
        Memory.store s.memory address (Bytes.slice frame 6 (frame.length - 7)))
    else (none, s.memory)
  | some 0x20 =>
    if frame.length = 4 then (some [0x20, 0x00, 0x00], s.memory) else (none, s.memory)
  | _ => (none, s.memory)

/-- The bytes that arrive after a frame, and the device behind it. -/
def takeFrame (s : Simulator) (frame : Bytes) : Bytes × Simulator :=
  match s.answer frame with
  | (none, memory) => ([], { s with memory })
  | (some body, memory) =>
    let number := s.answered + 1
    let damages := s.damages.filter (·.answer == number)
    (damages.foldl (fun a d => d.apply a) (Packet.frame body),
      { s with memory, answered := number })

/-- The length of the frame at the front of some bytes, once its own length has arrived. -/
def frameLength (b : Bytes) : Nat := Bytes.be16 (b.drop 1) + Packet.overhead

/-- Answers all complete frames that wait, one after the other. -/
def drain (s : Simulator) : Bytes × Simulator :=
  if _h : 3 ≤ s.pending.length ∧ frameLength s.pending ≤ s.pending.length then
    let rest := s.pending.drop (frameLength s.pending)
    let (answer, next) := s.takeFrame (s.pending.take (frameLength s.pending))
    let (more, last) := drain { next with pending := rest }
    (answer ++ more, last)
  else ([], s)
termination_by s.pending.length
decreasing_by
  simp [frameLength, Packet.overhead] at *
  omega

/-- The bytes that arrive after some bytes were sent, and the device behind them. -/
def feed (s : Simulator) (data : Bytes) : Bytes × Simulator :=
  drain { s with pending := s.pending ++ data }

end Simulator

end Vyper2

end DiveLink
