import DiveLink.Packet
import DiveLink.Ring

/-!
# Suunto Vyper2

A Vyper2 answers packets at 9600 baud on a half-duplex line; the interface takes its power from the
line that says a terminal is ready.  Memory is read and written in blocks, and dives lie in a ring.

## Main definitions

* `Vyper2` — what is remembered about a device.
* `Vyper2.readCommand`, … — the commands.
* `Vyper2.readBlocks`, `Fetched` — blocks read one after the other, up to the first failure.
* `Vyper2.openLine`, `version`, `read`, `write`, `dump`, `dumpInto`, `foreach`, `resetMaxDepth`,
  `setFingerprint` — the operations.
-/

namespace DiveLink

/-- What is remembered about a Vyper2: the fingerprint of the newest dive already known. -/
structure Vyper2 where
  fingerprint : Option Bytes
  deriving DecidableEq, Repr, Inhabited

/-- What was read of some blocks: the data of each up to the first failure, and how it ended. -/
structure Fetched where
  chunks : List Bytes
  outcome : Except DeviceError Unit

namespace Vyper2

/-! ### Constants -/

/-- The settings of the line. -/
def line : LineSettings := .n81 9600

/-- How long an answer may take, in milliseconds. -/
def timeout : Nat := 3000

/-- How long the interface takes to power up, in milliseconds. -/
def powerUp : Nat := 100

/-- How long the device rests before a command, in milliseconds. -/
def settle : Nat := 600

/-- The number of bytes of memory. -/
def memorySize : Nat := 0x8000

/-- The most bytes of data that one packet carries. -/
def blockSize : Nat := 120

/-- The length of the version block: model, and three bytes of firmware. -/
def versionSize : Nat := 4

/-- Where the serial number lies in memory. -/
def serialBlock : Block := ⟨0x0023, 4⟩

/-- Where the header of the ring lies in memory. -/
def headerBlock : Block := ⟨0x0190, RingHeader.length⟩

/-- Where the fingerprint stands in a dive; one model has six more bytes in front of it. -/
def fingerprintOffset (version : Bytes) : Nat := if version.headD 0 = 0x15 then 0x1B else 0x15

/-! ### Commands -/

/-- Asks for the version block. -/
def versionCommand : Bytes := Packet.frame [0x0F, 0x00, 0x00]

/-- Asks for a block of memory. -/
def readCommand (b : Block) : Bytes :=
  Packet.frame ([0x05, 0x00, 0x03] ++ Bytes.ofBE16 b.address ++ [UInt8.ofNat b.size])

/-- Stores bytes in memory. -/
def writeCommand (address : Nat) (data : Bytes) : Bytes :=
  Packet.frame ([0x06, 0x00, UInt8.ofNat (data.length + 3)] ++ Bytes.ofBE16 address ++
    [UInt8.ofNat data.length] ++ data)

/-- Forgets the greatest depth. -/
def resetCommand : Bytes := Packet.frame [0x20, 0x00, 0x00]

/-- How many parameters a command for a range has: two bytes of address, one of length. -/
def rangeParameters : Nat := 3

variable {σ δ : Type} [Link σ]

open Session

/-! ### Opening -/

/-- Sets up the line and powers the interface. -/
def openLine : Op σ δ Unit := do
  warning .terminalAttributes (attempt (.configure line))
  warning .timeout (attempt (.timeout timeout))
  warning .dtr (attempt (.dtr true))
  pause powerUp
  attempt (.flush .both)
  attempt (.halfDuplex true)

/-! ### Reading -/

/-- Reads the version block. -/
def readVersion : Op σ δ Bytes := do
  let answer ← Packet.ask settle versionCommand 0 versionSize
  return Packet.data answer 0 versionSize

/-- Reads one block. -/
def readBlock (b : Block) : Op σ δ Bytes := do
  let answer ← Packet.ask settle (readCommand b) rangeParameters b.size
  return Packet.data answer rangeParameters b.size

/-- Reads blocks one after the other, up to the first failure; with a progress to report, each
block is counted as it arrives. -/
def readBlocks : Option Progress → List Block → Op σ δ Fetched
  | _, [] => return ⟨[], .ok ()⟩
  | progress, b :: bs => do
    match ← outcome (readBlock b) with
    | .error e => return ⟨[], .error e⟩
    | .ok data =>
      let progress := progress.map (·.advance b.size)
      if let some p := progress then emit (.progress p)
      let rest ← readBlocks progress bs
      return ⟨data :: rest.chunks, rest.outcome⟩

/-- Reads all of some blocks. -/
def readAll (progress : Option Progress) (blocks : List Block) : Op σ δ (List Bytes) := do
  let fetched ← readBlocks progress blocks
  lift fetched.outcome
  return fetched.chunks

/-- The identity in a version block and the bytes of the serial number. -/
def identity (version serial : Bytes) : DevInfo :=
  { model := version.byteAt 0
    firmware := Bytes.be24 (version.drop 1)
    serial := (Bytes.decimalPairs serial).toNat }

/-! ### Operations -/

/-- Sets the fingerprint of the newest dive already known; an empty one forgets it. -/
def setFingerprint (data : Bytes) : Op σ Vyper2 Unit :=
  if data.length = 0 then modify fun s => { s with device.fingerprint := none }
  else if data.length = ringFingerprintSize then
    modify fun s => { s with device.fingerprint := some data }
  else throw (.invalidArgument (.fingerprintSize ringFingerprintSize data.length))

/-- Reads the version block into a buffer of `room` bytes. -/
def version (room : Nat) : Op σ δ Receipt := do
  if room < versionSize then
    warn .insufficientBuffer
    throw (.invalidArgument .versionBuffer)
  return .whole (← readVersion)

/-- What is wrong with a range that reaches beyond the memory. -/
def rangeFault (address length : Nat) : Option DeviceError :=
  if address + length ≤ memorySize then none
  else some (.invalidArgument (.memoryRange address length))

/-- Reads a range of memory. -/
def read (address length : Nat) : Op σ δ Receipt := do
  match rangeFault address length with
  | some e => throw e
  | none =>
    let fetched ← readBlocks none (Block.tile blockSize address length)
    return ⟨fetched.chunks.flatten, fetched.outcome⟩

/-- Writes pieces of memory one after the other, up to the first failure. -/
def writePieces : List (Nat × Bytes) → Op σ δ Unit
  | [] => pure ()
  | (address, data) :: rest => do
    let _ ← Packet.ask settle (writeCommand address data) rangeParameters 0
    writePieces rest

/-- Writes a range of memory. -/
def write (address : Nat) (data : Bytes) : Op σ δ Unit :=
  match rangeFault address data.length with
  | some e => throw e
  | none => writePieces (Block.split blockSize address data)

/-- Reads all of memory. -/
def dump : Op σ δ Bytes := do
  let version ← readVersion
  let progress := Progress.start (UInt32.ofNat memorySize)
  emit (.progress progress)
  let chunks ← readAll (some progress) (Block.tile blockSize 0 memorySize)
  let image := chunks.flatten
  emit (.devInfo (identity version (Bytes.slice image serialBlock.address serialBlock.size)))
  return image

/-- Reads all of memory into a vector of the caller.  The vector is emptied, made as long as the
memory, and filled as the blocks arrive; a failure leaves it as it is at that moment. -/
def dumpInto (vector : Bytes) : Op σ δ Receipt := do
  let room := Bytes.resize memorySize (vector.take 0)
  match ← outcome readVersion with
  | .error e => return ⟨room, .error e⟩
  | .ok version =>
    let progress := Progress.start (UInt32.ofNat memorySize)
    emit (.progress progress)
    let fetched ← readBlocks (some progress) (Block.tile blockSize 0 room.length)
    let image := Receipt.fill ⟨fetched.chunks.flatten, fetched.outcome⟩ room
    match fetched.outcome with
    | .error e => return ⟨image, .error e⟩
    | .ok () =>
      emit (.devInfo (identity version (Bytes.slice image serialBlock.address serialBlock.size)))
      return .whole image

/-- Reads the bytes of a ring that are in use, oldest first.  They are read from the newest byte
backwards. -/
def readRing (h : RingHeader) : Op σ δ Bytes := do
  let total := RingHeader.length + h.used
  let progress := (Progress.start (UInt32.ofNat total)).advance RingHeader.length
  emit (.progress progress)
  let chunks ← readAll (some progress) (h.stop.blocksBefore blockSize h.used)
  return chunks.reverse.flatten

/-- Whether a dive has the fingerprint of the newest dive already known. -/
def isKnown (fingerprint : Option Bytes) (d : Dive) : Bool := fingerprint == some d.fingerprint

/-- Hands out the dives that are newer than the fingerprint, newest first, for as long as `keep`
says so. -/
def foreach (keep : List Dive → Bool) : Op σ Vyper2 (List Dive) := do
  let version ← readVersion
  let serial ← readBlock serialBlock
  emit (.devInfo (identity version serial))
  match RingHeader.parse (← readBlock headerBlock) with
  | .error f => reject f
  | .ok header =>
    let data ← readRing header
    let walk := header.walk (fingerprintOffset version) data
    report (walk.cut (isKnown (← get).device.fingerprint) keep)

/-- Makes the device forget the greatest depth. -/
def resetMaxDepth : Op σ δ Unit := do
  let _ ← Packet.ask settle resetCommand 0 0

/-- Gives up the link. -/
def close : Op σ δ Unit := attempt .close

end Vyper2

end DiveLink
