import DiveLink.Block
import DiveLink.Handshake
import DiveLink.Marker

/-!
# Reefnet Sensus Pro

A Sensus Pro is woken by a break condition, tells who it is and what its clock says, and then takes
one command.  Its memory comes as one stream that ends in a check; dives lie in it between markers.

## Main definitions

* `SensusPro` — what is remembered about a device.
* `SensusPro.layout` — how dives are marked in its memory.
* `SensusPro.wake`, `SensusPro.command` — the handshake, and a command behind it.
* `SensusPro.openLine`, `dump`, `dumpInto`, `foreach`, `extract`, `writeInterval`,
  `setFingerprint`, `setTimestamp` — the operations.
-/

namespace DiveLink

/-- What is remembered about a Sensus Pro. -/
structure SensusPro where
  /-- The payload of the last handshake, zero before the first. -/
  frame : Bytes
  /-- The timestamp of the newest dive already known. -/
  timestamp : Option Nat
  /-- The clocks at the last handshake. -/
  clock : Option Clock
  deriving DecidableEq, Repr, Inhabited

namespace SensusPro

/-! ### Constants -/

/-- The settings of the line. -/
def line : LineSettings := .n81 19200

/-- How long an answer may take, in milliseconds. -/
def timeout : Nat := 3000

/-- How long the device rests between transfers, in milliseconds. -/
def settle : Nat := 10

/-- The length of the handshake. -/
def handshakeSize : Nat := 10

/-- The number of bytes of memory. -/
def memorySize : Nat := 56320

/-- The length of the stream that holds the memory and its check. -/
def streamSize : Nat := memorySize + 2

/-- How many bytes of the stream are read at a time. -/
def chunkSize : Nat := 256

/-- The length of a fingerprint, which is a timestamp. -/
def fingerprintSize : Nat := 4

/-- Asks for the memory. -/
def dumpCommand : UInt8 := 0xB4

/-- Announces a sample interval. -/
def intervalCommand : UInt8 := 0xB5

/-- How dives are marked in memory. -/
def layout : MarkerLayout :=
  { header := [0x00, 0x00, 0x00, 0x00]
    footer := [0xFF, 0xFF]
    timestampOffset := 6
    skip := 10 }

/-- What is remembered about a device never talked to. -/
def fresh : SensusPro := ⟨List.replicate handshakeSize 0, none, none⟩

/-- The identity in the payload of a handshake. -/
def identity (frame : Bytes) : DevInfo :=
  { model := frame.byteAt 0
    firmware := frame.byteAt 1
    serial := Bytes.le16 (frame.drop 4) }

open Session

variable {σ : Type}

/-! ### Operations without the link -/

/-- Sets the fingerprint of the newest dive already known; an empty one forgets it. -/
def setFingerprint (data : Bytes) : Op σ SensusPro Unit :=
  if data.length = 0 then modify fun s => { s with device.timestamp := none }
  else if data.length = fingerprintSize then
    modify fun s => { s with device.timestamp := some data.le32 }
  else throw (.invalidArgument (.fingerprintSize fingerprintSize data.length))

/-- Sets the timestamp of the newest dive already known. -/
def setTimestamp (t : Nat) : Op σ SensusPro Unit :=
  modify fun s => { s with device.timestamp := some t }

/-- The clocks at the last handshake, if there was one. -/
def lastClock : Op σ SensusPro (Option Clock) := return (← get).device.clock

/-- The payload of the last handshake, into a buffer of `room` bytes. -/
def lastHandshake (room : Nat) : Op σ SensusPro Receipt := do
  if room < handshakeSize then
    warn .insufficientBuffer
    throw (.invalidArgument .handshakeBuffer)
  return .whole (← get).device.frame

/-- The dives of a memory image that are newer than a timestamp, newest first, for as long as `keep`
says so. -/
def divesIn (timestamp : Option Nat) (keep : List Dive → Bool) (image : Bytes) : Walk :=
  (layout.walk image).cut (MarkerLayout.isOld timestamp) keep

/-- Hands out the dives of a memory image that are newer than the known ones. -/
def extract (image : Bytes) (keep : List Dive → Bool) : Op σ SensusPro (List Dive) := do
  report (divesIn (← get).device.timestamp keep image)

/-! ### Operations on the link -/

variable [Link σ]

/-- Sets up the line. -/
def openLine : Op σ SensusPro Unit := do
  warning .terminalAttributes (attempt (.configure line))
  warning .timeout (attempt (.timeout timeout))
  attempt (.flush .both)

/-- Wakes the device and remembers what it tells.  A host whose clock stands before the Unix era
counts as standing at its start. -/
def wake : Op σ SensusPro Unit := do
  let frame ← handshake handshakeSize
  let clock : Clock := ⟨(← now).toNat, Bytes.le32 (frame.drop 6)⟩
  modify fun s => { s with device.frame := frame, device.clock := some clock }
  emit (.clock clock)
  emit (.devInfo (identity frame))
  pause settle

/-- Wakes the device and sends a command. -/
def command (c : UInt8) : Op σ SensusPro Unit := do
  wake
  warning .send (transmit [c])

/-- Receives a stream block by block and counts the bytes as they arrive. -/
def receiveStream : Progress → List Block → Op σ SensusPro Bytes
  | _, [] => return []
  | progress, b :: bs => do
    let chunk ← receive b.size
    match chunk.outcome with
    | .error e =>
      warn .receive
      throw e
    | .ok () =>
      let progress := progress.advance b.size
      emit (.progress progress)
      let rest ← receiveStream progress bs
      return chunk.bytes ++ rest

/-- Reads all of memory. -/
def dump : Op σ SensusPro Bytes := do
  let progress := Progress.start (UInt32.ofNat streamSize)
  emit (.progress progress)
  command dumpCommand
  let stream ← receiveStream progress (Block.tile chunkSize 0 streamSize)
  match Checksum.stripCrc16? stream with
  | some image => return image
  | none =>
    warn .answerChecksum
    throw (.protocol .badChecksum)

/-- Reads all of memory into a vector of the caller.  The vector is emptied at once, and the image
is put into it when all of it has arrived. -/
def dumpInto (vector : Bytes) : Op σ SensusPro Receipt := do
  let room := vector.take 0
  match ← outcome dump with
  | .error e => return ⟨room, .error e⟩
  | .ok image => return .whole (room ++ image)

/-- Hands out the dives that are newer than the known ones, newest first, for as long as `keep` says
so. -/
def foreach (keep : List Dive → Bool) : Op σ SensusPro (List Dive) := do
  let image ← dump
  extract image keep

/-- Changes the sample interval, in seconds. -/
def writeInterval (seconds : Nat) : Op σ SensusPro Unit := do
  if seconds < 1 ∨ 127 < seconds then
    throw (.invalidArgument (.sampleInterval seconds))
  command intervalCommand
  pause settle
  warning .sendValue (transmit [UInt8.ofNat seconds])

/-- Gives up the link. -/
def close : Op σ SensusPro Unit := attempt .close

end SensusPro

end DiveLink
