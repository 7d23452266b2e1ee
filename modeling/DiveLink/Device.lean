import DiveLink.SensusPro
import DiveLink.Vyper2

/-!
# Devices

An open connection to a dive computer of either family.  What a family does not offer fails as
unsupported, and what belongs to the other family fails as an invalid argument; neither touches the
link.

## Main definitions

* `Device` — a session with a device of some family.
* `Device.openLink` — sets up a device on a link.
* `Device.version`, `read`, `write`, `dump`, `dumpInto`, `foreach`, `close`, … — the operations,
  each of which gives its result and the device behind it.
-/

namespace DiveLink

/-- An open connection to a dive computer. -/
inductive Device (σ : Type)
  | sensusPro (session : Session σ SensusPro)
  | vyper2 (session : Session σ Vyper2)

/-- What comes of an attempt to open a device on a link. -/
inductive Opening (σ ρ : Type)
  | opened (device : Device σ)
  /-- The device could not be set up; what remains is `rest`, and what happened until then, latest
  first. -/
  | refused (error : DeviceError) (rest : ρ) (past : List Entry)

namespace Device

variable {σ α : Type}

/-! ### The session of a device -/

/-- The family of a device. -/
def family : Device σ → Family
  | sensusPro _ => .sensusPro
  | vyper2 _ => .vyper2

/-- The link of a device. -/
def link : Device σ → σ
  | sensusPro s => s.link
  | vyper2 s => s.link

/-- What happened on a device, latest first. -/
def past : Device σ → List Entry
  | sensusPro s => s.past
  | vyper2 s => s.past

/-- The token that can stop an operation on a device. -/
def token : Device σ → CancelToken
  | sensusPro s => s.token
  | vyper2 s => s.token

/-- The device on another state of its link. -/
def setLink (link : σ) : Device σ → Device σ
  | sensusPro s => sensusPro { s with link }
  | vyper2 s => vyper2 { s with link }

/-- The device with another history. -/
def setPast (past : List Entry) : Device σ → Device σ
  | sensusPro s => sensusPro { s with past }
  | vyper2 s => vyper2 { s with past }

/-- The device under another token. -/
def setToken (token : CancelToken) : Device σ → Device σ
  | sensusPro s => sensusPro { s with token }
  | vyper2 s => vyper2 { s with token }

/-- The device whose caller wants events, or no longer wants them. -/
def listen (listening : Bool) : Device σ → Device σ
  | sensusPro s => sensusPro { s with listening }
  | vyper2 s => vyper2 { s with listening }

/-- Runs the operation of the device's family. -/
def run (onSensusPro : Op σ SensusPro α) (onVyper2 : Op σ Vyper2 α) :
    Device σ → Except DeviceError α × Device σ
  | sensusPro s =>
    let (result, s) := Session.run onSensusPro s
    (result, sensusPro s)
  | vyper2 s =>
    let (result, s) := Session.run onVyper2 s
    (result, vyper2 s)

/-- Runs the operation of the device's family that fills a buffer of the caller. -/
def fill (onSensusPro : Op σ SensusPro Receipt) (onVyper2 : Op σ Vyper2 Receipt) (d : Device σ) :
    Receipt × Device σ :=
  match run onSensusPro onVyper2 d with
  | (.ok receipt, d) => (receipt, d)
  | (.error e, d) => (.refused e, d)

/-- Adds something told to the user to the history. -/
def note (text : String) (d : Device σ) : Device σ := d.setPast (.note text :: d.past)

/-- The failure of an operation that a family does not offer. -/
def unsupported {δ : Type} : Op σ δ α := throw .unsupported

/-- The failure of an operation that belongs to another family than `f`. -/
def wrongFamily {δ : Type} (f : Family) : Op σ δ α := throw (.invalidArgument (.wrongFamily f))

/-! ### Operations without the link -/

/-- Sets the fingerprint of the newest dive already known; an empty one forgets it. -/
def setFingerprint (data : Bytes) : Device σ → Except DeviceError Unit × Device σ :=
  run (SensusPro.setFingerprint data) (Vyper2.setFingerprint data)

/-- The payload of the last handshake, into a buffer of `room` bytes. -/
def handshake (room : Nat) : Device σ → Receipt × Device σ :=
  fill (SensusPro.lastHandshake room) (wrongFamily .vyper2)

/-- The clocks at the last handshake, if there was one. -/
def clock : Device σ → Except DeviceError (Option Clock) × Device σ :=
  run SensusPro.lastClock (wrongFamily .vyper2)

/-- Sets the timestamp of the newest dive already known. -/
def setTimestamp (t : Nat) : Device σ → Except DeviceError Unit × Device σ :=
  run (SensusPro.setTimestamp t) (wrongFamily .vyper2)

/-- Hands out the dives of a memory image that are newer than the known ones. -/
def extract (image : Bytes) (keep : List Dive → Bool) :
    Device σ → Except DeviceError (List Dive) × Device σ :=
  run (SensusPro.extract image keep) (wrongFamily .vyper2)

/-! ### Operations on the link -/

variable [Link σ]

/-- What comes of setting up a session on a link. -/
def openSession {δ : Type} (wrap : Session σ δ → Device σ) (setUp : Op σ δ Unit)
    (s : Session σ δ) : Opening σ σ :=
  match Session.run setUp s with
  | (.ok (), s) => .opened (wrap s)
  | (.error e, s) => .refused e s.link s.past

/-- Sets up a device of a family on a link. -/
def openLink (family : Family) (link : σ) (token : CancelToken) : Opening σ σ :=
  match family with
  | .sensusPro =>
    openSession .sensusPro SensusPro.openLine (.start link SensusPro.fresh token)
  | .vyper2 => openSession .vyper2 Vyper2.openLine (.start link ⟨none⟩ token)

/-- Reads the version block into a buffer of `room` bytes. -/
def version (room : Nat) : Device σ → Receipt × Device σ :=
  fill unsupported (Vyper2.version room)

/-- Reads a range of memory. -/
def read (address length : Nat) : Device σ → Receipt × Device σ :=
  fill unsupported (Vyper2.read address length)

/-- Writes a range of memory. -/
def write (address : Nat) (data : Bytes) : Device σ → Except DeviceError Unit × Device σ :=
  run unsupported (Vyper2.write address data)

/-- Reads all of memory.  The caller has the whole image afterwards, or no byte at all. -/
def dump : Device σ → Receipt × Device σ :=
  fill (.whole <$> SensusPro.dump) (.whole <$> Vyper2.dump)

/-- Reads all of memory into a vector of the caller, and empties the vector if that fails. -/
def dumpInto (vector : Bytes) (d : Device σ) : Receipt × Device σ :=
  let (receipt, d) := fill (SensusPro.dumpInto vector) (Vyper2.dumpInto vector) d
  (receipt.clearOnError, d)

/-- Hands out the dives that are newer than the known ones, newest first, for as long as `keep` says
so.  It is given the dives handed out so far, latest first. -/
def foreach (keep : List Dive → Bool) : Device σ → Except DeviceError (List Dive) × Device σ :=
  run (SensusPro.foreach keep) (Vyper2.foreach keep)

/-- Changes the sample interval, in seconds. -/
def writeInterval (seconds : Nat) : Device σ → Except DeviceError Unit × Device σ :=
  run (SensusPro.writeInterval seconds) (wrongFamily .vyper2)

/-- Makes the device forget the greatest depth. -/
def resetMaxDepth : Device σ → Except DeviceError Unit × Device σ :=
  run (wrongFamily .sensusPro) Vyper2.resetMaxDepth

/-- Gives up the link. -/
def close : Device σ → Except DeviceError Unit × Device σ :=
  run SensusPro.close Vyper2.close

end Device

end DiveLink
