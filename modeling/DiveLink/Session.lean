import DiveLink.Dive
import DiveLink.Event
import DiveLink.Link

/-!
# Sessions

A session is a link in use: the link, what is remembered about the device behind it, the token that
can stop it, and a history of all that happened.  Operations on devices are programs that run in a
session and that may fail; the session outlives their failure.

## Main definitions

* `Warning`, `Entry` — what is noted along the way.
* `Session`, `Session.history` — a link in use and what happened on it, first things first.
* `Op` — programs in a session, which may fail.
* `Session.perform`, `Session.attempt` — a call, and a call whose failure ends the operation.
* `Session.receive`, `Session.transmit` — transfers that count only as a whole.
* `Session.report` — hands dives to the caller.
* `Receipt` — the bytes that a transfer leaves in the caller's buffer, and how it ended.
-/

namespace DiveLink

/-! ### What is noted -/

/-- Something worth telling the user, beside the failure that follows it. -/
inductive Warning
  | terminalAttributes | timeout | dtr | handshake | send | sendValue | receive
  | answerHeader | answerSize | answerParameters | answerChecksum | insufficientBuffer
  | ringPointer | profileSize | notContinuous
  | noEndMarker (offset : Nat)
  deriving DecidableEq, Repr, Inhabited

/-- The text of a warning. -/
def Warning.message : Warning → String
  | terminalAttributes => "Failed to set the terminal attributes."
  | timeout => "Failed to set the timeout."
  | dtr => "Failed to set the DTR line."
  | handshake => "Failed to receive the handshake."
  | send => "Failed to send the command."
  | sendValue => "Failed to send the new value."
  | receive => "Failed to receive the answer."
  | answerHeader => "Unexpected answer header."
  | answerSize => "Unexpected answer size."
  | answerParameters => "Unexpected answer parameters."
  | answerChecksum => "Unexpected answer CRC."
  | insufficientBuffer => "Insufficient buffer space available."
  | ringPointer => "Invalid ringbuffer pointer detected."
  | profileSize => "Unexpected profile size."
  | notContinuous => "Profiles are not continuous."
  | noEndMarker offset => "No end marker for dive at offset " ++ Digits.decimal offset ++ "."

/-- The warning that goes with a fault of the memory. -/
def DataFault.warning : DataFault → Option Warning
  | ringPointers .. | linkOutside .. => some .ringPointer
  | diveSize .. | noFingerprint .. => some .profileSize
  | brokenChain .. => some .notContinuous
  | noEndMarker offset => some (.noEndMarker offset)
  | noTimestamp _ | other _ => none

/-- One thing that happened in a session. -/
inductive Entry
  /-- A call to the link and its reply. -/
  | call (call : Call) (reply : Reply)
  /-- An event that was delivered to the caller. -/
  | event (event : Event)
  | warning (warning : Warning)
  /-- A dive that was handed to the caller. -/
  | dive (dive : Dive)
  /-- Something that was told to the user. -/
  | note (text : String)
  deriving DecidableEq, Repr, Inhabited

/-! ### Sessions and programs -/

/-- A link in use.  `σ` is the state of the link, and `δ` what is remembered about the device. -/
structure Session (σ δ : Type) where
  link : σ
  device : δ
  /-- The token that can stop an operation. -/
  token : CancelToken
  /-- Whether the caller wants events. -/
  listening : Bool
  /-- What happened so far, latest first. -/
  past : List Entry
  deriving Inhabited

/-- Programs in a session.  They may fail, and the session is kept all the same. -/
abbrev Op (σ δ : Type) := EStateM DeviceError (Session σ δ)

/-- The bytes that a transfer leaves at the front of the caller's buffer, and how it ended. -/
structure Receipt where
  bytes : Bytes
  outcome : Except DeviceError Unit

namespace Receipt

/-- The caller's buffer afterwards; what the transfer did not reach is as before. -/
def fill (r : Receipt) (buffer : Bytes) : Bytes := r.bytes ++ buffer.drop r.bytes.length

/-- A transfer that failed before the first byte. -/
def refused (e : DeviceError) : Receipt := ⟨[], .error e⟩

/-- A transfer of which every byte has arrived. -/
def whole (b : Bytes) : Receipt := ⟨b, .ok ()⟩

/-- A transfer that leaves no byte with the caller if it failed. -/
def clearOnError (r : Receipt) : Receipt :=
  match r.outcome with
  | .ok () => r
  | .error _ => { r with bytes := r.bytes.take 0 }

/-- The bytes, provided the transfer succeeded. -/
def toExcept (r : Receipt) : Except DeviceError Bytes := r.outcome.map fun _ => r.bytes

end Receipt

namespace Session

variable {σ δ α : Type}

/-- What happened in a session, first things first. -/
def history (s : Session σ δ) : List Entry := s.past.reverse

/-- A session that begins. -/
def start (link : σ) (device : δ) (token : CancelToken) : Session σ δ :=
  { link, device, token, listening := false, past := [] }

/-- Adds entries to the history. -/
def record (es : List Entry) : Op σ δ Unit :=
  modify fun s => { s with past := es.reverse ++ s.past }

/-- Delivers an event, if the caller wants events. -/
def emit (e : Event) : Op σ δ Unit := do
  if (← get).listening then record [.event e]

/-- Tells the user something. -/
def warn (w : Warning) : Op σ δ Unit := record [.warning w]

/-- Runs `x`, and tells the user something if it fails. -/
def warning (w : Warning) (x : Op σ δ α) : Op σ δ α :=
  tryCatch x fun e => do
    warn w
    throw e

/-- Runs `x` and gives back how it ended. -/
def outcome (x : Op σ δ α) : Op σ δ (Except DeviceError α) :=
  tryCatch (.ok <$> x) fun e => pure (.error e)

/-- Continues with a value, or fails. -/
def lift : Except DeviceError α → Op σ δ α
  | .ok a => pure a
  | .error e => throw e

/-- Fails because the memory makes no sense. -/
def reject (f : DataFault) : Op σ δ α := do
  record (f.warning.toList.map .warning)
  throw (.dataFormat f)

/-- Hands the dives of a walk to the caller, newest first, and ends as the walk does. -/
def report (w : Walk) : Op σ δ (List Dive) := do
  record (w.dives.map .dive)
  match w.fault with
  | none => return w.dives
  | some f => reject f

/-- How a program ends, and the session behind it. -/
def run (x : Op σ δ α) (s : Session σ δ) : Except DeviceError α × Session σ δ :=
  match x s with
  | .ok a s => (.ok a, s)
  | .error e s => (.error e, s)

variable [Link σ]

/-- Makes a call. -/
def perform (c : Call) : Op σ δ Reply := do
  let s ← get
  let (reply, link) := Link.call c s.link
  set { s with link, past := .call c reply :: s.past }
  return reply

/-- Makes a call; its failure ends the operation. -/
def attempt (c : Call) : Op σ δ Unit := do
  match (← perform c).failure with
  | some e => throw (.io e)
  | none => pure ()

/-- Waits for some milliseconds. -/
def pause (ms : Nat) : Op σ δ Unit := do
  let _ ← perform (.sleep ms)

/-- Whether the session's token is cancelled. -/
def isCancelled : Op σ δ Bool := do
  let s ← get
  return Link.cancelled s.token s.link

/-- The time, in seconds of the Unix era. -/
def now : Op σ δ Int := do
  return Link.now (← get).link

/-- Reads `n` bytes.  Fewer are a timeout.  The bytes that arrived are kept in any case. -/
def receive (n : Nat) : Op σ δ Receipt := do
  let reply ← perform (.read n)
  let outcome :=
    match reply.failure with
    | some e => .error (.io e)
    | none => if reply.received.length = n then .ok () else .error .timeout
  return ⟨reply.received.take n, outcome⟩

/-- Sends all of `data`.  Less is a timeout. -/
def transmit (data : Bytes) : Op σ δ Unit := do
  let reply ← perform (.write data)
  match reply.failure with
  | some e => throw (.io e)
  | none => if reply.accepted = data.length then pure () else throw .timeout

end Session

end DiveLink
