import DiveLink.Link

/-!
# Serial ports of a host

A host has serial ports that are known by name.  What they do is left open: a host is a state that
answers calls to its ports, keeps time, and shows which files its processes have open.  A port is in
use if one of these is the port.

## Main definitions

* `PortError`, `PortError.toIoError` — a failed call to a port.
* `PortInfo` — a port as the host lists it.
* `PortCall`, `PortReply` — what is asked of a port, and what comes back.
* `PortCall.moved`, `PortCall.behind` — the bytes that a transfer has moved, and what is left of it.
* `SerialHost` — a state that answers calls to ports.
* `SerialHost.held` — whether some process has a port open.
* `Ports` — a host with a journal of all that was asked of it.
* `Ports.insist` — makes a transfer again for as long as it is interrupted.
-/

namespace DiveLink

/-! ### Failures -/

/-- The kind of a failed call to a port. -/
inductive PortErrorKind
  | io (kind : IoErrorKind)
  /-- There is no such device, or no longer. -/
  | noDevice
  /-- The port does not take such a value. -/
  | badInput
  | unknown
  deriving DecidableEq, Repr, Inhabited

/-- A failed call to a port. -/
structure PortError where
  kind : PortErrorKind
  message : String
  deriving DecidableEq, Repr, Inhabited

/-- The name of a kind. -/
def PortErrorKind.name : PortErrorKind → String
  | io kind => kind.name
  | noDevice => "NoDevice"
  | badInput => "BadInput"
  | unknown => "Unknown"

/-- The kind with a name. -/
def PortErrorKind.ofName? (s : String) : Option PortErrorKind :=
  match IoErrorKind.ofName? s with
  | some kind => some (.io kind)
  | none => [noDevice, badInput, unknown].find? (·.name == s)

/-- The kind of input or output failure that a failed call amounts to. -/
def PortErrorKind.toIo : PortErrorKind → IoErrorKind
  | io kind => kind
  | noDevice => .notFound
  | badInput => .invalidInput
  | unknown => .other

/-- A failed call to a port as a failed input or output operation. -/
def PortError.toIoError (e : PortError) : IoError := ⟨e.kind.toIo, e.message⟩

/-! ### Ports -/

/-- How a port is attached. -/
inductive PortKind
  | usb (vendor product : Nat)
  | pci | bluetooth | unknown
  deriving DecidableEq, Repr, Inhabited

/-- A port as the host lists it. -/
structure PortInfo where
  name : String
  kind : PortKind
  deriving DecidableEq, Repr, Inhabited

/-- What is asked of a port. -/
inductive PortCall
  | openAt (baud : Nat)
  | getBaud
  | baud (rate : Nat)
  | dataBits (bits : DataBits)
  | parity (parity : Parity)
  | stopBits (bits : StopBits)
  | flow (control : FlowControl)
  | timeout (ms : Nat)
  | breakLine (level : Bool)
  | dtr (level : Bool)
  | rts (level : Bool)
  /-- Forgets waiting bytes. -/
  | clear (queue : Queue)
  /-- Waits until all bytes are sent. -/
  | flush
  | read (size : Nat)
  | write (data : Bytes)
  deriving DecidableEq, Repr, Inhabited

/-- The name of a call to a port. -/
def PortCall.name : PortCall → String
  | openAt _ => "open"
  | getBaud => "get_baud"
  | baud _ => "baud"
  | dataBits _ => "data"
  | parity _ => "parity"
  | stopBits _ => "stop"
  | flow _ => "flow"
  | timeout _ => "timeout"
  | breakLine _ => "break"
  | dtr _ => "dtr"
  | rts _ => "rts"
  | clear _ => "clear"
  | flush => "flush"
  | read _ => "read"
  | write _ => "write"

/-- What comes back from a port. -/
structure PortReply where
  /-- The bytes that a read delivers. -/
  received : Bytes := []
  /-- How many bytes a write has taken. -/
  accepted : Nat := 0
  /-- The rate that was asked for. -/
  baud : Nat := 0
  failure : Option PortError := none
  deriving DecidableEq, Repr, Inhabited

/-- Whether the call was interrupted, and can be made again. -/
def PortReply.interrupted (r : PortReply) : Bool :=
  r.failure.any fun e => e.toIoError.kind == .interrupted

/-- How many bytes a call asks to move. -/
def PortCall.size : PortCall → Nat
  | read n => n
  | write data => data.length
  | _ => 0

/-- The bytes that a call has moved, if it did not fail. -/
def PortCall.moved (r : PortReply) : PortCall → Bytes
  | read n => r.received.take n
  | write data => data.take r.accepted
  | _ => []

/-- The call for what is left when `k` bytes have moved. -/
def PortCall.behind (k : Nat) : PortCall → PortCall
  | read n => read (n - k)
  | write data => write (data.drop k)
  | c => c

@[simp] theorem PortCall.size_behind (k : Nat) (c : PortCall) :
    (c.behind k).size = c.size - k := by
  cases c <;> simp [behind, size]

theorem PortCall.length_moved_le (r : PortReply) (c : PortCall) :
    (c.moved r).length ≤ c.size := by
  cases c with
  | read n => exact List.length_take_le n r.received
  | write data => exact List.length_take_le' r.accepted data
  | _ => exact Nat.zero_le _

/-- States of hosts. -/
class SerialHost (η : Type) where
  /-- The ports of the host. -/
  available : η → Except PortError (List PortInfo)
  /-- The paths that match a pattern, if it is one; a gap stands for one that cannot be reached. -/
  glob : String → η → Option (List (Option String))
  /-- The target of a link, if there is a link with the path; a target that is no text is a gap. -/
  readLink : String → η → Option (Option String)
  /-- The reply to a call to a port, and the state behind it. -/
  call : String → PortCall → η → PortReply × η
  /-- The state after so many microseconds of sleep. -/
  sleep : Nat → η → η
  /-- Microseconds since some moment. -/
  clock : η → Nat
  /-- Whether a token is cancelled. -/
  cancelled : CancelToken → η → Bool
  /-- The time, in seconds of the Unix era. -/
  now : η → Int
  /-- How many interruptions of a transfer are still to come if it is made again after each. -/
  restless : String → PortCall → η → Nat
  /-- No transfer is interrupted for ever. -/
  restless_call : ∀ {port c h}, 0 < c.size → (call port c h).1.interrupted = true →
    restless port c (call port c h).2 < restless port c h

/-- The files that the processes of a host have open: each is a link to what is open. -/
def openFiles : String := "/proc/[0-9]*/fd/*"

/-- Whether some process holds a port: a file that it has open is a link to just that name. -/
def SerialHost.held {η : Type} [SerialHost η] (name : String) (h : η) : Bool :=
  match glob openFiles h with
  | none => false
  | some paths => ((paths.filterMap id).filterMap fun path => readLink path h).any (· == some name)

/-! ### The journal -/

/-- One thing that was asked of a host. -/
inductive PortEntry
  | listed (failure : Option PortError)
  | call (port : String) (call : PortCall) (reply : PortReply)
  /-- A sleep, in microseconds. -/
  | slept (us : Nat)
  deriving DecidableEq, Repr, Inhabited

/-- A host with a journal of all that was asked of it, latest first. -/
structure Ports (η : Type) where
  host : η
  journal : List PortEntry
  deriving Inhabited

namespace Ports

variable {η : Type} [SerialHost η]

/-- Makes a call to a port. -/
def call (port : String) (c : PortCall) (p : Ports η) : PortReply × Ports η :=
  let (reply, host) := SerialHost.call port c p.host
  (reply, ⟨host, .call port c reply :: p.journal⟩)

/-- Lists the ports. -/
def list (p : Ports η) : Except PortError (List PortInfo) × Ports η :=
  match SerialHost.available p.host with
  | .ok infos => (.ok infos, { p with journal := .listed none :: p.journal })
  | .error e => (.error e, { p with journal := .listed (some e) :: p.journal })

/-- Makes a transfer, and makes it again for as long as it is interrupted. -/
def insist (port : String) (c : PortCall) (p : Ports η) : PortReply × Ports η :=
  if 0 < c.size ∧ (p.call port c).1.interrupted = true then insist port c (p.call port c).2
  else p.call port c
termination_by SerialHost.restless port c p.host
decreasing_by
  rename_i h
  exact SerialHost.restless_call h.1 h.2

/-- Sleeps for some microseconds; a sleep of none is left out. -/
def sleep (us : Nat) (p : Ports η) : Ports η :=
  if us = 0 then p else ⟨SerialHost.sleep us p.host, .slept us :: p.journal⟩

end Ports

end DiveLink
