import DiveLink.Port.Selection

/-!
# Serial lines as links

A port of a host as a link to a device.  A transfer goes on piece by piece until it is complete or
the port falls silent, and an interrupted call is made again.  In half-duplex mode a write lasts
until its last bit is on the wire.

## Main definitions

* `SerialLine` — an open port and its settings.
* `Ports.transfer` — a transfer piece by piece.
* `SerialLine.openNamed` — opens a port as a link.
-/

namespace DiveLink

/-- An open port and its settings. -/
structure SerialLine (η : Type) where
  ports : Ports η
  name : String
  /-- The settings of the last configuration that succeeded as a whole. -/
  settings : LineSettings
  halfDuplex : Bool
  deriving Inhabited

/-! ### Transfers -/

/-- The failure that ends a transfer; one that took too long ends it without. -/
def PortError.hard? (e : PortError) : Option IoError :=
  if e.toIoError.kind = .timedOut then none else some e.toIoError

/-- Moves the bytes of a transfer piece by piece, until all have moved, the port is silent or it
fails.  The bytes that have moved are given in any case. -/
def Ports.transfer {η : Type} [SerialHost η] (port : String) (c : PortCall) (p : Ports η) :
    (Bytes × Option IoError) × Ports η :=
  if c.size = 0 then (([], none), p)
  else
    match p.insist port c with
    | (reply, p) =>
      match reply.failure with
      | some e => (([], e.hard?), p)
      | none =>
        let piece := c.moved reply
        if piece.length = 0 then (([], none), p)
        else
          match p.transfer port (c.behind piece.length) with
          | ((rest, failure), p) => ((piece ++ rest, failure), p)
termination_by c.size
decreasing_by
  rename_i hsize hpiece
  rw [PortCall.size_behind]
  exact Nat.sub_lt (Nat.pos_of_ne_zero hsize) (Nat.pos_of_ne_zero hpiece)

/-! ### Lines -/

namespace SerialLine

/-- Programs on a line, which may fail; the line is kept all the same. -/
abbrev Op (η : Type) := EStateM IoError (SerialLine η)

variable {η : Type} [SerialHost η]

/-- Makes a call to the port. -/
def perform (c : PortCall) : Op η PortReply := do
  let line ← get
  let (reply, ports) := line.ports.call line.name c
  set { line with ports }
  return reply

/-- Makes a call to the port; its failure ends the program. -/
def attempt (c : PortCall) : Op η PortReply := do
  let reply ← perform c
  match reply.failure with
  | some e => throw e.toIoError
  | none => return reply

/-- Microseconds since some moment. -/
def clock : Op η Nat := return SerialHost.clock (← get).ports.host

/-- Sleeps for some microseconds. -/
def sleep (us : Nat) : Op η Unit := modify fun line => { line with ports := line.ports.sleep us }

/-- Makes a transfer; the bytes that have moved are given even if the port fails behind them. -/
def transfer (c : PortCall) : Op η (Bytes × Option IoError) := do
  let line ← get
  let (result, ports) := line.ports.transfer line.name c
  set { line with ports }
  return result

/-- Sets up the port; the settings count once all of them are taken. -/
def configure (s : LineSettings) : Op η Unit := do
  let _ ← attempt (.baud s.baud)
  let _ ← attempt (.dataBits s.dataBits)
  let _ ← attempt (.parity s.parity)
  let _ ← attempt (.stopBits s.stopBits)
  let _ ← attempt (.flow s.flow)
  modify fun line => { line with settings := s }

/-- Sends `data`, as much of it as the port takes. -/
def send (data : Bytes) : Op η Bytes := do
  let (sent, failure) ← transfer (.write data)
  match failure with
  | some e => throw e
  | none => return sent

/-- In half-duplex mode, waits until the last of `n` bytes that are sent since `start` is on the
wire. -/
def drain (start n : Nat) : Op η Unit := do
  let line ← get
  if line.halfDuplex then
    let _ ← attempt .flush
    let elapsed := (← clock) - start
    sleep (line.settings.transmitTime n - elapsed)

/-- Sends `data`, and in half-duplex mode waits until the last bit is on the wire. -/
def write (data : Bytes) : Op η Nat := do
  let start ← clock
  let sent ← send data
  drain start sent.length
  return sent.length

/-- The reply to a call and the line behind it. -/
def replyOf (x : Op η Reply) (line : SerialLine η) : Reply × SerialLine η :=
  match x line with
  | .ok reply line => (reply, line)
  | .error e line => ({ failure := some e }, line)

/-- A program whose result is of no interest, as a reply. -/
def silently {α : Type} (x : Op η α) : Op η Reply := do
  let _ ← x
  return {}

/-- The program of a call. -/
def program : Call → Op η Reply
  | .configure s => silently (configure s)
  | .timeout ms => silently (attempt (.timeout ms))
  | .breakLine level => silently (attempt (.breakLine level))
  | .dtr level => silently (attempt (.dtr level))
  | .rts level => silently (attempt (.rts level))
  | .halfDuplex enable => silently (modify fun line => { line with halfDuplex := enable })
  | .flush queue => silently (attempt (.clear queue))
  | .sleep ms => silently (sleep (ms * 1000))
  | .read n => do
    let (received, failure) ← transfer (.read n)
    return { received, failure }
  | .write data => do
    return { accepted := ← write data }
  | .close => return {}

instance : Link (SerialLine η) where
  call c := replyOf (program c)
  cancelled t line := SerialHost.cancelled t line.ports.host
  now line := SerialHost.now line.ports.host

/-- Opens the port that a name stands for, at the rate that it has. -/
def openNamed (name : String) (force : Bool) (p : Ports η) :
    Except IoError (SerialLine η) × Ports η :=
  match p.openNamed name force with
  | (.error e, p) => (.error e, p)
  | (.ok port, p) =>
    match p.call port .getBaud with
    | (reply, p) =>
      match reply.failure with
      | some e => (.error e.toIoError, p)
      | none => (.ok ⟨p, port, .n81 reply.baud, false⟩, p)

end SerialLine

end DiveLink
