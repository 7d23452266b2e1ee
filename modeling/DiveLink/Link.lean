import DiveLink.Bytes
import DiveLink.Error
import DiveLink.Line

/-!
# Links

A link is a blocking stream of bytes to a device, together with the lines that control it.  What a
link does is left open: it is a state that answers calls, so that a serial port, a simulated device
and a link that fails in any way are all links.

## Main definitions

* `Call`, `Reply` — what is asked of a link, and what comes back.
* `CancelToken` — a flag by which an operation can be stopped from elsewhere.
* `Link` — a state that answers calls, and that knows which tokens are cancelled and what time it
  is.
-/

namespace DiveLink

/-- What is asked of a link. -/
inductive Call
  | configure (settings : LineSettings)
  /-- How long a transfer may take, in milliseconds. -/
  | timeout (ms : Nat)
  /-- Starts or ends a break condition. -/
  | breakLine (level : Bool)
  /-- Sets the line that says a terminal is ready. -/
  | dtr (level : Bool)
  /-- Sets the line that asks to send. -/
  | rts (level : Bool)
  /-- Whether a write waits until its last bit is on the wire. -/
  | halfDuplex (enable : Bool)
  /-- Forgets waiting bytes. -/
  | flush (queue : Queue)
  /-- Waits, in milliseconds; this cannot fail. -/
  | sleep (ms : Nat)
  | read (size : Nat)
  | write (data : Bytes)
  | close
  deriving DecidableEq, Repr, Inhabited

/-- The name of a call. -/
def Call.name : Call → String
  | configure _ => "configure"
  | timeout _ => "timeout"
  | breakLine _ => "break"
  | dtr _ => "dtr"
  | rts _ => "rts"
  | halfDuplex _ => "halfduplex"
  | flush _ => "flush"
  | sleep _ => "sleep"
  | read _ => "read"
  | write _ => "write"
  | close => "close"

/-- What comes back from a call.  A transfer that is short of the request means that the device
stopped talking or listening; a failure is one of the link itself. -/
structure Reply where
  /-- The bytes that a read delivers. -/
  received : Bytes := []
  /-- How many bytes a write has sent. -/
  accepted : Nat := 0
  failure : Option IoError := none
  deriving DecidableEq, Repr, Inhabited

/-- A flag that can be set from elsewhere while an operation runs. -/
structure CancelToken where
  id : Nat
  deriving DecidableEq, Repr, Inhabited

/-- States of links. -/
class Link (σ : Type) where
  /-- The reply to a call, and the state behind it. -/
  call : Call → σ → Reply × σ
  /-- Whether a token is cancelled. -/
  cancelled : CancelToken → σ → Bool
  /-- The time, in seconds of the Unix era. -/
  now : σ → Int

end DiveLink
