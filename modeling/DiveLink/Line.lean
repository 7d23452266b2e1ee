/-!
# Serial lines

The settings of a serial line and the time that bytes take on it.

## Main definitions

* `LineSettings`, `LineSettings.n81` — the settings, and those of nearly every device.
* `LineSettings.bitsPerByte`, `LineSettings.transmitTime` — how long bytes are on the wire.
* `Queue` — the bytes that wait on either side of the line.
-/

namespace DiveLink

/-- How many bits of a byte are sent. -/
inductive DataBits
  | five | six | seven | eight
  deriving DecidableEq, Repr, Inhabited

/-- The number of data bits. -/
def DataBits.count : DataBits → Nat
  | five => 5
  | six => 6
  | seven => 7
  | eight => 8

/-- The parity bit. -/
inductive Parity
  | none | odd | even
  deriving DecidableEq, Repr, Inhabited

/-- The number of parity bits. -/
def Parity.count : Parity → Nat
  | none => 0
  | odd | even => 1

/-- How many bits end a byte. -/
inductive StopBits
  | one | two
  deriving DecidableEq, Repr, Inhabited

/-- The number of stop bits. -/
def StopBits.count : StopBits → Nat
  | one => 1
  | two => 2

/-- What holds back a sender that is too fast. -/
inductive FlowControl
  | none | software | hardware
  deriving DecidableEq, Repr, Inhabited

/-- The settings of a serial line. -/
structure LineSettings where
  baud : Nat
  dataBits : DataBits
  parity : Parity
  stopBits : StopBits
  flow : FlowControl
  deriving DecidableEq, Repr, Inhabited

namespace LineSettings

/-- Eight data bits, no parity, one stop bit and no flow control. -/
def n81 (baud : Nat) : LineSettings := ⟨baud, .eight, .none, .one, .none⟩

/-- The bits that a byte takes on the wire: a start bit, data, parity and stop bits. -/
def bitsPerByte (s : LineSettings) : Nat :=
  1 + s.dataBits.count + s.parity.count + s.stopBits.count

/-- The microseconds that `n` bytes take on the wire, rounded down; a rate of zero counts as
one. -/
def transmitTime (s : LineSettings) (n : Nat) : Nat :=
  n * s.bitsPerByte * 1000000 / max s.baud 1

example : (n81 9600).bitsPerByte = 10 ∧ (n81 9600).transmitTime 4 = 4166 := by decide

end LineSettings

/-- The bytes that wait to be read, those that wait to be sent, or both. -/
inductive Queue
  | input | output | both
  deriving DecidableEq, Repr, Inhabited

end DiveLink
