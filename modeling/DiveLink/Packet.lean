import DiveLink.Checksum
import DiveLink.Session

/-!
# Packets

A command and its answer.  A command is a body and its checksum; the answer repeats the first byte
of the command, says how long it is, repeats the parameters of the command, and carries data and a
checksum.  Command and answer share one wire: the command is sent while the line that asks to send
is raised.

## Main definitions

* `Packet.frame` — a body and its checksum.
* `Packet.check`, `AnswerFault` — whether an answer fits a command, and if not, why.
* `Packet.send`, `Packet.exchange` — one command, and one command with its answer.
-/

namespace DiveLink

/-- Why an answer does not fit its command. -/
inductive AnswerFault
  /-- There is no command, or the answer is shorter than the data it should carry. -/
  | tooShort
  | header | size | parameters | checksum
  deriving DecidableEq, Repr, Inhabited

namespace AnswerFault

/-- The error of a fault. -/
def error : AnswerFault → ProtocolError
  | tooShort | size => .badLength
  | header => .badHeader
  | parameters => .badParameters
  | checksum => .badChecksum

/-- The warning that goes with a fault. -/
def warning : AnswerFault → Option Warning
  | tooShort => none
  | header => some .answerHeader
  | size => some .answerSize
  | parameters => some .answerParameters
  | checksum => some .answerChecksum

end AnswerFault

namespace Packet

/-! ### Frames -/

/-- The bytes of a frame beside parameters and data: header, two bytes of length, checksum. -/
def overhead : Nat := 4

/-- A body followed by its checksum. -/
def frame (body : Bytes) : Bytes := body ++ [Checksum.xorSum 0 body]

@[simp] theorem length_frame (body : Bytes) : (frame body).length = body.length + 1 := by
  simp [frame]

/-- Whether an answer that carries `size` bytes of data fits a command.  What is left of the answer
beside its data are parameters, which have to be those of the command. -/
def check (command answer : Bytes) (size : Nat) : Except AnswerFault Unit :=
  if command = [] ∨ answer.length < overhead + size then .error .tooShort
  else if answer.head? ≠ command.head? then .error .header
  else if Bytes.be16 (answer.drop 1) + overhead ≠ answer.length then .error .size
  else
    let n := answer.length - size - overhead
    if command.length < 3 + n ∨ Bytes.slice command 3 n ≠ Bytes.slice answer 3 n then
      .error .parameters
    else if answer.getLast? ≠ some (Checksum.xorSum 0 answer.dropLast) then .error .checksum
    else .ok ()

/-! ### Exchanges -/

variable {σ δ : Type} [Link σ]

open Session

/-- Sends a command after `settle` milliseconds, unless the session's token is cancelled. -/
def send (settle : Nat) (command : Bytes) : Op σ δ Unit := do
  if ← isCancelled then throw .cancelled
  pause settle
  attempt (.rts true)
  warning .send (transmit command)
  attempt (.rts false)

/-- Sends a command and receives `length` bytes of answer, of which `size` are data. -/
def exchange (settle : Nat) (command : Bytes) (length size : Nat) : Op σ δ Receipt := do
  match ← outcome (send settle command) with
  | .error e => return .refused e
  | .ok () =>
    let answer ← receive length
    match answer.outcome with
    | .error _ =>
      warn .receive
      return answer
    | .ok () =>
      match check command answer.bytes size with
      | .ok () => return answer
      | .error f =>
        record (f.warning.toList.map .warning)
        return { answer with outcome := .error (.protocol f.error) }

/-- The answer to a command: `parameters` bytes of the command, and `size` bytes of data. -/
def ask (settle : Nat) (command : Bytes) (parameters size : Nat) : Op σ δ Bytes := do
  let answer ← exchange settle command (overhead + parameters + size) size
  lift answer.toExcept

/-- The data in an answer behind its parameters. -/
def data (answer : Bytes) (parameters size : Nat) : Bytes :=
  Bytes.slice answer (3 + parameters) size

end Packet

end DiveLink
