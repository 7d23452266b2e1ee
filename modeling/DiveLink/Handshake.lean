import DiveLink.Checksum
import DiveLink.Session

/-!
# Handshakes

Some devices talk only after a break condition.  They then push a frame that ends in a check of its
bytes.

## Main definitions

* `handshake` — the payload of the frame that a break condition brings about.
-/

namespace DiveLink

variable {σ δ : Type} [Link σ]

open Session

/-- Wakes the device with a break condition and receives `size` bytes and their check.  The break
condition ends before anything is made of what arrived; if it cannot be ended, that is the
failure. -/
def handshake (size : Nat) : Op σ δ Bytes := do
  attempt (.breakLine true)
  let frame ← receive (size + 2)
  attempt (.breakLine false)
  match frame.outcome with
  | .error e =>
    warn .handshake
    throw e
  | .ok () =>
    match Checksum.stripCrc16? frame.bytes with
    | some payload => return payload
    | none =>
      warn .answerChecksum
      throw (.protocol .badChecksum)

end DiveLink
