import DiveLink.Bench.Script
import DiveLink.Vyper2.Simulator

/-!
# A scripted link

A test bench in place of a device: bytes that wait to be received, a simulated device if wanted, and
a script of what goes wrong.  Beside it the bench has a clock and tokens of its own.

## Main definitions

* `Bench.Rig` — one link of the bench.
* `Bench.Surroundings` — time and tokens.
* `Bench.LinkBench` — a bench that is a link.
-/

namespace DiveLink.Bench

/-- One link of a bench. -/
structure Rig where
  /-- The bytes that wait to be received. -/
  waiting : Bytes := []
  simulator : Option Vyper2.Simulator := none
  script : Script := {}
  /-- The most bytes that one read of a port delivers. -/
  readMost : Option Nat := none
  /-- The most bytes that one write to a port takes. -/
  writeMost : Option Nat := none
  /-- Whether a port without bytes is at its end, and not silent. -/
  ended : Bool := false
  /-- How long a write to a port takes, in microseconds. -/
  writeTime : Nat := 0
  /-- The rate of the port. -/
  baud : Nat := 9600
  deriving DecidableEq, Repr, Inhabited

namespace Rig

/-- The next `n` bytes, as far as they have arrived. -/
def receive (r : Rig) (n : Nat) : Bytes × Rig :=
  (r.waiting.take n, { r with waiting := r.waiting.drop n })

/-- The link after some bytes were sent. -/
def send (r : Rig) (data : Bytes) : Rig :=
  match r.simulator with
  | none => r
  | some device =>
    let (answer, device) := device.feed data
    { r with waiting := r.waiting ++ answer, simulator := some device }

end Rig

/-- Time and tokens of a bench. -/
structure Surroundings where
  /-- The time, in seconds of the Unix era. -/
  now : Int
  /-- The tokens that are cancelled. -/
  cancelled : List CancelToken := []
  /-- The token that a script cancels. -/
  current : Option CancelToken := none
  deriving DecidableEq, Repr, Inhabited

namespace Surroundings

/-- Whether a token is cancelled. -/
def isCancelled (s : Surroundings) (t : CancelToken) : Bool := s.cancelled.contains t

/-- Cancels a token. -/
def cancel (s : Surroundings) (t : CancelToken) : Surroundings :=
  { s with cancelled := t :: s.cancelled.filter (· != t) }

/-- Takes a cancellation back. -/
def reset (s : Surroundings) (t : CancelToken) : Surroundings :=
  { s with cancelled := s.cancelled.filter (· != t) }

/-- Does what a script has in store beside the call itself. -/
def follow (s : Surroundings) (o : Occasion) : Surroundings :=
  match o.cancels, s.current with
  | true, some t => s.cancel t
  | _, _ => s

end Surroundings

/-- A bench with one link. -/
structure LinkBench where
  rig : Rig
  around : Surroundings
  deriving DecidableEq, Repr, Inhabited

/-- The reply of a link to a call that the script lets through. -/
def Rig.reply (r : Rig) (limit : Option Nat) : Call → Reply × Rig
  | .read n =>
    let (received, r) := r.receive (atMost limit n)
    ({ received }, r)
  | .write data =>
    let taken := data.take (atMost limit data.length)
    ({ accepted := taken.length }, r.send taken)
  | _ => ({}, r)

instance : Link LinkBench where
  call c b :=
    let (occasion, script) := b.rig.script.enter c.name
    let rig := { b.rig with script }
    let around := b.around.follow occasion
    match occasion.failure, c with
    | some _, .sleep _ | none, _ =>
      let (reply, rig) := rig.reply occasion.limit c
      (reply, ⟨rig, around⟩)
    | some e, _ => ({ failure := some e.toIoError }, ⟨rig, around⟩)
  cancelled t b := b.around.isCancelled t
  now b := b.around.now

end DiveLink.Bench
