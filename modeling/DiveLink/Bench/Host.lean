import DiveLink.Bench.Rig

/-!
# A scripted host

A test bench in place of a host with serial ports, each of them a scripted link.

## Main definitions

* `Bench.Host` — the host.
* `Bench.Rig.portReply` — the reply of one of its ports.
-/

namespace DiveLink.Bench

/-- How many interruptions of transfers in a row a host has in store at most. -/
def interruptions : Nat := 1000000

/-- A host whose ports are scripted links. -/
structure Host where
  ports : List (String × Rig) := []
  /-- What a listing of the ports gives. -/
  listing : Except PortError (List PortInfo) := .ok []
  /-- The files that processes have open, with their targets. -/
  links : List (String × String) := []
  /-- Microseconds since the start. -/
  clock : Nat := 0
  around : Surroundings
  /-- How many more interruptions of transfers in a row there may be. -/
  patience : Nat := interruptions
  deriving Inhabited

/-- What is said of a port that has no more bytes for now. -/
def silence : PortError := ⟨.io .timedOut, "timed out"⟩

/-- What is said of a port that is not there. -/
def absence : PortError := ⟨.noDevice, "No such file or directory"⟩

/-- What is said of a port whose script interrupts every transfer. -/
def exhaustion : PortError := ⟨.io .other, "interrupted too often"⟩

/-- The reply of a port to a call that the script lets through, the microseconds that the call
takes, and the link behind it. -/
def Rig.portReply (r : Rig) (limit : Option Nat) : PortCall → PortReply × Nat × Rig
  | .getBaud => ({ baud := r.baud }, 0, r)
  | .baud rate => ({}, 0, { r with baud := rate })
  | .read n =>
    if r.waiting.isEmpty && !r.ended then ({ failure := some silence }, 0, r)
    else
      let (received, r) := r.receive (atMost r.readMost (atMost limit n))
      ({ received }, 0, r)
  | .write data =>
    let taken := data.take (atMost r.writeMost (atMost limit data.length))
    ({ accepted := taken.length }, r.writeTime, r.send taken)
  | _ => ({}, 0, r)

namespace Host

/-- The host with another state of one port. -/
def setPort (h : Host) (name : String) (r : Rig) : Host :=
  { h with ports := h.ports.map fun p => if p.1 == name then (name, r) else p }

/-- The reply of a port to a call, as the script has it. -/
def answer (name : String) (c : PortCall) (h : Host) : PortReply × Host :=
  match h.ports.lookup name with
  | none => ({ failure := some absence }, h)
  | some rig =>
    let (occasion, script) := rig.script.enter c.name
    let h := { h with around := h.around.follow occasion }
    match occasion.failure with
    | some e => ({ failure := some e }, h.setPort name { rig with script })
    | none =>
      let (reply, time, rig) := Rig.portReply { rig with script } occasion.limit c
      (reply, { h.setPort name rig with clock := h.clock + time })

/-- A reply to a call for which so many more interruptions in a row are in store. -/
def bear (patience : Nat) (c : PortCall) (reply : PortReply) (h : Host) : PortReply × Host :=
  if 0 < c.size ∧ reply.interrupted = true then
    match patience with
    | 0 => ({ failure := some exhaustion }, h)
    | n + 1 => (reply, { h with patience := n })
  else (reply, { h with patience := interruptions })

/-- An interruption uses up some patience. -/
theorem patience_bear {patience : Nat} {c : PortCall} {reply : PortReply} {h : Host}
    (hc : 0 < c.size) (hreply : (bear patience c reply h).1.interrupted = true) :
    (bear patience c reply h).2.patience < patience := by
  unfold bear at hreply ⊢
  split at hreply
  · next hinterrupted =>
    rw [if_pos hinterrupted]
    cases patience with
    | zero => exact absurd hreply Bool.false_ne_true
    | succ n => exact Nat.lt_succ_self n
  · next hinterrupted => exact absurd ⟨hc, hreply⟩ hinterrupted

instance : SerialHost Host where
  available h := h.listing
  glob _ h := some (h.links.map fun link => some link.1)
  readLink path h := (h.links.lookup path).map some
  call name c h :=
    let (reply, h') := h.answer name c
    bear h.patience c reply h'
  sleep _ h := h
  clock h := h.clock
  cancelled t h := h.around.isCancelled t
  now h := h.around.now
  restless _ _ h := h.patience
  restless_call := patience_bear

end Host

end DiveLink.Bench
