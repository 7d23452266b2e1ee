import DiveLink.Proofs.Session.Exchange
import DiveLink.Proofs.Vyper2.Simulator

/-!
# A Vyper2 on a link that may fail

Calls to a link may fail or move fewer bytes than they were asked for, and answers may be changed or
cut on the way.  As long as nothing is added to them, an exchange brings some first bytes of its
command to the device, and a whole command if it succeeds.

## Main definitions

* `Vyper2.Carries` — a link that may lose and change bytes, and adds none.
* `Vyper2.Wrote` — a command that was written whole.
* `Vyper2.Brought` — what an exchange brings to the device, and what it leaves on the link.

## Main results

* `Vyper2.Carries.ask` — **an exchange brings a beginning of its command to the device.**
-/

namespace DiveLink
namespace Vyper2

open Session

variable {σ δ : Type} [Link σ]

/-- The link carries bytes as well as it can.  `At d w l` says that in the state `l` of the link the
device `d` is at its other end, and the bytes `w` wait to be received. -/
structure Carries (At : Simulator → Bytes → σ → Prop) : Prop where
  sleep : ∀ {d w l} (ms : Nat), At d w l → At d w (Link.call (.sleep ms) l).2
  rts : ∀ {d w l} (level : Bool), At d w l → At d w (Link.call (.rts level) l).2
  /-- Some first bytes of what is written reach the device; if the write does not fail, they are as
  many as were accepted.  Of the answer no more than its length waits behind the others. -/
  write : ∀ {d w l} (data : Bytes), At d w l → ∃ n answer, n ≤ data.length ∧
    ((Link.call (.write data) l).1.failure = none →
      (Link.call (.write data) l).1.accepted = n) ∧
    answer.length ≤ (d.feed (data.take n)).1.length ∧
    At (d.feed (data.take n)).2 (w ++ answer) (Link.call (.write data) l).2
  /-- Some of the bytes that wait are taken away; if the read does not fail, they are received. -/
  read : ∀ {d w l} (size : Nat), At d w l → ∃ n,
    ((Link.call (.read size) l).1.failure = none →
      (Link.call (.read size) l).1.received = w.take n) ∧
    At d (w.drop n) (Link.call (.read size) l).2

/-- In the course of `es` the command was written, and all of it was accepted. -/
def Wrote (es : List Entry) (command : Bytes) : Prop :=
  ∃ sent : Reply, .call (.write command) sent ∈ es ∧ sent.failure = none ∧
    sent.accepted = command.length

theorem Wrote.mono {es es' : List Entry} {command : Bytes} (hes : es ⊆ es')
    (h : Wrote es command) : Wrote es' command := by
  obtain ⟨sent, hmem, hsent⟩ := h
  exact ⟨sent, hes hmem, hsent⟩

theorem wrote_append {es es' : List Entry} {command : Bytes} :
    Wrote (es ++ es') command ↔ Wrote es command ∨ Wrote es' command := by
  constructor
  · rintro ⟨sent, hmem, hsent⟩
    rcases List.mem_append.1 hmem with h | h
    · exact Or.inl ⟨sent, h, hsent⟩
    · exact Or.inr ⟨sent, h, hsent⟩
  · rintro (h | h)
    · exact h.mono (List.subset_append_left _ _)
    · exact h.mono (List.subset_append_right _ _)

/-- What was exchanged was written. -/
theorem Wrote.of_exchanged {settle size : Nat} {command answer : Bytes} {es part : List Entry}
    (hpart : part <:+: es) (h : Packet.Exchanged settle command answer size part) :
    Wrote es command := by
  obtain ⟨_, _, sent, _, _, rfl, -, hsent, haccepted, -⟩ := h
  exact ⟨sent, hpart.subset (by simp), hsent, haccepted⟩

variable {At : Simulator → Bytes → σ → Prop} {d : Simulator} {s t : Session σ δ}
  {settle size : Nat} {command : Bytes}

/-- In the course of `es` the first `n` bytes of the command reached the device `d`; what is left
on the link is a part of its answer.  A command that was written whole is this one, and it reached
the device. -/
structure Brought (At : Simulator → Bytes → σ → Prop) (d : Simulator) (command : Bytes)
    (t : Session σ δ) (es : List Entry) (n : Nat) (w : Bytes) : Prop where
  le : n ≤ command.length
  waiting : w.length ≤ (d.feed (command.take n)).1.length
  at_link : At (d.feed (command.take n)).2 w t.link
  wrote : ∀ c, Wrote es c → c = command ∧ n = command.length

/-- Sending brings a beginning of the command to the device. -/
theorem Carries.sending (hc : Carries At) (hat : At d [] s.link) (hd : d.pending = [])
    {r : Except DeviceError Unit} (h : Packet.Sending settle command s r t) :
    ∃ es n w, Grows s t es ∧ Brought At d command t es n w ∧
      (r = .ok () → n = command.length) := by
  have hnothing : d.feed (command.take 0) = ([], d) := by
    rw [List.take_zero]
    exact Simulator.feed_nil hd
  have hslept := hc.sleep settle hat
  have hup := hc.rts true hslept
  obtain ⟨n, answer, hn, haccepted, hanswer, hwritten⟩ := hc.write command hup
  rw [List.nil_append] at hwritten
  have hrest : Grows s (called (.rts true) (called (.sleep settle) s)) _ :=
    (grows_called (.sleep settle) s).trans (grows_called (.rts true) _)
  have hgrows :
      Grows s (called (.write command) (called (.rts true) (called (.sleep settle) s))) _ :=
    hrest.trans (grows_called (.write command) _)
  -- what was written whole has reached the device
  have hwrote : ∀ c sent, Entry.call (.write c) sent = .call (.write command)
      (reply (.write command) (called (.rts true) (called (.sleep settle) s))) →
        sent.failure = none → sent.accepted = c.length → c = command ∧ n = command.length := by
    intro c sent hcall hfailure haccept
    cases hcall
    exact ⟨rfl, (haccepted hfailure).symm.trans haccept⟩
  cases h with
  | cancelled _ =>
    refine ⟨[], 0, [], .refl s, ⟨Nat.zero_le _, Nat.zero_le _, ?_, ?_⟩, by simp⟩
    · rw [hnothing]
      exact hat
    · rintro c ⟨_, hmem, _⟩
      exact absurd hmem (by simp)
  | unraised _ _ =>
    refine ⟨_, 0, [], hrest, ⟨Nat.zero_le _, Nat.zero_le _, ?_, ?_⟩, by simp⟩
    · rw [hnothing]
      exact hup
    · rintro c ⟨_, hmem, _⟩
      exact absurd hmem (by simp)
  | unsent _ _ _ =>
    refine ⟨_, n, answer, hgrows.trans (grows_warned [.send] _),
      ⟨hn, hanswer, hwritten, ?_⟩, by simp⟩
    rintro c ⟨sent, hmem, hfailure, haccept⟩
    exact hwrote c sent (by simpa using hmem) hfailure haccept
  | unlowered _ _ hwrite _ =>
    refine ⟨_, n, answer, hgrows.trans (grows_called (.rts false) _),
      ⟨hn, hanswer, hc.rts false hwritten, ?_⟩, by simp⟩
    rintro c ⟨sent, hmem, hfailure, haccept⟩
    exact hwrote c sent (by simpa using hmem) hfailure haccept
  | sent hsends =>
    refine ⟨_, n, answer, hgrows.trans (grows_called (.rts false) _),
      ⟨hn, hanswer, hc.rts false hwritten, ?_⟩, ?_⟩
    · rintro c ⟨sent, hmem, hfailure, haccept⟩
      exact hwrote c sent (by simpa using hmem) hfailure haccept
    · intro _
      exact (haccepted hsends.sent).symm.trans hsends.accepted

/-- Behind the read the whole command has reached the device, and no more is left on the link than
before the read; nothing is left if as many bytes were received as the answer has. -/
theorem Carries.after (hc : Carries At) (hat : At d [] s.link) (hd : d.pending = [])
    (hsends : Packet.Sends settle command s) (length : Nat) (ws : List Warning) :
    ∃ es w, Grows s (warned ws (Packet.after settle command length s)) es ∧
      Brought At d command (warned ws (Packet.after settle command length s)) es
        command.length w ∧
      ((reply (.read length) (Packet.afterSend settle command s)).failure = none →
        (reply (.read length) (Packet.afterSend settle command s)).received.length = length →
          (d.feed command).1.length ≤ length → w = []) := by
  obtain ⟨es, n, w, hgrows, hbrought, hn⟩ := hc.sending hat hd (.sent hsends)
  obtain rfl : n = command.length := hn rfl
  obtain ⟨m, hreceived, hend⟩ := hc.read length hbrought.at_link
  have hwaiting := hbrought.waiting
  rw [List.take_length] at hwaiting
  refine ⟨_, w.drop m, (hgrows.trans (grows_called (.read length) _)).trans (grows_warned ws _),
    ⟨Nat.le_refl _, ?_, hend, ?_⟩, ?_⟩
  · rw [List.take_length, List.length_drop]
    omega
  · rintro c hc
    rcases wrote_append.1 hc with h | ⟨sent, hmem, -⟩
    · rcases wrote_append.1 h with h | ⟨sent, hmem, -⟩
      · exact hbrought.wrote c h
      · exact absurd hmem (by simp)
    · exact absurd hmem (by simp)
  · intro hok hlength hanswer
    -- all that waited was received
    have hmin : min m w.length = length := by
      rw [← List.length_take, ← hreceived hok]
      exact hlength
    exact List.drop_eq_nil_of_le (by omega)

/-- **An exchange brings a beginning of its command to the device.**  If it succeeds, the whole
command has reached the device, and no byte of its answer is left on the link. -/
theorem Carries.ask (hc : Carries At) (hat : At d [] s.link) (hd : d.pending = [])
    {parameters : Nat} {r : Except DeviceError Bytes}
    (hrun : run (Packet.ask settle command parameters size) s = (r, t)) :
    ∃ es n w, Grows s t es ∧ Brought At d command t es n w ∧ ∀ answer, r = .ok answer →
      n = command.length ∧ Packet.Exchanged settle command answer size es ∧
        ((d.feed command).1.length = answer.length → w = []) := by
  -- in each way to end, the device has taken a first part of the command
  have hasking := Packet.asking settle command parameters size s
  rw [hrun] at hasking
  cases hasking with
  | unsent hsending =>
    obtain ⟨es, n, w, hgrows, hbrought, -⟩ := hc.sending hat hd hsending
    exact ⟨es, n, w, hgrows, hbrought, by simp⟩
  | unreceived hsends _ =>
    obtain ⟨es, w, hgrows, hbrought, -⟩ := hc.after hat hd hsends _ [.receive]
    exact ⟨es, _, w, hgrows, hbrought, by simp⟩
  | @unfit hsends f _ _ =>
    obtain ⟨es, w, hgrows, hbrought, -⟩ := hc.after hat hd hsends _ f.warning.toList
    exact ⟨es, _, w, hgrows, hbrought, by simp⟩
  -- only a fitting answer is one: the device then has the whole command, and all it sent was read
  | fit hsucceeds hlength =>
    obtain ⟨es, w, hgrows, hbrought, hall⟩ := hc.after hat hd hsucceeds.toSends _ []
    obtain ⟨es', hgrows', hex⟩ := hsucceeds.grows
    obtain rfl := hgrows.unique hgrows'
    refine ⟨es, _, w, hgrows, hbrought, ?_⟩
    intro answer hanswer
    cases hanswer
    exact ⟨rfl, hex, fun h => hall hsucceeds.got (congrArg List.length hsucceeds.received)
      (Nat.le_of_eq h)⟩

end Vyper2
end DiveLink
