import DiveLink.Packet
import DiveLink.Proofs.Session.Growth

/-!
# Exchanges on any link

What an exchange of a command and an answer does on a link of which nothing is known: the calls that
it makes, the ways in which it ends, and the conditions under which it succeeds.

## Main definitions

* `Packet.Sending`, `Packet.Asking` — the ways in which sending and a whole exchange end.
* `Packet.Succeeds` — an exchange that succeeds in a session.
* `Packet.after` — the session behind it.
* `Packet.Exchanged` — its entries in a history.

## Main results

* `Packet.asking` — **an exchange ends in one of these ways.**
* `Packet.run_ask_eq_ok` — **an exchange succeeds exactly if each of its calls does and the answer
  fits the command.**
-/

namespace DiveLink
namespace Packet

open Session

variable {σ δ : Type} [Link σ] {s t : Session σ δ} {settle size : Nat} {command answer : Bytes}

/-! ### Sending -/

/-- The session behind a command that was sent. -/
def afterSend (settle : Nat) (command : Bytes) (s : Session σ δ) : Session σ δ :=
  called (.rts false) (called (.write command) (called (.rts true) (called (.sleep settle) s)))

/-- A command that is sent: the token is not cancelled, the line is raised and lowered again, and
between the two the whole command is accepted. -/
structure Sends (settle : Nat) (command : Bytes) (s : Session σ δ) : Prop where
  uncancelled : Link.cancelled s.token s.link = false
  raised : (reply (.rts true) (called (.sleep settle) s)).failure = none
  sent : (reply (.write command) (called (.rts true) (called (.sleep settle) s))).failure = none
  accepted : (reply (.write command)
    (called (.rts true) (called (.sleep settle) s))).accepted = command.length
  lowered : (reply (.rts false)
    (called (.write command) (called (.rts true) (called (.sleep settle) s)))).failure = none

/-- How the sending of a command ends, and the session behind it. -/
inductive Sending (settle : Nat) (command : Bytes) (s : Session σ δ) :
    Except DeviceError Unit → Session σ δ → Prop
  | cancelled (hcancel : Link.cancelled s.token s.link = true) :
      Sending settle command s (.error .cancelled) s
  | unraised (hcancel : Link.cancelled s.token s.link = false) {e : IoError}
      (hraise : (reply (.rts true) (called (.sleep settle) s)).failure = some e) :
      Sending settle command s (.error (.io e)) (called (.rts true) (called (.sleep settle) s))
  | unsent (hcancel : Link.cancelled s.token s.link = false)
      (hraise : (reply (.rts true) (called (.sleep settle) s)).failure = none) {e : DeviceError}
      (hwrite : (reply (.write command) (called (.rts true) (called (.sleep settle) s))).fault
        (reply (.write command) (called (.rts true) (called (.sleep settle) s))).accepted
          command.length = some e) :
      Sending settle command s (.error e)
        (warned [.send] (called (.write command) (called (.rts true) (called (.sleep settle) s))))
  | unlowered (hcancel : Link.cancelled s.token s.link = false)
      (hraise : (reply (.rts true) (called (.sleep settle) s)).failure = none)
      (hwrite : (reply (.write command) (called (.rts true) (called (.sleep settle) s))).fault
        (reply (.write command) (called (.rts true) (called (.sleep settle) s))).accepted
          command.length = none) {e : IoError}
      (hlower : (reply (.rts false) (called (.write command)
        (called (.rts true) (called (.sleep settle) s)))).failure = some e) :
      Sending settle command s (.error (.io e)) (afterSend settle command s)
  | sent (h : Sends settle command s) :
      Sending settle command s (.ok ()) (afterSend settle command s)

/-- Sending ends in one of these ways. -/
theorem sending (settle : Nat) (command : Bytes) (s : Session σ δ) :
    Sending settle command s (run (send settle command) s).1 (run (send settle command) s).2 := by
  unfold send
  rw [run_bind_ok (run_isCancelled s)]
  by_cases hc : Link.cancelled s.token s.link = true
  · simp only [hc, if_true]
    rw [run_bind_error (run_throw _ _)]
    exact .cancelled hc
  · simp only [hc, Bool.false_eq_true, if_false]
    rw [Bool.not_eq_true] at hc
    rw [run_bind_ok (run_pause_eq settle s), run_bind, run_attempt_eq]
    cases hraise : (reply (.rts true) (called (.sleep settle) s)).failure with
    | some e => exact .unraised hc hraise
    | none =>
      simp only [Option.elim_none]
      rw [run_bind, run_warning, run_transmit]
      cases hwrite : (reply (.write command)
          (called (.rts true) (called (.sleep settle) s))).fault _ _ with
      | some e => exact .unsent hc hraise hwrite
      | none =>
        simp only [Option.elim_none]
        rw [run_attempt_eq]
        cases hlower : (reply (.rts false) (called (.write command)
            (called (.rts true) (called (.sleep settle) s)))).failure with
        | some e => exact .unlowered hc hraise hwrite hlower
        | none =>
          rw [Reply.fault_eq_none] at hwrite
          exact .sent ⟨hc, hraise, hwrite.1, hwrite.2, hlower⟩

theorem Sending.sends (h : Sending settle command s (.ok ()) t) :
    Sends settle command s ∧ t = afterSend settle command s := by
  cases h with
  | sent h => exact ⟨h, rfl⟩

/-- A command that is sent does not end in another way. -/
theorem Sending.eq_ok {r : Except DeviceError Unit} (h : Sending settle command s r t)
    (hs : Sends settle command s) : r = .ok () ∧ t = afterSend settle command s := by
  have hfault := Reply.fault_eq_none.2 ⟨hs.sent, hs.accepted⟩
  cases h with
  | cancelled hcancel => exact absurd hcancel (by simp [hs.uncancelled])
  | unraised _ hraise => exact absurd hraise (by simp [hs.raised])
  | unsent _ _ hwrite => exact absurd hwrite (by simp [hfault])
  | unlowered _ _ _ hlower => exact absurd hlower (by simp [hs.lowered])
  | sent => exact ⟨rfl, rfl⟩

/-! ### Exchanges -/

/-- The session behind an exchange for an answer of `length` bytes. -/
def after (settle : Nat) (command : Bytes) (length : Nat) (s : Session σ δ) : Session σ δ :=
  called (.read length) (afterSend settle command s)

/-- An exchange that succeeds: the command is sent, the whole answer arrives, and it fits. -/
structure Succeeds (settle : Nat) (command answer : Bytes) (size : Nat) (s : Session σ δ) : Prop
    extends Sends settle command s where
  got : (reply (.read answer.length) (afterSend settle command s)).failure = none
  received : (reply (.read answer.length) (afterSend settle command s)).received = answer
  fits : check command answer size = .ok ()

/-- How an exchange for an answer with `parameters` and `size` bytes of data ends, and the session
behind it. -/
inductive Asking (settle : Nat) (command : Bytes) (parameters size : Nat) (s : Session σ δ) :
    Except DeviceError Bytes → Session σ δ → Prop
  | unsent {e : DeviceError} {t : Session σ δ} (h : Sending settle command s (.error e) t) :
      Asking settle command parameters size s (.error e) t
  | unreceived (h : Sends settle command s) {e : DeviceError}
      (hread : (reply (.read (overhead + parameters + size)) (afterSend settle command s)).fault
        (reply (.read (overhead + parameters + size))
          (afterSend settle command s)).received.length (overhead + parameters + size) = some e) :
      Asking settle command parameters size s (.error e)
        (warned [.receive] (after settle command (overhead + parameters + size) s))
  | unfit (h : Sends settle command s) {f : AnswerFault}
      (hread : (reply (.read (overhead + parameters + size)) (afterSend settle command s)).fault
        (reply (.read (overhead + parameters + size))
          (afterSend settle command s)).received.length (overhead + parameters + size) = none)
      (hcheck : check command (reply (.read (overhead + parameters + size))
        (afterSend settle command s)).received size = .error f) :
      Asking settle command parameters size s (.error (.protocol f.error))
        (warned f.warning.toList (after settle command (overhead + parameters + size) s))
  | fit {answer : Bytes} (h : Succeeds settle command answer size s)
      (hlength : answer.length = overhead + parameters + size) :
      Asking settle command parameters size s (.ok answer) (after settle command answer.length s)

/-- **An exchange ends in one of these ways.** -/
theorem asking (settle : Nat) (command : Bytes) (parameters size : Nat) (s : Session σ δ) :
    Asking settle command parameters size s (run (ask settle command parameters size) s).1
      (run (ask settle command parameters size) s).2 := by
  have hsending := sending settle command s
  unfold ask exchange
  rw [bind_assoc, run_bind_ok (run_outcome _ s)]
  rcases hrun : run (send settle command) s with ⟨e | ⟨⟩, t⟩ <;> rw [hrun] at hsending
  · exact .unsent hsending
  · obtain ⟨hsends, rfl⟩ := hsending.sends
    obtain ⟨n, hn⟩ : ∃ n, n = overhead + parameters + size := ⟨_, rfl⟩
    simp only
    rw [← hn, bind_assoc, run_bind_ok (run_receive n _)]
    cases hread : (reply (.read n) (afterSend settle command s)).fault
        (reply (.read n) (afterSend settle command s)).received.length n with
    | some e =>
      rw [hn] at hread ⊢
      exact .unreceived hsends hread
    | none =>
      -- all bytes have arrived, and the check decides
      have harrived := Reply.fault_eq_none.1 hread
      simp only [Option.elim_none]
      rw [List.take_of_length_le (Nat.le_of_eq harrived.2)]
      cases hcheck : check command (reply (.read n) (afterSend settle command s)).received size with
      | error f =>
        rw [hn] at hread hcheck ⊢
        exact .unfit hsends hread hcheck
      | ok =>
        obtain ⟨answer, hanswer⟩ : ∃ answer, answer =
            (reply (.read n) (afterSend settle command s)).received := ⟨_, rfl⟩
        rw [← hanswer] at hcheck ⊢
        have hlength : answer.length = n := by rw [hanswer, harrived.2]
        rw [← hlength] at harrived hanswer ⊢
        exact .fit ⟨hsends, harrived.1, hanswer.symm, hcheck⟩ (hlength.trans hn)

/-- **An exchange succeeds exactly if each of its calls does and the answer fits.** -/
theorem run_ask_eq_ok {parameters : Nat} :
    run (ask settle command parameters size) s = (.ok answer, t) ↔
      Succeeds settle command answer size s ∧ answer.length = overhead + parameters + size ∧
        t = after settle command answer.length s := by
  have hasking := asking settle command parameters size s
  constructor
  · intro hrun
    rw [hrun] at hasking
    cases hasking with
    | fit h hlength => exact ⟨h, hlength, rfl⟩
  · rintro ⟨h, hlength, rfl⟩
    rcases hrun : run (ask settle command parameters size) s with ⟨r, t⟩
    rw [hrun] at hasking
    have hread := Reply.fault_eq_none.2 ⟨h.got, congrArg List.length h.received⟩
    cases hasking with
    | unsent hsending => exact absurd (hsending.eq_ok h.toSends).1 (by simp)
    | unreceived _ hfault =>
      rw [← hlength, hread] at hfault
      exact absurd hfault (by simp)
    | unfit _ _ hcheck =>
      rw [← hlength, h.received, h.fits] at hcheck
      exact absurd hcheck (by simp)
    | fit h' hlength' =>
      have hreceived := h'.received
      rw [hlength', ← hlength, h.received] at hreceived
      cases hreceived
      rfl

/-! ### What an exchange records -/

/-- The entries of an exchange that succeeded: all calls went well, and the answer fits. -/
def Exchanged (settle : Nat) (command answer : Bytes) (size : Nat) (es : List Entry) : Prop :=
  ∃ rested raised sent lowered got : Reply,
    es = [.call (.sleep settle) rested, .call (.rts true) raised, .call (.write command) sent,
      .call (.rts false) lowered, .call (.read answer.length) got] ∧
    raised.failure = none ∧ sent.failure = none ∧ sent.accepted = command.length ∧
    lowered.failure = none ∧ got.failure = none ∧ got.received = answer ∧
    check command answer size = .ok ()

/-- The session behind an exchange that succeeds differs by the entries of the exchange. -/
theorem Succeeds.grows (h : Succeeds settle command answer size s) :
    ∃ es, Grows s (after settle command answer.length s) es ∧
      Exchanged settle command answer size es :=
  ⟨_, ((((grows_called _ s).trans (grows_called _ _)).trans (grows_called _ _)).trans
      (grows_called _ _)).trans (grows_called _ _),
    _, _, _, _, _, rfl, h.raised, h.sent, h.accepted, h.lowered, h.got, h.received, h.fits⟩

end Packet
end DiveLink
