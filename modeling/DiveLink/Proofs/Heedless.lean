import DiveLink.Bench.Rig
import DiveLink.Proofs.Handle

/-!
# A Sensus Pro does not heed its token

The token of a handle can be cancelled at any time, and a Vyper2 looks at it in front of each
exchange.  What is done with a Sensus Pro never looks at it: whichever tokens are cancelled, now or
later, and whichever token the handle has, an operation makes the same calls, hands out the same
dives and ends in the same way.

## Main definitions

* `Link.heeding` — a link with another say on which tokens are cancelled.
* `Session.Heedless x` — the program `x` goes the same way whatever is cancelled.

## Main results

* `Session.Heedless.bind` — what is put together from heedless programs is heedless.
* `SensusPro.heedless_dump` — the memory is read whatever is cancelled.
* `Device.goes_on_when_cancelled` — **an operation on a Sensus Pro goes the same way whatever is
  cancelled.**
-/

namespace DiveLink

variable {σ δ α β : Type}

/-- The link with another say on which tokens are cancelled. -/
@[reducible] def Link.heeding (L : Link σ) (cancelled : CancelToken → σ → Bool) : Link σ :=
  { L with cancelled }

namespace Session

/-- The session under another token. -/
def retoken (token : CancelToken) (s : Session σ δ) : Session σ δ := { s with token }

/-- The program `x` goes the same way whatever is cancelled and under whichever token. -/
def Heedless (x : Link σ → Op σ δ α) : Prop :=
  ∀ (L : Link σ) (cancelled : CancelToken → σ → Bool) (token : CancelToken) (s : Session σ δ),
    run (x (L.heeding cancelled)) (s.retoken token) =
      ((run (x L) s).1, (run (x L) s).2.retoken token)

namespace Heedless

/-! ### Steps without the link -/

theorem pure (a : α) : Heedless (fun _ => pure a : Link σ → Op σ δ α) := fun _ _ _ _ => rfl

theorem throw (e : DeviceError) : Heedless (fun _ => throw e : Link σ → Op σ δ α) :=
  fun _ _ _ _ => rfl

/-- What is put together from heedless programs is heedless. -/
theorem bind {x : Link σ → Op σ δ α} {f : Link σ → α → Op σ δ β} (hx : Heedless x)
    (hf : ∀ a, Heedless fun L => f L a) : Heedless fun L => x L >>= f L := by
  intro L cancelled token s
  rw [run_bind, run_bind, hx L cancelled token s]
  rcases run (x L) s with ⟨e | a, t⟩
  · rfl
  · exact hf a L cancelled token t

theorem map {x : Link σ → Op σ δ α} (f : α → β) (hx : Heedless x) :
    Heedless fun L => f <$> x L := by
  intro L cancelled token s
  rw [run_map, run_map, hx L cancelled token s]

theorem record (es : List Entry) : Heedless (fun _ => record es : Link σ → Op σ δ Unit) :=
  fun _ _ _ _ => rfl

theorem emit (e : Event) : Heedless (fun _ => emit e : Link σ → Op σ δ Unit) := by
  intro L cancelled token s
  rw [run_emit, run_emit]
  by_cases h : s.listening
  · rw [if_pos h, if_pos (show (s.retoken token).listening from h)]
    rfl
  · rw [if_neg h, if_neg (show ¬ (s.retoken token).listening from h)]

theorem warning {x : Link σ → Op σ δ α} (w : Warning) (hx : Heedless x) :
    Heedless fun L => Session.warning w (x L) := by
  intro L cancelled token s
  rw [run_warning, run_warning, hx L cancelled token s]
  rcases run (x L) s with ⟨e | a, t⟩ <;> rfl

theorem report (w : Walk) : Heedless (fun _ => report w : Link σ → Op σ δ (List Dive)) := by
  apply (record _).bind
  intro _
  cases w.fault with
  | none => exact .pure _
  | some f => exact (record _).bind fun _ => .throw _

/-- What is remembered about the device may be changed. -/
theorem remember (f : δ → δ) :
    Heedless (fun _ => modify fun s => { s with device := f s.device } : Link σ → Op σ δ Unit) :=
  fun _ _ _ _ => rfl

/-! ### Steps on the link -/

theorem perform (c : Call) : Heedless (fun _ => perform c : Link σ → Op σ δ Reply) :=
  fun _ _ _ _ => rfl

theorem now : Heedless (fun _ => now : Link σ → Op σ δ Int) := fun _ _ _ _ => rfl

theorem attempt (c : Call) : Heedless (fun _ => attempt c : Link σ → Op σ δ Unit) := by
  apply (perform c).bind
  intro r
  cases r.failure with
  | none => exact .pure ()
  | some e => exact .throw _

theorem pause (ms : Nat) : Heedless (fun _ => pause ms : Link σ → Op σ δ Unit) :=
  (perform _).bind fun _ => .pure ()

theorem receive (n : Nat) : Heedless (fun _ => receive n : Link σ → Op σ δ Receipt) :=
  (perform _).bind fun _ => .pure _

theorem transmit (data : Bytes) : Heedless (fun _ => transmit data : Link σ → Op σ δ Unit) := by
  apply (perform _).bind
  intro r
  cases r.failure with
  | some e => exact .throw _
  | none =>
    by_cases h : r.accepted = data.length
    · simp only [if_pos h]
      exact .pure ()
    · simp only [if_neg h]
      exact .throw _

end Heedless
end Session

namespace SensusPro

open Session

/-! ### Operations -/

/-- A handshake does not look at the token, unlike an exchange. -/
theorem heedless_handshake (size : Nat) :
    Heedless (fun _ => handshake size : Link σ → Op σ δ Bytes) := by
  apply (Heedless.attempt _).bind
  intro _
  apply (Heedless.receive _).bind
  intro frame
  apply (Heedless.attempt _).bind
  intro _
  cases frame.outcome with
  | error e => exact (Heedless.record _).bind fun _ => .throw e
  | ok =>
    cases Checksum.stripCrc16? frame.bytes with
    | some payload => exact .pure payload
    | none => exact (Heedless.record _).bind fun _ => .throw _

theorem heedless_command (c : UInt8) :
    Heedless (fun _ => command c : Link σ → Op σ SensusPro Unit) := by
  have hwake : Heedless (fun _ => wake : Link σ → Op σ SensusPro Unit) := by
    apply (heedless_handshake handshakeSize).bind
    intro frame
    apply Heedless.now.bind
    intro time
    apply (Heedless.remember fun d : SensusPro => { d with
      frame, clock := some ⟨time.toNat, Bytes.le32 (frame.drop 6)⟩ }).bind
    intro _
    exact (Heedless.emit _).bind fun _ => (Heedless.emit _).bind fun _ => .pause _
  exact hwake.bind fun _ => (Heedless.transmit [c]).warning _

theorem heedless_receiveStream : ∀ (bs : List Block) (progress : Progress),
    Heedless (fun _ => receiveStream progress bs : Link σ → Op σ SensusPro Bytes) := by
  intro bs
  induction bs with
  | nil => exact fun _ => .pure []
  | cons b bs ih =>
    intro progress
    simp only [receiveStream]
    apply (Heedless.receive _).bind
    intro chunk
    cases chunk.outcome with
    | error e => exact (Heedless.record _).bind fun _ => .throw e
    | ok =>
      apply (Heedless.emit _).bind
      intro _
      exact (ih _).bind fun _ => .pure _

/-- The memory is read whatever is cancelled. -/
theorem heedless_dump : Heedless (fun _ => dump : Link σ → Op σ SensusPro Bytes) := by
  apply (Heedless.emit _).bind
  intro _
  apply (heedless_command dumpCommand).bind
  intro _
  apply (heedless_receiveStream _ _).bind
  intro stream
  cases Checksum.stripCrc16? stream with
  | some image => exact .pure image
  | none => exact (Heedless.record _).bind fun _ => .throw _

theorem heedless_foreach (keep : List Dive → Bool) :
    Heedless (fun _ => foreach keep : Link σ → Op σ SensusPro (List Dive)) := by
  apply heedless_dump.bind
  intro image L cancelled token s
  -- which dives are known is remembered about the device, and not a matter of the token
  have hreport : Heedless (fun _ => report (divesIn s.device.timestamp keep image) :
      Link σ → Op σ SensusPro (List Dive)) := .report _
  exact hreport L cancelled token s

theorem heedless_writeInterval (seconds : Nat) :
    Heedless (fun _ => writeInterval seconds : Link σ → Op σ SensusPro Unit) := by
  unfold writeInterval
  by_cases h : seconds < 1 ∨ 127 < seconds
  · simp only [if_pos h]
    exact .throw _
  · simp only [if_neg h]
    apply (heedless_command intervalCommand).bind
    intro _
    exact (Heedless.pause _).bind fun _ => (Heedless.transmit _).warning _

end SensusPro

namespace Device

open Session

theorem heedless_program (op : Operation) :
    Heedless (fun _ => op.sensusProgram : Link σ → Op σ SensusPro Receipt) := by
  cases op with
  | dump vector => exact SensusPro.heedless_dump.map _
  | foreach keep => exact (SensusPro.heedless_foreach keep).map _
  | writeInterval seconds => exact (SensusPro.heedless_writeInterval seconds).map _
  | close => exact (Heedless.attempt .close).map _
  -- nothing else is offered
  | _ => exact .throw _

/-- **An operation on a Sensus Pro goes the same way whatever is cancelled**, when it begins or
later on, and whichever token the handle has: what the caller gets, the calls, the dives handed out
and all that is remembered are the same, and it never ends as one that was cancelled. -/
theorem goes_on_when_cancelled (L : Link σ) (op : Operation) (s : Session σ SensusPro) :
    (∀ (cancelled : CancelToken → σ → Bool) (token : CancelToken),
      @Operation.deliver σ (L.heeding cancelled) op ((sensusPro s).setToken token) =
        (op.deliver (sensusPro s)).map id (setToken token)) ∧
      (op.deliver (sensusPro s)).1.outcome ≠ .error .cancelled := by
  constructor
  · intro cancelled token
    have hsame := heedless_program op L cancelled token s
    have hdeliver := @Operation.deliver_sensusPro σ (L.heeding cancelled) op (s.retoken token)
    rw [Operation.deliver_sensusPro]
    rw [hsame] at hdeliver
    exact hdeliver
  · intro hcancelled
    obtain ⟨cs, -, hfails⟩ := perform_failsFast op (sensusPro s)
    rw [Operation.perform_eq] at hfails
    exact absurd (hfails.cancelled hcancelled).1 (by simp [family])

/-- The token of a handle is cancelled before anything is done with it.  A sample interval is
changed all the same, and a download sends its command and ends only because no stream arrives. -/
theorem goes_on_with_cancelled_token :
    let frame : Bytes := [0x02, 0x15, 0x00, 0x00, 0x39, 0x30, 0x10, 0x27, 0x00, 0x00]
    let bench : Bench.LinkBench :=
      { rig := { waiting := Checksum.withCrc16 frame },
        around := { now := 1600000000, cancelled := [⟨0⟩] } }
    ∃ d, openLink .sensusPro bench ⟨0⟩ = .opened d ∧ Link.cancelled d.token d.link = true ∧
      ((Operation.writeInterval 10).perform d).1 = .ok () ∧
      ((Operation.writeInterval 10).perform d).2.calls.map Prod.fst = d.calls.map Prod.fst ++
        [.breakLine true, .read 12, .breakLine false, .sleep 10, .write [0xB5], .sleep 10,
          .write [0x0A]] ∧
      ((Operation.foreach fun _ => true).perform d).1 = .error .timeout ∧
      ((Operation.foreach fun _ => true).perform d).2.calls.map Prod.fst = d.calls.map Prod.fst ++
        [.breakLine true, .read 12, .breakLine false, .sleep 10, .write [0xB4], .read 256] := by
  intro frame bench
  obtain ⟨d, hd⟩ : ∃ d, d = sensusPro (Session.run SensusPro.openLine
    (.start bench SensusPro.fresh ⟨0⟩)).2 := ⟨_, rfl⟩
  have hopen : openLink .sensusPro bench ⟨0⟩ = .opened d := by
    rw [hd]
    rfl
  refine ⟨d, hopen, ?_⟩
  rw [hd]
  decide +kernel

end Device
end DiveLink
