import DiveLink.Proofs.Dump

/-!
# Operations fail fast

Whatever an operation does with its link, it makes no call behind one that goes wrong, and gives the
error of that call; only a break condition is ended first.  No operation blames the link, a
cancellation or the device without a reason.

## Main definitions

* `Device.Operation` — what can be done with an open device.
* `Device.Rejected` — all bytes of an answer, a frame or a stream have arrived, and they do not fit.
* `Device.FailsFast` — how the error of an operation goes with its calls.

## Main results

* `Device.fails_fast` — **every operation fails fast**, and so does opening a device.
-/

namespace DiveLink
namespace Device

open Session Transcript

variable {σ α : Type}

/-! ### Errors and their reasons -/

/-- The last of the calls have brought all bytes of an answer, a frame or a stream, and these do not
fit. -/
inductive Rejected : Transcript → ProtocolError → Prop
  /-- The answer to a request does not fit the command. -/
  | answer {cs part : Transcript} {q : Vyper2.Request} {bytes : Bytes} {f : AnswerFault}
      (h : Vyper2.Transferred q bytes part)
      (hf : Packet.check q.command bytes q.size = .error f) : Rejected (cs ++ part) f.error
  /-- The frame behind a break condition does not end in its check. -/
  | frame {cs part : Transcript} {size : Nat} {bytes : Bytes}
      (h : SensusPro.Woken size bytes part) (hf : Checksum.stripCrc16? bytes = none) :
      Rejected (cs ++ part) .badChecksum
  /-- The stream of the memory does not end in its check. -/
  | stream {cs part : Transcript} {bytes : Bytes}
      (h : SensusPro.Chunks (Block.tile SensusPro.chunkSize 0 SensusPro.streamSize) bytes part)
      (hf : Checksum.stripCrc16? bytes = none) : Rejected (cs ++ part) .badChecksum

variable [Link σ]

/-- An operation on a device of a family made the calls `cs`, left the link in the state `link`, and
ended with `result`: it fails fast, and an error that is not of the link has its reason.  What a
Vyper2 is asked for follows a plan. -/
structure FailsFast (family : Family) (plan : List Bytes → List Vyper2.Request)
    (token : CancelToken) (link : σ) (cs : Transcript) (result : Except DeviceError α) : Prop
    extends Transcript.FailsFast cs result where
  /-- Only a Vyper2 is given up on request, and then in front of the next exchange. -/
  cancelled : result = .error .cancelled →
    family = .vyper2 ∧ Link.cancelled token link = true ∧ Vyper2.Pending plan cs
  /-- The device is blamed only for what has arrived. -/
  protocol : ∀ p, result = .error (.protocol p) → Rejected cs p

variable {P : α → Transcript → Prop} {token : CancelToken} {link : σ} {cs : Transcript}
  {result : Except DeviceError α} {plan : List Bytes → List Vyper2.Request}

/-- Whoever makes exchanges fails fast. -/
theorem failsFast_of_packets
    (h : Course Vyper2.packets P (Vyper2.Pending plan) token link cs result) :
    FailsFast .vyper2 plan token link cs result := by
  refine ⟨h.failsFast, ?_, ?_⟩
  · rintro rfl
    exact ⟨rfl, h.of_cancelled⟩
  · rintro p rfl
    cases h with
    | broken _ h =>
      obtain ⟨q, answer, f, htransferred, hf, rfl⟩ := h.of_protocol
      exact .answer htransferred hf

/-- Whoever makes single calls fails fast, and is never given up. -/
theorem failsFast_of_streaming (family : Family)
    (h : Course SensusPro.streaming P (fun _ => False) token link cs result) :
    FailsFast family plan token link cs result := by
  refine ⟨h.failsFast, ?_, ?_⟩
  · rintro rfl
    exact absurd h.of_cancelled.2 id
  · rintro p rfl
    cases h with
    | broken _ h =>
      -- a stream breaks off at a call that failed, or at a check that does not fit
      rcases h.reason with h | h | ⟨h, bytes, hcrc, ⟨size, hwoken⟩ | hchunks⟩
      · exact absurd h Bool.false_ne_true
      · exact absurd h Bool.false_ne_true
      · cases h
        exact .frame hwoken hcrc
      · cases h
        exact .stream hchunks hcrc

/-! ### Operations -/

/-- What can be done with an open device over its link. -/
inductive Operation
  | version (room : Nat)
  | read (address length : Nat)
  | write (address : Nat) (data : Bytes)
  /-- Into a vector that holds some bytes. -/
  | dump (vector : Bytes)
  /-- For as long as the caller says so. -/
  | foreach (keep : List Dive → Bool)
  | resetMaxDepth
  | writeInterval (seconds : Nat)
  | close

namespace Operation

/-- How an operation ends, and the device behind it. -/
def perform : Operation → Device σ → Except DeviceError Unit × Device σ
  | version room, d => (d.version room).map Receipt.outcome id
  | read address length, d => (d.read address length).map Receipt.outcome id
  | write address data, d => d.write address data
  | dump vector, d => (d.dumpInto vector).map Receipt.outcome id
  | foreach keep, d => (d.foreach keep).map (Except.map fun _ => ()) id
  | resetMaxDepth, d => d.resetMaxDepth
  | writeInterval seconds, d => d.writeInterval seconds
  | close, d => d.close

/-- What a Vyper2 is asked for in the course of an operation that is not refused, given the data
that came back so far. -/
def requests : Operation → List Bytes → List Vyper2.Request
  | version _, _ => [.version]
  | read address length, _ => Vyper2.readPlan address length
  | write address data, _ => Vyper2.writePlan address data
  | dump _, _ => Vyper2.dumpPlan
  | foreach _, ds => Vyper2.downloadPlan ds
  | resetMaxDepth, _ => [.reset]
  | writeInterval _, _ | close, _ => []

end Operation

/-- What comes of an operation of the device's family. -/
theorem run_failsFast {x : Op σ SensusPro Unit} {y : Op σ Vyper2 Unit}
    (hx : Conducts SensusPro.streaming (fun _ _ => True) (fun _ => False) x)
    (hy : Conducts Vyper2.packets (fun _ _ => True) (Vyper2.Pending plan) y ∨
      Conducts SensusPro.streaming (fun _ _ => True) (fun _ => False) y) (d : Device σ) :
    ∃ cs, (run x y d).2.calls = d.calls ++ cs ∧
      FailsFast d.family plan d.token (run x y d).2.link cs (run x y d).1 := by
  cases d with
  -- the token is the same behind the run, so the course may be told with it
  | sensusPro s =>
    obtain ⟨cs, hmade, hcourse⟩ := hx s
    rw [hmade.token] at hcourse
    exact ⟨cs, hmade.calls, failsFast_of_streaming _ hcourse⟩
  | vyper2 s =>
    rcases hy with hy | hy
    · obtain ⟨cs, hmade, hcourse⟩ := hy s
      rw [hmade.token] at hcourse
      exact ⟨cs, hmade.calls, failsFast_of_packets hcourse⟩
    · obtain ⟨cs, hmade, hcourse⟩ := hy s
      rw [hmade.token] at hcourse
      exact ⟨cs, hmade.calls, failsFast_of_streaming _ hcourse⟩

section Results

omit [Link σ]

theorem map_run {β : Type} (f : α → β) (x : Op σ SensusPro α) (y : Op σ Vyper2 α) (d : Device σ) :
    (run x y d).map (Except.map f) id = run (f <$> x) (f <$> y) d := by
  cases d with
  | sensusPro s =>
    rw [run_sensusPro, run_sensusPro, run_map]
    rfl
  | vyper2 s =>
    rw [run_vyper2, run_vyper2, run_map]
    rfl

/-- How a transfer into a buffer ends. -/
theorem map_fill (x : Op σ SensusPro Receipt) (y : Op σ Vyper2 Receipt) (d : Device σ) :
    (fill x y d).map Receipt.outcome id = run (ending x) (ending y) d := by
  cases d with
  | sensusPro s =>
    rw [fill, run_sensusPro, run_sensusPro, ending, run_bind]
    rcases Session.run x s with ⟨e | r, t⟩
    · rfl
    · simp only [run_lift]
      rfl
  | vyper2 s =>
    rw [fill, run_vyper2, run_vyper2, ending, run_bind]
    rcases Session.run y s with ⟨e | r, t⟩
    · rfl
    · simp only [run_lift]
      rfl

end Results

/-- What a family does not offer makes no call. -/
theorem conducts_ending_unsupported {δ : Type} {D : Discipline} {B : Transcript → Prop} :
    Conducts D (fun _ _ => True) B (ending unsupported : Op σ δ Unit) :=
  (Conducts.refuse rfl).congr fun _ => rfl

/-- Each operation is one of exchanges or one of single calls. -/
theorem perform_failsFast (op : Operation) (d : Device σ) :
    ∃ cs, (op.perform d).2.calls = d.calls ++ cs ∧
      FailsFast d.family op.requests d.token (op.perform d).2.link cs (op.perform d).1 := by
  cases op with
  -- each operation is one program for each family; a family that lacks it refuses without a call
  | version room =>
    rw [Operation.perform, version, map_fill]
    exact run_failsFast conducts_ending_unsupported (.inl (Vyper2.conducts_version room)) d
  | read address length =>
    rw [Operation.perform, read, map_fill]
    exact run_failsFast conducts_ending_unsupported (.inl (Vyper2.conducts_read address length)) d
  | write address data =>
    exact run_failsFast (.refuse rfl) (.inl (Vyper2.conducts_write address data)) d
  | dump vector =>
    rw [Operation.perform, dumpInto_eq, dump, map_fill]
    exact run_failsFast SensusPro.conducts_dump.ending_whole
      (.inl Vyper2.conducts_dump.ending_whole) d
  | foreach keep =>
    rw [Operation.perform, foreach, map_run]
    exact run_failsFast ((SensusPro.conducts_foreach keep).map fun _ _ h => h)
      (.inl ((Vyper2.conducts_foreach keep).map fun _ _ h => h)) d
  | resetMaxDepth => exact run_failsFast (.refuse rfl) (.inl Vyper2.conducts_resetMaxDepth) d
  | writeInterval seconds =>
    exact run_failsFast (SensusPro.conducts_writeInterval seconds) (.inl (.refuse rfl)) d
  | close => exact run_failsFast SensusPro.conducts_close (.inr SensusPro.conducts_close) d

end Device

/-! ### Opening -/

namespace Opening

variable {σ : Type}

/-- How an attempt to open a device ends. -/
def result {ρ : Type} : Opening σ ρ → Except DeviceError Unit
  | opened _ => .ok ()
  | refused e _ _ => .error e

/-- The link behind an attempt to open a device on it. -/
def link : Opening σ σ → σ
  | opened d => d.link
  | refused _ l _ => l

/-- The calls of an attempt to open a device. -/
def calls {ρ : Type} : Opening σ ρ → Transcript
  | opened d => d.calls
  | refused _ _ past => past.reverse.filterMap Entry.call?

end Opening

namespace Device

open Session

variable {σ : Type} [Link σ]

/-- What comes of setting up a session: nothing is asked for. -/
theorem openSession_failsFast {δ : Type} {wrap : Session σ δ → Device σ} {setUp : Op σ δ Unit}
    (hconducts : Conducts SensusPro.streaming (fun _ _ => True) (fun _ => False) setUp)
    (hlink : ∀ s, (wrap s).link = s.link) (hcalls : ∀ s, (wrap s).calls = s.calls)
    (family : Family) (link : σ) (device : δ) (token : CancelToken) :
    FailsFast family (fun _ => []) token
      (openSession wrap setUp (.start link device token)).link
        (openSession wrap setUp (.start link device token)).calls
          (openSession wrap setUp (.start link device token)).result := by
  obtain ⟨cs, hmade, hcourse⟩ := hconducts (.start link device token)
  -- no call was made before
  obtain rfl : (Session.run setUp (.start link device token)).2.calls = cs := hmade.calls
  rw [hmade.token] at hcourse
  have hfails : FailsFast family (fun _ => []) token _ _ _ := failsFast_of_streaming family hcourse
  unfold openSession
  rcases hrun : Session.run setUp (.start link device token) with ⟨e | ⟨⟩, t⟩ <;>
    rw [hrun] at hfails
  · exact hfails
  · simp only [Opening.link, Opening.calls, Opening.result, hlink, hcalls]
    exact hfails

/-- **Every operation fails fast**, and so does opening a device on a link. -/
theorem fails_fast :
    (∀ (op : Operation) (d : Device σ), ∃ cs, (op.perform d).2.calls = d.calls ++ cs ∧
      FailsFast d.family op.requests d.token (op.perform d).2.link cs (op.perform d).1) ∧
    ∀ (family : Family) (link : σ) (token : CancelToken),
      FailsFast family (fun _ => []) token (openLink family link token).link
        (openLink family link token).calls (openLink family link token).result := by
  refine ⟨perform_failsFast, fun family link token => ?_⟩
  cases family with
  | sensusPro =>
    exact openSession_failsFast SensusPro.conducts_openLine (fun _ => rfl) (fun _ => rfl) _ _ _ _
  | vyper2 =>
    exact openSession_failsFast SensusPro.conducts_openLine_vyper2 (fun _ => rfl) (fun _ => rfl)
      _ _ _ _

end Device
end DiveLink
