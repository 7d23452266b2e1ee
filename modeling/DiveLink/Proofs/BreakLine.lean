import DiveLink.Proofs.Handle

/-!
# The break condition is always ended

A Sensus Pro listens to a command only behind a handshake, and it cannot talk while the break
condition stands.  Whatever is done with a handle and whatever its link does, each break condition
that was started is ended behind the one read of its frame, also if the frame does not arrive.  A
command goes out only behind a frame that arrived as a whole, ends in its check, and whose break
condition was ended.

## Main definitions

* `SensusPro.breaks` — the levels to which calls set the break line.
* `SensusPro.Placed` — where a call may stand among its neighbours.
* `SensusPro.Orderly` — calls of which each stands where it may, and whose breaks alternate.

## Main results

* `SensusPro.makes_handshake`, `SensusPro.makes_command` — a handshake and a command are orderly,
  however they end.
* `Device.break_always_ended` — **every run of actions on a Sensus Pro is orderly**, and so is
  opening one.
-/

namespace DiveLink

namespace SensusPro

open Session Transcript

/-! ### What is orderly -/

/-- The level to which a call sets the break line, if it does.  A break condition that could not be
started does not count. -/
def breakLevel : Call × Reply → Option Bool
  | (.breakLine true, r) => if r.failure = none then some true else none
  | (.breakLine false, _) => some false
  | _ => none

/-- The levels to which calls set the break line, first things first. -/
def breaks (cs : Transcript) : List Bool := cs.filterMap breakLevel

/-- Where a call may stand, given the calls in front of it and those behind it. -/
def Placed (pre : Transcript) (x : Call × Reply) (post : Transcript) : Prop :=
  match x with
  /- A break condition that was started is ended behind one call, which reads the frame and its
  check. -/
  | (.breakLine true, raised) => raised.failure = none → ∃ got lowered rest,
      post = (.read (handshakeSize + 2), got) :: (.breakLine false, lowered) :: rest
  -- Only a break condition that was started is ended.
  | (.breakLine false, _) => ∃ front raised got,
      pre = front ++ [(.breakLine true, raised), (.read (handshakeSize + 2), got)] ∧
        raised.failure = none
  -- A command stands behind a handshake that succeeded and the rest after it.
  | (.write data, _) => dumpCommand ∈ data ∨ intervalCommand ∈ data →
      ∃ front payload woken rested, pre = front ++ (woken ++ rested) ∧
        Woken handshakeSize (Checksum.withCrc16 payload) woken ∧ Single (.sleep settle) rested
  | _ => True

/-- Break conditions are started and ended in turn, and each call stands where it may. -/
structure Orderly (cs : Transcript) : Prop where
  alternates : ∃ n, breaks cs = (List.replicate n [true, false]).flatten
  placed : Everywhere Placed cs

theorem local_placed : Local Placed := by
  rintro front pre ⟨c, r⟩ post back h
  cases c with
  | breakLine level =>
    cases level with
    | false =>
      obtain ⟨front', raised, got, rfl, hraise⟩ := h
      exact ⟨front ++ front', raised, got, by rw [List.append_assoc], hraise⟩
    | true =>
      intro hraise
      obtain ⟨got, lowered, rest, rfl⟩ := h hraise
      exact ⟨got, lowered, rest ++ back, rfl⟩
  | write data =>
    intro hdata
    obtain ⟨front', payload, woken, rested, rfl, hwoken, hrested⟩ := h hdata
    exact ⟨front ++ front', payload, woken, rested, by rw [List.append_assoc], hwoken, hrested⟩
  | _ => trivial

/-- What is orderly is so behind something orderly. -/
theorem additive_orderly : Additive Orderly where
  nil := ⟨⟨0, rfl⟩, everywhere_nil⟩
  append := by
    rintro cs cs' ⟨⟨n, hn⟩, hplaced⟩ ⟨⟨m, hm⟩, hplaced'⟩
    refine ⟨⟨n + m, ?_⟩, local_placed.additive.append hplaced hplaced'⟩
    unfold breaks at hn hm ⊢
    rw [List.filterMap_append, hn, hm, List.replicate_add, List.flatten_append]

/-! ### Single calls and handshakes -/

/-- A call that neither sets the break line nor sends a command. -/
structure Aside (c : Call) : Prop where
  line : ∀ level, c ≠ .breakLine level
  command : ∀ data, c = .write data → ¬ (dumpCommand ∈ data ∨ intervalCommand ∈ data)

theorem orderly_single {c : Call} (hc : Aside c) (r : Reply) : Orderly [(c, r)] := by
  refine ⟨⟨0, ?_⟩, everywhere_singleton.2 ?_⟩
  · cases c with
    | breakLine level => exact absurd rfl (hc.line level)
    | _ => rfl
  · cases c with
    | breakLine level => exact absurd rfl (hc.line level)
    | write data => exact fun hdata => absurd hdata (hc.command data rfl)
    | _ => trivial

/-- A break condition that could not be started is not ended. -/
theorem orderly_unraised {raised : Reply} {e : IoError} (h : raised.failure = some e) :
    Orderly [(.breakLine true, raised)] := by
  refine ⟨⟨0, by simp [breaks, breakLevel, h]⟩, everywhere_singleton.2 ?_⟩
  exact fun hraise => absurd (h.symm.trans hraise) (by simp)

/-- A break condition that was started is ended behind the read of the frame. -/
theorem orderly_knocking {raised got lowered : Reply} (h : raised.failure = none) :
    Orderly [(.breakLine true, raised), (.read (handshakeSize + 2), got),
      (.breakLine false, lowered)] := by
  refine ⟨⟨1, by simp [breaks, List.filterMap, breakLevel, h]⟩, ?_⟩
  have hlower : Placed [(.breakLine true, raised), (.read (handshakeSize + 2), got)]
      (.breakLine false, lowered) [] := ⟨[], raised, got, rfl, h⟩
  simpa [Placed, h] using hlower

variable {σ δ : Type} [Link σ]

theorem stepwise_orderly :
    Stepwise (σ := σ) (δ := δ) Aside fun x => Makes Orderly x :=
  stepwise_makes additive_orderly fun _ hc => orderly_single hc

/-- **A handshake is orderly, however it ends.** -/
theorem makes_handshake : Makes Orderly (handshake handshakeSize : Op σ δ Bytes) := by
  intro s
  have hmade : Made s (knocked handshakeSize s) (knocking handshakeSize s) :=
    ((made_called _ s).trans (made_called _ _)).trans (made_called _ _)
  have hends := handshaking handshakeSize s
  rcases hrun : run (handshake handshakeSize) s with ⟨r, t⟩
  rw [hrun] at hends
  cases hends with
  | unraised hraise => exact ⟨_, made_called _ s, orderly_unraised hraise⟩
  | unlowered hraise => exact ⟨_, hmade, orderly_knocking hraise⟩
  | unreceived hraise =>
    exact ⟨_, hmade.quiet (made_warned [.handshake] _), orderly_knocking hraise⟩
  | unfit hraise =>
    exact ⟨_, hmade.quiet (made_warned [.answerChecksum] _), orderly_knocking hraise⟩
  | fit hraise => exact ⟨_, hmade, orderly_knocking hraise⟩

/-! ### Operations -/

theorem makes_wake : Makes Orderly (wake : Op σ SensusPro Unit) := by
  have hnil := additive_orderly.nil
  apply makes_handshake.bind additive_orderly
  intro frame
  apply Makes.bind additive_orderly (.bind additive_orderly (.get hnil) fun _ => .pure hnil _)
  intro time
  apply Makes.bind additive_orderly (.remember hnil fun d : SensusPro => { d with
    frame, clock := some ⟨time.toNat, Bytes.le32 (frame.drop 6)⟩ })
  intro _
  apply Makes.bind additive_orderly (.emit hnil _)
  intro _
  apply Makes.bind additive_orderly (.emit hnil _)
  intro _
  exact stepwise_orderly.pause ⟨by simp, by simp⟩

/-- A command goes out behind a handshake that succeeded. -/
theorem orderly_commanded {woken rested : Transcript} {payload : Bytes} (data : Bytes)
    (sent : Reply) (h : Orderly (woken ++ rested))
    (hwoken : Woken handshakeSize (Checksum.withCrc16 payload) woken)
    (hrested : Single (.sleep settle) rested) :
    Orderly (woken ++ rested ++ [(.write data, sent)]) := by
  refine ⟨?_, ?_⟩
  · obtain ⟨n, hn⟩ := h.alternates
    refine ⟨n, ?_⟩
    rw [breaks, List.filterMap_append, ← breaks, hn]
    exact List.append_nil _
  · intro pre x post heq
    rcases List.eq_nil_or_concat post with rfl | ⟨post, last, rfl⟩
    · -- the call is the command itself
      obtain ⟨rfl, hx⟩ := List.append_inj' heq rfl
      cases hx
      exact fun _ => ⟨[], payload, woken, rested, rfl, hwoken, hrested⟩
    · -- the call is one of the handshake
      rw [List.concat_eq_append, ← List.cons_append, ← List.append_assoc] at heq
      have hplaced := h.placed pre x post (List.append_inj' heq rfl).1
      rw [List.concat_eq_append]
      exact local_placed [] pre x post [last] hplaced

/-- **A command is orderly, however it ends.** -/
theorem makes_command (c : UInt8) : Makes Orderly (command c : Op σ SensusPro Unit) := by
  intro s
  obtain ⟨cs, hmade, horderly⟩ := makes_wake s
  -- a handshake that succeeds is one whose frame has arrived
  obtain ⟨cs', hmade', hwoken⟩ := (conducts_wake (B := fun _ => False)).of_ok s
  obtain rfl : cs' = cs := hmade'.unique hmade
  unfold command
  rcases hrun : run wake s with ⟨e | ⟨⟩, t⟩ <;> rw [hrun] at hmade hwoken
  · rw [run_bind_error hrun]
    exact ⟨_, hmade, horderly⟩
  · obtain ⟨payload, woken, rested, rfl, hwoken, hrested⟩ := hwoken () rfl
    rw [run_bind_ok hrun]
    have hcalled := hmade.trans (made_called (.write [c]) t)
    have hcommanded := orderly_commanded [c] (reply (.write [c]) t) horderly hwoken hrested
    rw [run_warning, run_transmit]
    cases (reply (.write [c]) t).fault (reply (.write [c]) t).accepted [c].length with
    | none => exact ⟨_, hcalled, hcommanded⟩
    | some e => exact ⟨_, hcalled.quiet (made_warned [.send] _), hcommanded⟩

theorem makes_receiveStream : ∀ (bs : List Block) (progress : Progress),
    Makes Orderly (receiveStream progress bs : Op σ SensusPro Bytes) := by
  intro bs
  induction bs with
  | nil => exact fun _ => .pure additive_orderly.nil _
  | cons b bs ih =>
    intro progress
    have hnil := additive_orderly.nil
    rw [receiveStream]
    apply Makes.bind additive_orderly (stepwise_orderly.receive ⟨by simp, by simp⟩)
    intro chunk
    cases chunk.outcome with
    | error e =>
      exact .bind additive_orderly (.record hnil [.receive]) fun _ => .throw hnil e
    | ok =>
      apply Makes.bind additive_orderly (.emit hnil _)
      intro _
      exact (ih _).bind additive_orderly fun _ => .pure hnil _

theorem makes_dump : Makes Orderly (dump : Op σ SensusPro Bytes) := by
  have hnil := additive_orderly.nil
  apply Makes.bind additive_orderly (.emit hnil _)
  intro _
  apply (makes_command dumpCommand).bind additive_orderly
  intro _
  apply (makes_receiveStream _ _).bind additive_orderly
  intro stream
  cases Checksum.stripCrc16? stream with
  | some image => exact .pure hnil image
  | none => exact .bind additive_orderly (.record hnil [.answerChecksum]) fun _ => .throw hnil _

omit [Link σ] in
theorem makes_extract (image : Bytes) (keep : List Dive → Bool) :
    Makes Orderly (extract image keep : Op σ SensusPro (List Dive)) :=
  .bind additive_orderly (.get additive_orderly.nil) fun _ => .report additive_orderly.nil _

theorem makes_foreach (keep : List Dive → Bool) :
    Makes Orderly (foreach keep : Op σ SensusPro (List Dive)) :=
  makes_dump.bind additive_orderly fun image => makes_extract image keep

/-- A sample interval is not a command. -/
theorem aside_interval {seconds : Nat} (h : seconds ≤ 127) :
    Aside (.write [UInt8.ofNat seconds]) := by
  refine ⟨by simp, ?_⟩
  rintro _ ⟨⟩
  have hnumber : (UInt8.ofNat seconds).toNat = seconds := by
    rw [UInt8.toNat_ofNat']
    omega
  rintro (hmem | hmem)
  · have hbyte := congrArg UInt8.toNat (List.mem_singleton.1 hmem)
    rw [hnumber] at hbyte
    exact absurd (hbyte ▸ h) (by decide)
  · have hbyte := congrArg UInt8.toNat (List.mem_singleton.1 hmem)
    rw [hnumber] at hbyte
    exact absurd (hbyte ▸ h) (by decide)

theorem makes_writeInterval (seconds : Nat) :
    Makes Orderly (writeInterval seconds : Op σ SensusPro Unit) := by
  unfold writeInterval
  by_cases h : seconds < 1 ∨ 127 < seconds
  · rw [if_pos h]
    exact (Makes.throw additive_orderly.nil _).congr fun _ => rfl
  · rw [if_neg h]
    apply (makes_command intervalCommand).bind additive_orderly
    intro _
    apply (stepwise_orderly.pause ⟨by simp, by simp⟩).bind additive_orderly
    intro _
    exact (stepwise_orderly.transmit (aside_interval (by omega))).warning

theorem makes_openLine : Makes Orderly (openLine : Op σ SensusPro Unit) := by
  apply (stepwise_orderly.attempt ⟨by simp, by simp⟩).warning.bind additive_orderly
  intro _
  apply (stepwise_orderly.attempt ⟨by simp, by simp⟩).warning.bind additive_orderly
  intro _
  exact stepwise_orderly.attempt ⟨by simp, by simp⟩

end SensusPro

namespace Device

open Session Transcript

variable {σ : Type} [Link σ]

theorem orderly_program (op : Operation) :
    Makes SensusPro.Orderly (op.sensusProgram : Op σ SensusPro Receipt) := by
  cases op with
  | dump vector => exact SensusPro.makes_dump.map
  | foreach keep => exact (SensusPro.makes_foreach keep).map
  | writeInterval seconds => exact (SensusPro.makes_writeInterval seconds).map
  | close => exact (SensusPro.stepwise_orderly.attempt (c := .close) ⟨by simp, by simp⟩).map
  -- nothing else is offered
  | _ => exact .throw SensusPro.additive_orderly.nil _

theorem orderly_perform (op : Operation) (d : Device σ) (hd : d.family = .sensusPro) :
    ∃ cs, (op.perform d).2.calls = d.calls ++ cs ∧ SensusPro.Orderly cs := by
  cases d with
  | vyper2 s => exact absurd hd (by simp [family])
  | sensusPro s =>
    obtain ⟨cs, hmade, hcs⟩ := orderly_program op s
    rw [Operation.perform_eq, Operation.deliver_sensusPro]
    exact ⟨cs, hmade.calls, hcs⟩

/-- **Break conditions are always ended.**  Whatever is done with a handle on a Sensus Pro, and
whatever its link does meanwhile, break conditions are started and ended in turn, one read of a
frame apart, unless one could not be started, and no command goes out but behind a handshake that
succeeded.  No break condition is left from opening the handle either. -/
theorem break_always_ended :
    (∀ (link : σ) (token : CancelToken),
      SensusPro.Orderly (openLink .sensusPro link token).calls) ∧
    ∀ (s : Session σ SensusPro) (as : List (Action σ)),
      ∃ cs, (after as (sensusPro s)).calls = s.calls ++ cs ∧ SensusPro.Orderly cs := by
  constructor
  · intro link token
    exact calls_openSession (fun _ => rfl) SensusPro.makes_openLine link _ token
  · intro s as
    exact calls_after SensusPro.additive_orderly orderly_perform as (sensusPro s) rfl

end Device
end DiveLink
