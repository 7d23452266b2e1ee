import DiveLink.Proofs.Block
import DiveLink.Proofs.Checksum
import DiveLink.Proofs.Session.Discipline
import DiveLink.SensusPro
import DiveLink.Vyper2

/-!
# Calls made one by one

A Sensus Pro is not asked for packets: it is woken by a break condition, sent a byte, and read until
its stream ends.  Frame and stream end in a check, and are judged when all of their bytes are there.
A line is set up and closed by single calls as well.

## Main definitions

* `SensusPro.Woken` — the calls of a handshake whose frame has arrived.
* `SensusPro.Chunks` — the reads of a stream.
* `SensusPro.streaming` — the discipline of single calls.
* `SensusPro.Handshaking` — the ways in which a handshake ends.
* `SensusPro.Dumped` — all calls by which the memory is read.

## Main results

* `SensusPro.handshaking` — **a handshake ends in one of these ways.**
* `SensusPro.conducts_handshake` — **a frame arrives, or the handshake breaks off.**
* `SensusPro.conducts_dump` — the calls by which the memory is read.
-/

namespace DiveLink

namespace SensusPro

open Session Transcript

variable {cs cs' : Transcript} {bytes bytes' : Bytes} {bs bs' : List Block}

/-! ### Frames and streams -/

/-- The calls by which the frame behind a break condition was received, each without fault. -/
def Woken (size : Nat) (frame : Bytes) (cs : Transcript) : Prop :=
  Clean cs ∧ ∃ raised got lowered : Reply,
    cs = [(.breakLine true, raised), (.read (size + 2), got), (.breakLine false, lowered)] ∧
      got.received = frame

theorem woken_of_faultless {size : Nat} {raised got lowered : Reply}
    (hraise : raised.failure = none)
    (hgot : got.fault got.received.length (size + 2) = none) (hlower : lowered.failure = none) :
    Woken size got.received ([(.breakLine true, raised)] ++ [(.read (size + 2), got)] ++
      [(.breakLine false, lowered)]) := by
  refine ⟨?_, raised, got, lowered, rfl, rfl⟩
  exact clean_cons.2 ⟨by simp [hraise], clean_cons.2 ⟨hgot, clean_cons.2 ⟨by simp [hlower], .nil⟩⟩⟩

theorem Woken.settled {size : Nat} {frame : Bytes} (h : Woken size frame cs) : Settled cs := by
  obtain ⟨hclean, raised, got, lowered, rfl, -⟩ := h
  rw [show ([(.breakLine true, raised), (.read (size + 2), got), (.breakLine false, lowered)] :
    Transcript) = [(.breakLine true, raised), (.read (size + 2), got)] ++
      [(.breakLine false, lowered)] from rfl] at hclean ⊢
  exact .concat hclean (by simp)

/-- The bytes of a stream were read block by block, each block as a whole. -/
structure Chunks (bs : List Block) (bytes : Bytes) (cs : Transcript) : Prop where
  clean : Clean cs
  reads : cs.map Prod.fst = bs.map fun b => .read b.size
  bytes : bytes = cs.flatMap fun x => x.2.received

theorem Chunks.nil : Chunks [] [] [] := ⟨.nil, rfl, rfl⟩

theorem Chunks.append (h : Chunks bs bytes cs) (h' : Chunks bs' bytes' cs') :
    Chunks (bs ++ bs') (bytes ++ bytes') (cs ++ cs') where
  clean := clean_append.2 ⟨h.clean, h'.clean⟩
  reads := by rw [List.map_append, List.map_append, h.reads, h'.reads]
  bytes := by rw [List.flatMap_append, h.bytes, h'.bytes]

theorem Chunks.settled (h : Chunks bs bytes cs) : Settled cs := by
  refine .of_forall fun x hx => ⟨h.clean x hx, ?_⟩
  have hread := List.mem_map_of_mem (f := Prod.fst) hx
  rw [h.reads, List.mem_map] at hread
  obtain ⟨b, -, hb⟩ := hread
  rw [← hb]
  simp

/-- As many bytes were read as the blocks have addresses. -/
theorem Chunks.length (h : Chunks bs bytes cs) :
    bytes.length = (bs.flatMap RingAddress.addresses).length := by
  obtain ⟨hclean, hreads, rfl⟩ := h
  induction bs generalizing cs with
  | nil =>
    rw [List.map_nil, List.map_eq_nil_iff] at hreads
    rw [hreads]
    rfl
  -- each read of a clean transcript brought all of its block
  | cons b bs ih =>
    obtain ⟨⟨c, r⟩, rest, rfl, hc, hrest⟩ := List.map_eq_cons_iff.1 hreads
    obtain rfl : c = .read b.size := hc
    obtain ⟨hfirst, hothers⟩ := clean_cons.1 hclean
    have hread : r.received.length = b.size := (Reply.fault_eq_none.1 hfirst).2
    rw [List.flatMap_cons, List.length_append, ih hothers hrest, hread, List.flatMap_cons,
      List.length_append, RingAddress.addresses, List.length_range']

theorem Chunks.length_tile {most address length : Nat} (hm : most ≠ 0)
    (h : Chunks (Block.tile most address length) bytes cs) : bytes.length = length := by
  rw [h.length, Block.tile_addresses hm, List.length_range']

/-! ### The discipline of single calls -/

/-- How an operation breaks off that makes its calls one by one. -/
inductive BreaksOff : Transcript → DeviceError → Prop
  /-- There is nothing more to do. -/
  | refused {e : DeviceError} (h : e.isRefusal = true) : BreaksOff [] e
  /-- A call went wrong. -/
  | failed {cs : Transcript} {c : Call} {r : Reply} {e : DeviceError} (h : Settled cs)
      (hf : c.fault r = some e) : BreaksOff (cs ++ [(c, r)]) e
  /-- The frame did not arrive, and the break condition was ended. -/
  | unwoken {n : Nat} {r₁ r₂ r₃ : Reply} {e : DeviceError}
      (h : (Call.breakLine true).fault r₁ = none) (hf : (Call.read n).fault r₂ = some e) :
      BreaksOff [(.breakLine true, r₁), (.read n, r₂), (.breakLine false, r₃)]
        (((Call.breakLine false).fault r₃).getD e)
  /-- The frame has arrived, and its check is wrong. -/
  | badFrame {size : Nat} {frame : Bytes} {cs : Transcript} (h : Woken size frame cs)
      (hcrc : Checksum.stripCrc16? frame = none) : BreaksOff cs (.protocol .badChecksum)
  /-- The stream has arrived, and its check is wrong. -/
  | badStream {stream : Bytes} {cs : Transcript}
      (h : Chunks (Block.tile chunkSize 0 streamSize) stream cs)
      (hcrc : Checksum.stripCrc16? stream = none) : BreaksOff cs (.protocol .badChecksum)

/-- An operation breaks off for a reason of its own, because of the link, or because a frame or a
stream has arrived that does not end in its check. -/
theorem BreaksOff.reason {e : DeviceError} (h : BreaksOff cs e) :
    e.isRefusal = true ∨ e.isRetryable = true ∨ e = .protocol .badChecksum ∧
      ∃ bytes, Checksum.stripCrc16? bytes = none ∧ ((∃ size, Woken size bytes cs) ∨
        Chunks (Block.tile chunkSize 0 streamSize) bytes cs) := by
  cases h with
  | refused h => exact .inl h
  | failed _ hf => exact .inr (.inl (Call.isRetryable_fault hf))
  | @unwoken _ _ _ lowered _ _ hf =>
    refine .inr (.inl ?_)
    cases hlower : (Call.breakLine false).fault lowered with
    | none => exact Call.isRetryable_fault hf
    | some e' => exact Call.isRetryable_fault hlower
  | badFrame h hcrc => exact .inr (.inr ⟨rfl, _, hcrc, .inl ⟨_, h⟩⟩)
  | badStream h hcrc => exact .inr (.inr ⟨rfl, _, hcrc, .inr h⟩)

/-- Operations are made of single calls. -/
def streaming : Discipline where
  whole := Settled
  breaksOff := BreaksOff
  nil := .nil
  append := .append
  refuse := .refused
  settled := id
  broken := by
    intro cs e h
    cases h with
    | refused h => exact .refused .nil (DeviceError.isRetryable_of_refusal h)
    | failed h hf => exact .failed h hf
    | unwoken h hf => exact .unwoken h hf
    | badFrame h => exact .refused h.settled rfl
    | badStream h => exact .refused h.settled rfl
  kept := by
    intro cs h
    rcases h.reason with h | h | ⟨h, -⟩
    · exact absurd h Bool.false_ne_true
    · exact absurd h Bool.false_ne_true
    · exact absurd h (by simp)

variable {σ δ : Type} [Link σ] {B : Transcript → Prop}

/-! ### Single calls -/

/-- The calls `cs` are a single one, which went well. -/
def Single (c : Call) (cs : Transcript) : Prop := ∃ r, cs = [(c, r)] ∧ c.fault r = none

theorem Single.settled {c : Call} (h : Single c cs) (hc : c ≠ .breakLine true) : Settled cs := by
  obtain ⟨r, rfl, hf⟩ := h
  exact Settled.nil.push hf hc

theorem conducts_attempt {c : Call} (hc : c ≠ .breakLine true)
    (hfault : ∀ r, c.fault r = r.failure.map .io) :
    Conducts streaming (fun _ cs => Single c cs) B (attempt c : Op σ δ Unit) := by
  intro s
  rw [run_attempt_eq]
  refine ⟨_, made_called c s, ?_⟩
  cases hreply : (reply c s).failure with
  | none =>
    have hf : c.fault (reply c s) = none := by rw [hfault, hreply]; rfl
    exact .done (Settled.nil.push hf hc) ⟨_, rfl, hf⟩
  | some e =>
    have hf : c.fault (reply c s) = some (.io e) := by rw [hfault, hreply]; rfl
    exact .first (.failed .nil hf)

theorem conducts_pause (ms : Nat) :
    Conducts streaming (fun _ cs => Single (.sleep ms) cs) B (pause ms : Op σ δ Unit) := by
  intro s
  rw [run_pause_eq]
  have hsingle : Single (.sleep ms) [(.sleep ms, reply (.sleep ms) s)] := ⟨_, rfl, rfl⟩
  exact ⟨_, made_called (.sleep ms) s, .done (hsingle.settled (by simp)) hsingle⟩

theorem conducts_transmit (data : Bytes) :
    Conducts streaming (fun _ cs => Single (.write data) cs) B (transmit data : Op σ δ Unit) := by
  intro s
  rw [run_transmit]
  refine ⟨_, made_called (.write data) s, ?_⟩
  cases hf : (reply (.write data) s).fault (reply (.write data) s).accepted data.length with
  | none => exact .done (Settled.nil.push hf (by simp)) ⟨_, rfl, hf⟩
  | some e => exact .first (.failed .nil hf)

/-! ### Handshakes -/

/-- The reply to the read of a handshake. -/
def frameReply (size : Nat) (s : Session σ δ) : Reply :=
  reply (.read (size + 2)) (called (.breakLine true) s)

/-- The reply to the end of the break condition. -/
def lowerReply (size : Nat) (s : Session σ δ) : Reply :=
  reply (.breakLine false) (called (.read (size + 2)) (called (.breakLine true) s))

/-- The session behind the calls of a handshake. -/
def knocked (size : Nat) (s : Session σ δ) : Session σ δ :=
  called (.breakLine false) (called (.read (size + 2)) (called (.breakLine true) s))

/-- The calls of a handshake with their replies. -/
def knocking (size : Nat) (s : Session σ δ) : Transcript :=
  [(.breakLine true, reply (.breakLine true) s), (.read (size + 2), frameReply size s),
    (.breakLine false, lowerReply size s)]

theorem grows_knocked (size : Nat) (s : Session σ δ) :
    Grows s (knocked size s) ((knocking size s).map fun x => .call x.1 x.2) :=
  ((grows_called _ s).trans (grows_called _ _)).trans (grows_called _ _)

/-- How a handshake ends, and the session behind it. -/
inductive Handshaking (size : Nat) (s : Session σ δ) :
    Except DeviceError Bytes → Session σ δ → Prop
  | unraised {e : IoError} (hraise : (reply (.breakLine true) s).failure = some e) :
      Handshaking size s (.error (.io e)) (called (.breakLine true) s)
  /-- If the break condition cannot be ended the frame does not matter. -/
  | unlowered {e : IoError} (hraise : (reply (.breakLine true) s).failure = none)
      (hlower : (lowerReply size s).failure = some e) :
      Handshaking size s (.error (.io e)) (knocked size s)
  | unreceived {e : DeviceError} (hraise : (reply (.breakLine true) s).failure = none)
      (hlower : (lowerReply size s).failure = none)
      (hread : (frameReply size s).fault (frameReply size s).received.length (size + 2) = some e) :
      Handshaking size s (.error e) (warned [.handshake] (knocked size s))
  | unfit (hraise : (reply (.breakLine true) s).failure = none)
      (hlower : (lowerReply size s).failure = none)
      (hread : (frameReply size s).fault (frameReply size s).received.length (size + 2) = none)
      (hcrc : Checksum.stripCrc16? (frameReply size s).received = none) :
      Handshaking size s (.error (.protocol .badChecksum))
        (warned [.answerChecksum] (knocked size s))
  | fit {payload : Bytes} (hraise : (reply (.breakLine true) s).failure = none)
      (hlower : (lowerReply size s).failure = none)
      (hread : (frameReply size s).fault (frameReply size s).received.length (size + 2) = none)
      (hframe : (frameReply size s).received = Checksum.withCrc16 payload) :
      Handshaking size s (.ok payload) (knocked size s)

/-- **A handshake ends in one of these ways.** -/
theorem handshaking (size : Nat) (s : Session σ δ) :
    Handshaking size s (run (handshake size) s).1 (run (handshake size) s).2 := by
  unfold handshake
  rw [run_bind, run_attempt_eq]
  cases hraise : (reply (.breakLine true) s).failure with
  | some e => exact .unraised hraise
  | none =>
    simp only [Option.elim_none]
    rw [run_bind_ok (run_receive _ _), ← frameReply, run_bind, run_attempt_eq, ← lowerReply,
      ← knocked]
    cases hlower : (lowerReply size s).failure with
    | some e => exact .unlowered hraise hlower
    | none =>
      simp only [Option.elim_none]
      cases hread : (frameReply size s).fault (frameReply size s).received.length (size + 2) with
      | some e => exact .unreceived hraise hlower hread
      | none =>
        -- all bytes have arrived, and the check decides
        have hlength := (Reply.fault_eq_none.1 hread).2
        simp only [Option.elim_none]
        rw [List.take_of_length_le (Nat.le_of_eq hlength)]
        cases hcrc : Checksum.stripCrc16? (frameReply size s).received with
        | none => exact .unfit hraise hlower hread hcrc
        | some payload =>
          exact .fit hraise hlower hread (Checksum.eq_withCrc16_of_strip (by omega) hcrc)

/-- **A frame arrives, or the handshake breaks off.** -/
theorem conducts_handshake (size : Nat) :
    Conducts streaming (fun payload cs => Woken size (Checksum.withCrc16 payload) cs) B
      (handshake size : Op σ δ Bytes) := by
  intro s
  have hmade : Made s (knocked size s) (knocking size s) :=
    ((made_called _ s).trans (made_called _ _)).trans (made_called _ _)
  have hends := handshaking size s
  rcases hrun : run (handshake size) s with ⟨r, t⟩
  rw [hrun] at hends
  cases hends with
  -- the line was not raised: nothing else was called
  | unraised hraise => exact ⟨_, made_called _ s, .first (.failed .nil (by simp [hraise]))⟩
  -- the line was not lowered, which is the failure whether the frame came or not
  | unlowered hraise hlower =>
    refine ⟨_, hmade, .first ?_⟩
    have hwake : (Call.breakLine true).fault (reply (.breakLine true) s) = none := by simp [hraise]
    cases hread : (Call.read (size + 2)).fault (frameReply size s) with
    | some e =>
      have hbroken : BreaksOff (knocking size s) _ := .unwoken hwake hread
      rwa [Call.fault_breakLine, hlower] at hbroken
    | none =>
      have hsettled : Settled ([(.breakLine true, reply (.breakLine true) s)] ++
          [(.read (size + 2), frameReply size s)]) :=
        .concat (clean_append.2 ⟨clean_cons.2 ⟨hwake, .nil⟩, clean_cons.2 ⟨hread, .nil⟩⟩) (by simp)
      exact .failed hsettled (by simp [hlower])
  -- the line was lowered behind a frame that is not whole
  | unreceived hraise hlower hread =>
    have hbroken : BreaksOff (knocking size s) _ := .unwoken (by simp [hraise]) hread
    rw [Call.fault_breakLine, hlower] at hbroken
    exact ⟨_, hmade.quiet (made_warned [.handshake] _), .first hbroken⟩
  -- the frame is whole, and its check does not fit
  | unfit hraise hlower hread hcrc =>
    exact ⟨_, hmade.quiet (made_warned [.answerChecksum] _),
      .first (.badFrame (woken_of_faultless hraise hread hlower) hcrc)⟩
  | @fit payload hraise hlower hread hframe =>
    have hwoken := woken_of_faultless hraise hread hlower
    rw [hframe] at hwoken
    exact ⟨_, hmade, .done hwoken.settled hwoken⟩

/-! ### Reading memory -/

/-- A Sensus Pro was woken, has rested, and was sent the command `c`. -/
def Commanded (c : UInt8) (cs : Transcript) : Prop :=
  ∃ payload woken rested sent, cs = woken ++ (rested ++ sent) ∧
    Woken handshakeSize (Checksum.withCrc16 payload) woken ∧
    Single (.sleep settle) rested ∧ Single (.write [c]) sent

theorem conducts_wake :
    Conducts streaming (fun _ cs => ∃ payload woken rested, cs = woken ++ rested ∧
      Woken handshakeSize (Checksum.withCrc16 payload) woken ∧ Single (.sleep settle) rested) B
      (wake : Op σ SensusPro Unit) := by
  refine (conducts_handshake handshakeSize).bind fun payload woken hwoken =>
    Conducts.now.behind fun time => (Conducts.remember fun d : SensusPro => { d with
      frame := payload, clock := some ⟨time.toNat, Bytes.le32 (payload.drop 6)⟩ }).behind fun _ =>
    (Conducts.emit _).behind fun _ => (Conducts.emit _).behind fun _ =>
    (conducts_pause settle).imp ?_
  intro _ rested hrested
  exact ⟨payload, woken, rested, rfl, hwoken, hrested⟩

theorem conducts_command (c : UInt8) :
    Conducts streaming (fun _ cs => Commanded c cs) B (command c : Op σ SensusPro Unit) := by
  refine conducts_wake.bind ?_
  rintro _ _ ⟨payload, woken, rested, rfl, hwoken, hrested⟩
  refine (conducts_transmit [c]).warning.imp fun _ sent hsent => ?_
  exact ⟨payload, woken, rested, sent, List.append_assoc _ _ _, hwoken, hrested, hsent⟩

/-- Reads some bytes, all of them or none. -/
def receiveAll (n : Nat) : Op σ δ Bytes := do
  let chunk ← receive n
  match chunk.outcome with
  | .error e =>
    warn .receive
    throw e
  | .ok () => return chunk.bytes

theorem conducts_receiveAll (b : Block) :
    Conducts streaming (fun bytes cs => Chunks [b] bytes cs) B
      (receiveAll b.size : Op σ δ Bytes) := by
  intro s
  unfold receiveAll
  rw [run_bind_ok (run_receive _ s)]
  have hmade := made_called (.read b.size) s
  cases hf : (reply (.read b.size) s).fault (reply (.read b.size) s).received.length b.size with
  | some e => exact ⟨_, hmade.quiet (made_warned [.receive] _), .first (.failed .nil hf)⟩
  | none =>
    have hall := Nat.le_of_eq (Reply.fault_eq_none.1 hf).2
    -- a clean read brings all of the chunk, so nothing is cut off
    have hchunk : Chunks [b] ((reply (.read b.size) s).received.take b.size)
        [(.read b.size, reply (.read b.size) s)] :=
      ⟨clean_cons.2 ⟨hf, .nil⟩, rfl, by simp [List.take_of_length_le hall]⟩
    exact ⟨_, hmade, .done hchunk.settled hchunk⟩

theorem run_receiveStream_cons (progress : Progress) (b : Block) (bs : List Block)
    (s : Session σ SensusPro) :
    run (receiveStream progress (b :: bs)) s =
      run (receiveAll b.size >>= fun chunk =>
        emit (.progress (progress.advance b.size)) >>= fun _ =>
          receiveStream (progress.advance b.size) bs >>= fun rest => pure (chunk ++ rest)) s := by
  unfold receiveAll
  rw [receiveStream, bind_assoc, run_bind_ok (run_receive _ s), run_bind_ok (run_receive _ s)]
  cases (reply (.read b.size) s).fault (reply (.read b.size) s).received.length b.size <;> rfl

/-- A stream is read block by block. -/
theorem conducts_receiveStream : ∀ (bs : List Block) (progress : Progress)
    {B : Transcript → Prop}, Conducts streaming (fun bytes cs => Chunks bs bytes cs) B
      (receiveStream progress bs : Op σ SensusPro Bytes) := by
  intro bs
  induction bs with
  | nil => exact fun _ _ => .pure .nil
  | cons b bs ih =>
    intro progress B
    refine .congr ?_ (run_receiveStream_cons progress b bs)
    exact (conducts_receiveAll b).bind fun chunk _ hchunk => (Conducts.emit _).behind fun _ =>
      (ih _).returning fun rest _ hrest => hchunk.append hrest

/-- The memory of a device was read: the device was woken and sent the command, and its stream was
read to the end, which is the check of what stands in front. -/
def Dumped (image : Bytes) (cs : Transcript) : Prop :=
  ∃ commanded stream, cs = commanded ++ stream ∧ Commanded dumpCommand commanded ∧
    Chunks (Block.tile chunkSize 0 streamSize) (Checksum.withCrc16 image) stream

theorem conducts_dump : Conducts streaming Dumped B (dump : Op σ SensusPro Bytes) := by
  unfold dump
  refine (Conducts.emit _).behind fun _ => (conducts_command dumpCommand).bind
    fun _ commanded hcommanded => (conducts_receiveStream _ _).judge fun stream s => ?_
  cases hcrc : Checksum.stripCrc16? stream with
  | none =>
    refine ⟨made_warned [.answerChecksum] s, .inr ⟨_, rfl, fun cs hcs => ?_⟩⟩
    exact .badStream hcs hcrc
  | some image =>
    refine ⟨.refl s, .inl ⟨image, rfl, fun cs hcs => ?_⟩⟩
    refine ⟨commanded, cs, rfl, hcommanded, ?_⟩
    have hlength : stream.length = streamSize := hcs.length_tile (by decide)
    rwa [Checksum.eq_withCrc16_of_strip (by rw [hlength]; decide) hcrc] at hcs

/-! ### Other operations -/

theorem conducts_foreach (keep : List Dive → Bool) :
    Conducts streaming (fun _ _ => True) B (foreach keep : Op σ SensusPro (List Dive)) := by
  refine conducts_dump.bind fun image cs _ => Conducts.get.behind fun r => ?_
  exact (Conducts.report _).imp fun _ _ _ => trivial

theorem conducts_writeInterval (seconds : Nat) :
    Conducts streaming (fun _ _ => True) B (writeInterval seconds : Op σ SensusPro Unit) := by
  have hwrite : Conducts streaming (fun _ _ => True) B (do
      command intervalCommand
      pause settle
      warning .sendValue (transmit [UInt8.ofNat seconds]) : Op σ SensusPro Unit) :=
    (conducts_command _).bind fun _ _ _ => (conducts_pause _).bind fun _ _ _ =>
      (conducts_transmit _).warning.imp fun _ _ _ => trivial
  unfold writeInterval
  split
  · exact (Conducts.refuse rfl).congr fun _ => rfl
  · exact hwrite

theorem conducts_openLine :
    Conducts streaming (fun _ _ => True) B (openLine : Op σ SensusPro Unit) :=
  (conducts_attempt (by simp) fun _ => rfl).warning.bind fun _ _ _ =>
    (conducts_attempt (by simp) fun _ => rfl).warning.bind fun _ _ _ =>
      (conducts_attempt (by simp) fun _ => rfl).imp fun _ _ _ => trivial

theorem conducts_close : Conducts streaming (fun _ _ => True) B (attempt .close : Op σ δ Unit) :=
  (conducts_attempt (by simp) fun _ => rfl).imp fun _ _ _ => trivial

/-- The line of a Vyper2 is set up by single calls as well. -/
theorem conducts_openLine_vyper2 :
    Conducts streaming (fun _ _ => True) B (Vyper2.openLine : Op σ δ Unit) :=
  (conducts_attempt (by simp) fun _ => rfl).warning.bind fun _ _ _ =>
    (conducts_attempt (by simp) fun _ => rfl).warning.bind fun _ _ _ =>
      (conducts_attempt (by simp) fun _ => rfl).warning.bind fun _ _ _ =>
        (conducts_pause _).bind fun _ _ _ =>
          (conducts_attempt (by simp) fun _ => rfl).bind fun _ _ _ =>
            (conducts_attempt (by simp) fun _ => rfl).imp fun _ _ _ => trivial

end SensusPro
end DiveLink
