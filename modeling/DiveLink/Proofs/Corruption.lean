import DiveLink.Proofs.Bench
import DiveLink.Proofs.Dump
import DiveLink.Proofs.Session.Decided

/-!
# Damaged frames and streams are rejected

The frame behind a break condition and the stream of a memory are judged when all of their bytes are
there.  Whatever else happens on the link, the calls by which they arrived decide the result: the
payload, if frame or stream arrived as it was sent, and a bad checksum, if it was damaged in a way
that the check notices.

## Main definitions

* `Checksum.verdict` — what becomes of a frame or a stream that has arrived.
* `Bench.awaiting`, `Bench.Awaits` — a bench without a device, on which bytes wait.

## Main results

* `decided_handshake`, `SensusPro.decided_dump` — the calls by which the bytes have arrived decide.
* `Checksum.damage_rejected` — **what arrives as it was sent is delivered, and damage is rejected.**
-/

namespace DiveLink

open Session Transcript

/-! ### The verdict on what has arrived -/

namespace Checksum

/-- What becomes of a frame or a stream all of whose bytes have arrived. -/
def verdict (stream : Bytes) : Except DeviceError Bytes :=
  (stripCrc16? stream).elim (.error (.protocol .badChecksum)) .ok

theorem verdict_withCrc16 (payload : Bytes) : verdict (withCrc16 payload) = .ok payload := by
  rw [verdict, stripCrc16?_withCrc16]
  rfl

theorem verdict_damaged {payload stream : Bytes} (h : Damaged payload stream) :
    verdict stream = .error (.protocol .badChecksum) := by
  rw [verdict, strip_eq_none_of_damaged h]
  rfl

/-- Passes the verdict, and tells the user of a bad one. -/
def judge {σ δ : Type} (stream : Bytes) : Op σ δ Bytes :=
  match stripCrc16? stream with
  | some payload => return payload
  | none => do
    warn .answerChecksum
    throw (.protocol .badChecksum)

theorem run_judge {σ δ : Type} (stream : Bytes) (s : Session σ δ) :
    Made s (run (judge stream) s).2 [] ∧ (run (judge stream) s).1 = verdict stream := by
  unfold judge verdict
  cases stripCrc16? stream with
  | some payload => exact ⟨.refl s, rfl⟩
  | none => exact ⟨made_warned [.answerChecksum] s, rfl⟩

theorem decided_judge {σ δ : Type} (stream : Bytes) :
    Decided (fun r cs => cs = [] ∧ r = verdict stream) (judge stream : Op σ δ Bytes) :=
  .constant (run_judge stream)

end Checksum

variable {σ δ : Type} [Link σ]

/-! ### Handshakes -/

/-- What is made of a frame when the break condition has ended. -/
def judgeFrame (frame : Receipt) : Op σ δ Bytes :=
  match frame.outcome with
  | .error e => do
    warn .handshake
    throw e
  | .ok () => Checksum.judge frame.bytes

omit [Link σ] in
theorem decided_judgeFrame (frame : Receipt) :
    Decided (fun r cs => frame.outcome = .ok () ∧ cs = [] ∧ r = Checksum.verdict frame.bytes)
      (judgeFrame frame : Op σ δ Bytes) := by
  unfold judgeFrame
  cases frame.outcome with
  | error e =>
    have hfails : Decided (fun r cs => cs = [] ∧ r = .error e)
        (warn .handshake >>= fun _ => throw e : Op σ δ Bytes) :=
      .constant fun s => ⟨made_warned [.handshake] s, rfl⟩
    exact hfails.imp fun r cs h => absurd h.1 (by simp)
  | ok => exact (Checksum.decided_judge _).imp fun r cs h => h.2

/-- **The calls by which a frame has arrived decide what becomes of it.** -/
theorem decided_handshake (size : Nat) :
    Decided (fun r cs => ∃ frame, SensusPro.Woken size frame cs ∧ r = Checksum.verdict frame)
      (handshake size : Op σ δ Bytes) := by
  have hlower : ∀ frame : Receipt, Decided (fun r cs => ∃ lowered : Reply,
      lowered.failure = none ∧ cs = [(.breakLine false, lowered)] ∧
        frame.outcome = .ok () ∧ r = Checksum.verdict frame.bytes)
      (attempt (.breakLine false) >>= fun _ => judgeFrame frame : Op σ δ Bytes) := by
    intro frame
    refine (Decided.attempt _).bind (fun _ => decided_judgeFrame frame) ?_
    rintro r cs ⟨lowered, hlowered, rfl, hframe, hr⟩
    exact ⟨(), _, [], rfl, ⟨lowered, rfl, by rw [hlowered]; rfl⟩, hframe, rfl, hr⟩
  have hread : Decided (fun r cs => ∃ got lowered : Reply,
      got.fault got.received.length (size + 2) = none ∧ lowered.failure = none ∧
        cs = [(.read (size + 2), got), (.breakLine false, lowered)] ∧
          r = Checksum.verdict got.received)
      (receive (size + 2) >>= fun frame => attempt (.breakLine false) >>= fun _ =>
        judgeFrame frame : Op σ δ Bytes) := by
    refine (Decided.receive _).bind hlower ?_
    rintro r cs ⟨got, lowered, hgot, hlowered, rfl, hr⟩
    have hall := List.take_of_length_le (Nat.le_of_eq (Reply.fault_eq_none.1 hgot).2)
    exact ⟨_, [_], [_], rfl, ⟨got, rfl, rfl⟩, lowered, hlowered, rfl, by rw [hgot]; rfl,
      by rw [hall]; exact hr⟩
  refine (Decided.attempt (.breakLine true)).bind (fun _ => hread) ?_
  rintro r cs ⟨frame, ⟨hclean, raised, got, lowered, rfl, rfl⟩, hr⟩
  obtain ⟨hraised, hrest⟩ := clean_cons.1 hclean
  obtain ⟨hgot, hrest⟩ := clean_cons.1 hrest
  obtain ⟨hlowered, -⟩ := clean_cons.1 hrest
  rw [Call.fault_breakLine, Option.map_eq_none_iff] at hraised hlowered
  exact ⟨(), [_], [_, _], rfl, ⟨raised, rfl, by rw [hraised]; rfl⟩, got, lowered, hgot, hlowered,
    rfl, hr⟩

/-! ### Streams -/

namespace SensusPro

theorem decided_wake :
    Decided (fun r cs => r = .ok () ∧ ∃ payload woken rested, cs = woken ++ rested ∧
      Woken handshakeSize (Checksum.withCrc16 payload) woken ∧ Single (.sleep settle) rested)
      (wake : Op σ SensusPro Unit) := by
  -- behind the handshake there is only the rest before the next command, whatever was sent
  have hrest : ∀ payload : Bytes, Decided (fun r cs => ∃ got : Reply,
      cs = [(.sleep settle, got)] ∧ r = .ok ()) (do
        let clock : Clock := ⟨(← now).toNat, Bytes.le32 (payload.drop 6)⟩
        modify fun s => { s with device.frame := payload, device.clock := some clock }
        emit (.clock clock)
        emit (.devInfo (identity payload))
        pause settle : Op σ SensusPro Unit) := by
    intro payload
    exact .behind still_now fun time => .behind (still_remember fun d : SensusPro => { d with
      frame := payload, clock := some ⟨time.toNat, Bytes.le32 (payload.drop 6)⟩ }) fun _ =>
      .behind (still_emit _) fun _ => .behind (still_emit _) fun _ => .pause settle
  refine (decided_handshake handshakeSize).bind hrest ?_
  rintro r cs ⟨rfl, payload, woken, rested, rfl, hwoken, got, rfl, -⟩
  exact ⟨payload, woken, _, rfl, ⟨_, hwoken, (Checksum.verdict_withCrc16 payload).symm⟩, got, rfl,
    rfl⟩

theorem decided_command (c : UInt8) :
    Decided (fun r cs => r = .ok () ∧ Commanded c cs) (command c : Op σ SensusPro Unit) := by
  refine decided_wake.bind (fun _ => (Decided.transmit [c]).warning) ?_
  rintro r cs ⟨rfl, payload, woken, rested, sent, rfl, hwoken, hrested, got, rfl, hgot⟩
  exact ⟨(), woken ++ rested, _, (List.append_assoc _ _ _).symm,
    ⟨rfl, payload, woken, rested, rfl, hwoken, hrested⟩, got, rfl,
    by rw [Call.fault_write] at hgot; rw [hgot]; rfl⟩

theorem decided_receiveAll (b : Block) :
    Decided (fun r cs => ∃ bytes, r = .ok bytes ∧ Chunks [b] bytes cs)
      (receiveAll b.size : Op σ δ Bytes) := by
  -- a transfer that succeeded has brought all of its bytes, and they are kept as they are
  have hkeep : ∀ chunk : Receipt, Decided
      (fun r cs => chunk.outcome = .ok () ∧ cs = [] ∧ r = .ok chunk.bytes)
      (match chunk.outcome with
        | .error e => do
          warn .receive
          throw e
        | .ok () => return chunk.bytes : Op σ δ Bytes) := by
    intro chunk
    cases chunk.outcome with
    | error e =>
      have hfails : Decided (fun r cs => cs = [] ∧ r = .error e)
          (warn .receive >>= fun _ => throw e : Op σ δ Bytes) :=
        .constant fun s => ⟨made_warned [.receive] s, rfl⟩
      exact hfails.imp fun r cs h => absurd h.1 (by simp)
    | ok =>
      have hpure : Decided (fun r cs => cs = [] ∧ r = .ok chunk.bytes)
          (pure chunk.bytes : Op σ δ Bytes) := .constant fun s => ⟨.refl s, rfl⟩
      exact hpure.imp fun r cs h => h.2
  refine (Decided.receive b.size).bind hkeep ?_
  rintro r cs ⟨bytes, rfl, hclean, hreads, rfl⟩
  obtain ⟨⟨c, got⟩, rest, rfl, hc, hrest⟩ := List.map_eq_cons_iff.1 hreads
  obtain rfl : c = .read b.size := hc
  obtain rfl : rest = [] := List.map_eq_nil_iff.1 hrest
  have hgot : got.fault got.received.length b.size = none := (clean_cons.1 hclean).1
  have hall := List.take_of_length_le (Nat.le_of_eq (Reply.fault_eq_none.1 hgot).2)
  exact ⟨_, [_], [], rfl, ⟨got, rfl, rfl⟩, by rw [hgot]; rfl, rfl, by simp [hall]⟩

/-- The reads of a stream decide which bytes it has. -/
theorem decided_receiveStream : ∀ (bs : List Block) (progress : Progress),
    Decided (fun r cs => ∃ bytes, r = .ok bytes ∧ Chunks bs bytes cs)
      (receiveStream progress bs : Op σ SensusPro Bytes) := by
  intro bs
  induction bs with
  | nil =>
    intro progress
    have hnothing : Decided (fun r cs => cs = [] ∧ r = .ok [])
        (receiveStream progress [] : Op σ SensusPro Bytes) := .constant fun s => ⟨.refl s, rfl⟩
    refine hnothing.imp ?_
    rintro r cs ⟨bytes, rfl, -, hreads, rfl⟩
    rw [List.map_nil, List.map_eq_nil_iff] at hreads
    subst hreads
    exact ⟨rfl, rfl⟩
  | cons b bs ih =>
    intro progress
    refine .congr ?_ (run_receiveStream_cons progress b bs)
    -- what is received is put behind what was received before
    have hrest : ∀ chunk : Bytes, Decided
        (fun r cs => ∃ rest, r = .ok (chunk ++ rest) ∧ Chunks bs rest cs)
        (emit (.progress (progress.advance b.size)) >>= fun _ =>
          receiveStream (progress.advance b.size) bs >>= fun rest => pure (chunk ++ rest) :
          Op σ SensusPro Bytes) := by
      intro chunk
      refine .behind (still_emit _) fun _ => (ih _).bind (fun rest =>
        .constant fun s => ⟨.refl s, rfl⟩) ?_
      rintro r cs ⟨rest, rfl, hchunks⟩
      exact ⟨rest, cs, [], (List.append_nil cs).symm, ⟨rest, rfl, hchunks⟩, rfl, rfl⟩
    refine (decided_receiveAll b).bind hrest ?_
    rintro r cs ⟨bytes, rfl, hclean, hreads, rfl⟩
    -- the first of the reads is that of this block, and the others are those of the rest
    obtain ⟨x, rest, rfl, hx, hrest⟩ := List.map_eq_cons_iff.1 hreads
    obtain ⟨hfirst, hothers⟩ := clean_cons.1 hclean
    exact ⟨x.2.received, [x], rest, rfl,
      ⟨_, rfl, clean_cons.2 ⟨hfirst, .nil⟩, by rw [List.map_cons, hx]; rfl, by simp⟩,
      _, rfl, hothers, hrest, rfl⟩

/-- **The calls by which a stream has arrived decide what becomes of it.** -/
theorem decided_dump :
    Decided (fun r cs => ∃ stream commanded reads, cs = commanded ++ reads ∧
      Commanded dumpCommand commanded ∧ Chunks (Block.tile chunkSize 0 streamSize) stream reads ∧
        r = Checksum.verdict stream) (dump : Op σ SensusPro Bytes) := by
  have hstream : Decided (fun r cs => ∃ stream,
      Chunks (Block.tile chunkSize 0 streamSize) stream cs ∧ r = Checksum.verdict stream)
      (receiveStream (Progress.start (UInt32.ofNat streamSize))
        (Block.tile chunkSize 0 streamSize) >>= Checksum.judge : Op σ SensusPro Bytes) := by
    refine (decided_receiveStream _ _).bind Checksum.decided_judge ?_
    rintro r cs ⟨stream, hchunks, hr⟩
    exact ⟨stream, cs, [], (List.append_nil cs).symm, ⟨stream, rfl, hchunks⟩, rfl, hr⟩
  refine .behind (still_emit _) fun _ => (decided_command dumpCommand).bind (fun _ => hstream) ?_
  rintro r cs ⟨stream, commanded, reads, rfl, hcommanded, hchunks, hr⟩
  exact ⟨(), commanded, reads, rfl, ⟨rfl, hcommanded⟩, stream, hchunks, hr⟩

end SensusPro

/-! ### Damage -/

/-- **What arrives as it was sent is delivered, and damage is rejected.**  The frame behind a break
condition goes into the caller's buffer, and damage leaves the buffer as it was; the stream of a
memory goes into the caller's vector, and damage leaves the vector empty. -/
theorem Checksum.damage_rejected {payload frame : Bytes} :
    (∀ (s : Session σ δ) (buffer : Bytes) (cs : Transcript), buffer.length = payload.length →
      (run (handshake payload.length) s).2.calls = s.calls ++ cs →
      SensusPro.Woken payload.length frame cs →
      (frame = withCrc16 payload →
        (run (handshake payload.length) s).1 = .ok payload ∧
          (Receipt.ofExcept (run (handshake payload.length) s).1).fill buffer = payload) ∧
      (Damaged payload frame →
        (run (handshake payload.length) s).1 = .error (.protocol .badChecksum) ∧
          (Receipt.ofExcept (run (handshake payload.length) s).1).fill buffer = buffer)) ∧
    ∀ (s : Session σ SensusPro) (vector : Bytes) (commanded reads : Transcript),
      ((Device.sensusPro s).dumpInto vector).2.calls = s.calls ++ (commanded ++ reads) →
      SensusPro.Commanded 0xB4 commanded →
      SensusPro.Chunks (Block.tile 256 0 56322) frame reads →
      (frame = withCrc16 payload → ((Device.sensusPro s).dumpInto vector).1 = .whole payload) ∧
      (Damaged payload frame →
        ((Device.sensusPro s).dumpInto vector).1.outcome = .error (.protocol .badChecksum) ∧
          ((Device.sensusPro s).dumpInto vector).1.bytes = []) := by
  constructor
  · -- a handshake: the verdict on its frame is the result
    intro s buffer cs hbuffer hcalls hwoken
    have hresult := (decided_handshake payload.length).result hcalls ⟨frame, hwoken, rfl⟩
    rw [hresult]
    constructor
    · rintro rfl
      rw [verdict_withCrc16]
      refine ⟨rfl, ?_⟩
      show payload ++ buffer.drop payload.length = payload
      rw [← hbuffer, List.drop_length, List.append_nil]
    · intro hdamaged
      rw [verdict_damaged hdamaged]
      exact ⟨rfl, rfl⟩
  · intro s vector commanded reads hcalls hcommanded hchunks
    -- a dump: the vector takes nothing unless the verdict is good
    rw [Device.dumpInto_eq, Device.dump_sensusPro] at hcalls ⊢
    have hresult := SensusPro.decided_dump.result (s := s) hcalls
      ⟨frame, commanded, reads, rfl, hcommanded, hchunks, rfl⟩
    rw [hresult]
    constructor
    · rintro rfl
      rw [verdict_withCrc16]
      rfl
    · intro hdamaged
      rw [verdict_damaged hdamaged]
      exact ⟨rfl, rfl⟩

/-! ### A bench on which bytes wait -/

namespace Bench

/-- A bench without a device, on which bytes wait. -/
def awaiting (waiting : Bytes) : LinkBench := { rig := { waiting }, around := { now := 0 } }

/-- In the session the bytes `w` wait on a bench on which nothing goes wrong. -/
structure Awaits (w : Bytes) (s : Session LinkBench SensusPro) : Prop where
  idle : s.link.rig.script.Idle
  waiting : s.link.rig.waiting = w
  simulator : s.link.rig.simulator = none

variable {w rest payload stream : Bytes} {s t : Session LinkBench SensusPro}

/-- What is noted or remembered leaves the bench alone. -/
theorem Awaits.of_link (h : Awaits w s) (ht : t.link = s.link) : Awaits w t :=
  ⟨ht ▸ h.idle, ht ▸ h.waiting, ht ▸ h.simulator⟩

/-- Levels and times change nothing. -/
theorem Awaits.control (h : Awaits w s) {c : Call}
    (hc : ∀ r : Rig, r.reply none c = ({}, r)) : reply c s = {} ∧ Awaits w (called c s) := by
  have hcall := call_of_idle h.idle c
  rw [hc] at hcall
  refine ⟨congrArg Prod.fst hcall, ?_⟩
  have hlink : (called c s).link = (Link.call c s.link).2 := rfl
  rw [hcall] at hlink
  exact ⟨by rw [hlink]; exact (h.idle.enter _).2, by rw [hlink]; exact h.waiting,
    by rw [hlink]; exact h.simulator⟩

theorem Awaits.read (h : Awaits w s) (n : Nat) :
    reply (.read n) s = { received := w.take n } ∧ Awaits (w.drop n) (called (.read n) s) := by
  have hcall := call_of_idle h.idle (.read n)
  have hlink : (called (.read n) s).link = (Link.call (.read n) s.link).2 := rfl
  rw [hcall] at hlink
  refine ⟨?_, by rw [hlink]; exact (h.idle.enter _).2, ?_, by rw [hlink]; exact h.simulator⟩
  · rw [← h.waiting]
    exact congrArg Prod.fst hcall
  · rw [hlink, ← h.waiting]
    rfl

theorem Awaits.write (h : Awaits w s) (data : Bytes) :
    reply (.write data) s = { accepted := data.length } ∧ Awaits w (called (.write data) s) := by
  have hcall := call_of_idle h.idle (.write data)
  have htaken : data.take (atMost none data.length) = data := List.take_length
  simp only [Rig.reply, htaken, Rig.send, h.simulator] at hcall
  have hlink : (called (.write data) s).link = (Link.call (.write data) s.link).2 := rfl
  rw [hcall] at hlink
  exact ⟨congrArg Prod.fst hcall, by rw [hlink]; exact (h.idle.enter _).2,
    by rw [hlink]; exact h.waiting, by rw [hlink]; rfl⟩

/-- An event leaves the bench alone, whether somebody listens or not. -/
theorem Awaits.emit (h : Awaits w s) (e : Event) :
    ∃ t, run (emit e) s = (.ok (), t) ∧ Awaits w t := by
  rw [run_emit]
  refine ⟨_, rfl, h.of_link ?_⟩
  split <;> rfl

/-- A frame that waits is received. -/
theorem Awaits.handshake (h : Awaits (Checksum.withCrc16 payload ++ rest) s) :
    ∃ t, run (handshake payload.length) s = (.ok payload, t) ∧ Awaits rest t := by
  -- one call after the other, each with what it leaves waiting
  obtain ⟨hraise, h₁⟩ := h.control (c := .breakLine true) fun _ => rfl
  obtain ⟨hread, h₂⟩ := h₁.read (payload.length + 2)
  obtain ⟨hlower, h₃⟩ := h₂.control (c := .breakLine false) fun _ => rfl
  rw [← Checksum.length_withCrc16, List.take_left] at hread
  rw [← Checksum.length_withCrc16, List.drop_left] at h₃
  refine ⟨_, ?_, h₃⟩
  have hfault : Reply.fault { received := Checksum.withCrc16 payload }
      (Checksum.withCrc16 payload).length (Checksum.withCrc16 payload).length = none :=
    Reply.fault_eq_none.2 ⟨rfl, rfl⟩
  unfold DiveLink.handshake
  rw [← Checksum.length_withCrc16, run_bind, run_attempt_eq, hraise]
  simp only [Option.elim_none]
  rw [run_bind_ok (run_receive _ _), hread, run_bind, run_attempt_eq]
  rw [← Checksum.length_withCrc16] at hlower
  rw [hlower, hfault]
  simp only [Option.elim_none, List.take_length, Checksum.stripCrc16?_withCrc16]
  rfl

/-- The stream that waits is read block by block. -/
theorem Awaits.receiveStream : ∀ (bs : List Block) (progress : Progress) {w : Bytes}
    {s : Session LinkBench SensusPro}, Awaits w s →
      w.length = (bs.flatMap RingAddress.addresses).length →
        (run (SensusPro.receiveStream progress bs) s).1 = .ok w := by
  intro bs
  -- each block takes its bytes from the front of what waits
  induction bs with
  | nil =>
    intro progress w s _ hlength
    rw [List.eq_nil_of_length_eq_zero hlength]
    rfl
  | cons b bs ih =>
    intro progress w s h hlength
    rw [List.flatMap_cons, List.length_append, RingAddress.addresses, List.length_range']
      at hlength
    obtain ⟨hgot, hcalled⟩ := h.read b.size
    have hreceive : run (SensusPro.receiveAll b.size) s =
        (.ok (w.take b.size), called (.read b.size) s) := by
      have hfault : Reply.fault { received := w.take b.size } (w.take b.size).length b.size =
          none := Reply.fault_eq_none.2 ⟨rfl, by rw [List.length_take]; omega⟩
      unfold SensusPro.receiveAll
      rw [run_bind_ok (run_receive _ s), hgot, hfault, List.take_take, Nat.min_self]
      rfl
    obtain ⟨t, hemit, ht⟩ := hcalled.emit (.progress (progress.advance b.size))
    have hrest := ih (progress.advance b.size) ht (by rw [List.length_drop]; omega)
    rcases hrun : run (SensusPro.receiveStream (progress.advance b.size) bs) t with ⟨r, u⟩
    rw [hrun] at hrest
    cases hrest
    rw [SensusPro.run_receiveStream_cons, run_bind_ok hreceive, run_bind_ok hemit,
      run_bind_ok hrun, run_pure, List.take_append_drop]

/-- A device that waits to be woken takes a command. -/
theorem Awaits.command (h : Awaits (Checksum.withCrc16 payload ++ rest) s)
    (hpayload : payload.length = SensusPro.handshakeSize) (c : UInt8) :
    ∃ t, run (SensusPro.command c) s = (.ok (), t) ∧ Awaits rest t := by
  obtain ⟨t₁, hhandshake, h₁⟩ := h.handshake
  rw [hpayload] at hhandshake
  -- the clock and the frame are remembered before the device is commanded
  obtain ⟨clock, hclock⟩ : ∃ clock : Clock, clock = ⟨(Link.now t₁.link).toNat,
    Bytes.le32 (payload.drop 6)⟩ := ⟨_, rfl⟩
  obtain ⟨t₂, ht₂⟩ : ∃ t₂, t₂ = { t₁ with device.frame := payload, device.clock := some clock } :=
    ⟨_, rfl⟩
  have h₂ : Awaits rest t₂ := h₁.of_link (by rw [ht₂])
  obtain ⟨t₃, hemit, h₃⟩ := h₂.emit (.clock clock)
  obtain ⟨t₄, hinfo, h₄⟩ := h₃.emit (.devInfo (SensusPro.identity payload))
  obtain ⟨-, h₅⟩ := h₄.control (c := .sleep SensusPro.settle) fun _ => rfl
  obtain ⟨hsent, h₆⟩ := h₅.write [c]
  -- the reports and the rest between them take nothing from what waits
  have hwake : run SensusPro.wake s = (.ok (), called (.sleep SensusPro.settle) t₄) := by
    unfold SensusPro.wake
    rw [run_bind_ok hhandshake]
    have hmodify : run (modify fun s => { s with
        device.frame := payload, device.clock := some clock } : Op LinkBench SensusPro Unit) t₁ =
          (.ok (), t₂) := by
      rw [ht₂]
      rfl
    rw [run_bind_ok (a := Link.now t₁.link) (t := t₁) rfl]
    dsimp only
    rw [← hclock, run_bind_ok hmodify, run_bind_ok hemit, run_bind_ok hinfo, run_pause_eq]
  unfold SensusPro.command
  rw [run_bind_ok hwake, run_warning, run_transmit, hsent]
  exact ⟨_, rfl, h₆⟩

/-- Ten zeros and the stream of a memory wait on a bench. -/
def served (stream : Bytes) : Session LinkBench SensusPro :=
  .start (awaiting (Checksum.withCrc16 (List.replicate 10 0) ++ stream)) SensusPro.fresh ⟨0⟩

/-- A stream that waits behind a handshake arrives. -/
theorem arrives_served (hlength : stream.length = SensusPro.streamSize) (vector : Bytes) :
    ∃ commanded reads,
      ((Device.sensusPro (served stream)).dumpInto vector).2.calls =
          (served stream).calls ++ (commanded ++ reads) ∧
        SensusPro.Commanded SensusPro.dumpCommand commanded ∧
        SensusPro.Chunks (Block.tile SensusPro.chunkSize 0 SensusPro.streamSize) stream reads := by
  obtain ⟨blocks, hblocks⟩ : ∃ bs, bs = Block.tile SensusPro.chunkSize 0 SensusPro.streamSize :=
    ⟨_, rfl⟩
  obtain ⟨progress, hprogress⟩ : ∃ p, p = Progress.start (UInt32.ofNat SensusPro.streamSize) :=
    ⟨_, rfl⟩
  have hserved : Awaits (Checksum.withCrc16 (List.replicate 10 0) ++ stream) (served stream) :=
    ⟨⟨rfl, rfl⟩, rfl, rfl⟩
  obtain ⟨s₁, hemit, h₁⟩ := hserved.emit (.progress progress)
  obtain ⟨t, hcommand, ht⟩ := h₁.command List.length_replicate SensusPro.dumpCommand
  have hstream := ht.receiveStream blocks progress (by
    rw [hlength, hblocks, Block.tile_addresses (by decide), List.length_range'])
  rcases hreceive : run (SensusPro.receiveStream progress blocks) t with ⟨r, u⟩
  rw [hreceive] at hstream
  obtain rfl : r = .ok stream := hstream
  -- behind the stream no call is made any more
  have hdump : run SensusPro.dump (served stream) = run (Checksum.judge stream) u := by
    unfold SensusPro.dump
    rw [← hprogress, ← hblocks, run_bind_ok hemit, run_bind_ok hcommand, run_bind_ok hreceive]
    rfl
  obtain ⟨commanded, hmade, hcommanded⟩ := (SensusPro.conducts_command (B := fun _ => False)
    SensusPro.dumpCommand).of_ok s₁
  obtain ⟨reads, hreads, hchunks⟩ :=
    (SensusPro.conducts_receiveStream blocks progress (B := fun _ => False)).of_ok t
  rw [hcommand] at hmade hcommanded
  rw [hreceive] at hreads hchunks
  have hnote : Made (served stream) s₁ [] := by
    obtain ⟨a, hrun, hstill⟩ := still_emit (.progress progress) (served stream)
    rwa [hemit] at hstill
  refine ⟨commanded, reads, ?_, hcommanded () rfl, hblocks ▸ hchunks stream rfl⟩
  rw [Device.dumpInto_eq, Device.dump_sensusPro, hdump]
  exact ((hnote.trans (hmade.trans hreads)).quiet (Checksum.run_judge stream u).1).calls

/-- The second bit from the left of a frame is turned over on its way; and the stream of a memory
that is all zero arrives with another check. -/
theorem damage_rejected_awaiting :
    let payload : Bytes := [0x31, 0x32, 0x33]
    let frame : Bytes := [0x71, 0x32, 0x33, 0xCE, 0x5B]
    let s : Session LinkBench SensusPro := .start (awaiting frame) SensusPro.fresh ⟨0⟩
    let image : Bytes := List.replicate 56320 0
    let stream : Bytes := image ++ Bytes.ofLE16 (Checksum.crc16 image ^^^ 1).toNat
    (Checksum.Damaged payload frame ∧ ∃ cs,
      (run (handshake payload.length) s).2.calls = s.calls ++ cs ∧
        SensusPro.Woken payload.length frame cs ∧
        (run (handshake payload.length) s).1 = .error (.protocol .badChecksum) ∧
        (Receipt.ofExcept (run (handshake payload.length) s).1).fill [1, 2, 3] = [1, 2, 3]) ∧
    (Checksum.Damaged image stream ∧ ∃ commanded reads,
      ((Device.sensusPro (served stream)).dumpInto [1, 2, 3]).2.calls =
          (served stream).calls ++ (commanded ++ reads) ∧
        SensusPro.Commanded 0xB4 commanded ∧
        SensusPro.Chunks (Block.tile 256 0 56322) stream reads ∧
        ((Device.sensusPro (served stream)).dumpInto [1, 2, 3]).1.outcome =
          .error (.protocol .badChecksum) ∧
        ((Device.sensusPro (served stream)).dumpInto [1, 2, 3]).1.bytes = []) := by
  intro payload frame s image stream
  -- one bit of the first byte is another
  have hflipped : Checksum.Damaged payload frame := .odd rfl (by decide +kernel)
  obtain ⟨cs, hcs⟩ : ∃ cs : Transcript, cs = [(.breakLine true, {}),
    (.read 5, { received := frame }), (.breakLine false, {})] := ⟨_, rfl⟩
  have hcalls : (run (handshake payload.length) s).2.calls = s.calls ++ cs := by
    rw [hcs]
    decide +kernel
  have hwoken : SensusPro.Woken payload.length frame cs := by
    rw [hcs]
    exact SensusPro.woken_of_faultless rfl rfl rfl
  -- the trailer of the stream is another, whatever the sum of the image is
  have hcheck : Checksum.Damaged image stream := by
    refine .trailer rfl fun h => ?_
    have hsame := Checksum.ofLE16_inj h
    generalize Checksum.crc16 image = crc at hsame
    have hzero : crc ^^^ (crc ^^^ 1) = 0 := by rw [hsame, UInt16.xor_self]
    rw [← UInt16.xor_assoc, UInt16.xor_self, UInt16.zero_xor] at hzero
    exact absurd hzero (by decide)
  have hlength : stream.length = SensusPro.streamSize := by
    rw [List.length_append, List.length_replicate]
    rfl
  obtain ⟨commanded, reads, hdumped, hcommanded, hreads⟩ := arrives_served hlength [1, 2, 3]
  -- both parts of the theorem, for this frame and for this stream
  have hframe := (Checksum.damage_rejected.1 s [1, 2, 3] cs (by rfl) hcalls hwoken).2 hflipped
  have hstream := ((Checksum.damage_rejected (δ := SensusPro)).2 (served stream) [1, 2, 3]
    commanded reads hdumped hcommanded hreads).2 hcheck
  exact ⟨⟨hflipped, cs, hcalls, hwoken, hframe⟩, hcheck, commanded, reads, hdumped, hcommanded,
    hreads, hstream⟩

end Bench

end DiveLink
