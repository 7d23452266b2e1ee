import DiveLink.Proofs.Session.Discipline
import DiveLink.Proofs.Vyper2.Download

/-!
# The dialogue with a Vyper2

All that is done with an open Vyper2 is one exchange after the other: a request, and an answer that
fits it.  An operation that breaks off does so in an exchange, or between two of them.

## Main definitions

* `Vyper2.Request` — what a Vyper2 can be asked for.
* `Vyper2.Transferred` — the calls of an exchange of which all bytes have arrived.
* `Vyper2.Asked` — requests, the data that they were answered with, and the calls of all this.
* `Vyper2.packets` — the discipline of exchanges.

## Main results

* `Vyper2.conducts_ask` — **a request is answered, or its exchange breaks off.**
* `Vyper2.conducts_readAll`, `Vyper2.conducts_dump`, `Vyper2.conducts_download` — what is asked for
  to read blocks, all of memory, and the dives.
-/

namespace DiveLink
namespace Vyper2

open Session Transcript

/-! ### Requests -/

/-- What a Vyper2 can be asked for. -/
inductive Request
  | version
  | block (b : Block)
  | store (address : Nat) (data : Bytes)
  | reset
  deriving DecidableEq, Repr, Inhabited

namespace Request

/-- The command for a request. -/
def command : Request → Bytes
  | version => versionCommand
  | block b => readCommand b
  | store address data => writeCommand address data
  | reset => resetCommand

/-- How many parameters of the command the answer repeats. -/
def parameters : Request → Nat
  | version | reset => 0
  | block _ | store .. => rangeParameters

/-- How many bytes of data the answer carries. -/
def size : Request → Nat
  | version => versionSize
  | block b => b.size
  | store .. | reset => 0

/-- The length of the answer. -/
def answerLength (q : Request) : Nat := Packet.overhead + q.parameters + q.size

/-- The data in an answer. -/
def data (q : Request) (answer : Bytes) : Bytes := Packet.data answer q.parameters q.size

theorem length_data {q : Request} {answer : Bytes} (h : answer.length = q.answerLength) :
    (q.data answer).length = q.size := by
  rw [data, Packet.data, Bytes.length_slice, h, answerLength, Packet.overhead]
  omega

end Request

/-- The calls by which a request is sent and its answer received.  All of them went well, so the
command was accepted and the answer has arrived as a whole. -/
def Transferred (q : Request) (answer : Bytes) (cs : Transcript) : Prop :=
  Clean cs ∧ ∃ rested raised sent lowered got : Reply,
    cs = [(.sleep settle, rested), (.rts true, raised), (.write q.command, sent),
      (.rts false, lowered), (.read q.answerLength, got)] ∧ got.received = answer

/-- The requests were made one after the other, each was answered, and each answer fits its command.
The data that they carry are `ds`. -/
inductive Asked : List Request → List Bytes → Transcript → Prop
  | nil : Asked [] [] []
  | cons {q : Request} {answer : Bytes} {qs : List Request} {ds : List Bytes}
      {cs cs' : Transcript} (h : Transferred q answer cs)
      (hfits : Packet.check q.command answer q.size = .ok ()) (hrest : Asked qs ds cs') :
      Asked (q :: qs) (q.data answer :: ds) (cs ++ cs')

variable {q : Request} {qs qs' : List Request} {answer : Bytes} {ds ds' : List Bytes}
  {cs cs' : Transcript}

theorem Transferred.length (h : Transferred q answer cs) : answer.length = q.answerLength := by
  obtain ⟨hclean, rested, raised, sent, lowered, got, rfl, rfl⟩ := h
  exact (Reply.fault_eq_none.1 (hclean (.read q.answerLength, got) (by simp))).2

theorem Transferred.settled (h : Transferred q answer cs) : Settled cs := by
  obtain ⟨hclean, rested, raised, sent, lowered, got, rfl, -⟩ := h
  refine .of_forall fun x hx => ⟨hclean x hx, ?_⟩
  simp only [List.mem_cons, List.not_mem_nil, or_false] at hx
  rcases hx with rfl | rfl | rfl | rfl | rfl <;> simp

theorem Asked.single (h : Transferred q answer cs)
    (hfits : Packet.check q.command answer q.size = .ok ()) : Asked [q] [q.data answer] cs := by
  simpa using Asked.cons h hfits .nil

theorem Asked.append (h : Asked qs ds cs) (h' : Asked qs' ds' cs') :
    Asked (qs ++ qs') (ds ++ ds') (cs ++ cs') := by
  induction h with
  | nil => exact h'
  | cons h hfits _ ih =>
    rw [List.append_assoc]
    exact .cons h hfits ih

theorem Asked.settled (h : Asked qs ds cs) : Settled cs := by
  induction h with
  | nil => exact .nil
  | cons h _ _ ih => exact h.settled.append ih

/-- Each request was answered with as many bytes of data as it asks for. -/
theorem Asked.forall₂ (h : Asked qs ds cs) : List.Forall₂ (fun q d => d.length = q.size) qs ds := by
  induction h with
  | nil => exact .nil
  | cons h _ _ ih => exact .cons (Request.length_data h.length) ih

/-! ### The discipline of exchanges -/

/-- How an operation breaks off in an exchange. -/
inductive BreaksOff : Transcript → DeviceError → Prop
  /-- There is nothing more to ask for. -/
  | refused {e : DeviceError} (h : e.isRefusal = true) : BreaksOff [] e
  /-- A call of the exchange went wrong. -/
  | failed {cs : Transcript} {c : Call} {r : Reply} {e : DeviceError} (h : Settled cs)
      (hf : c.fault r = some e) : BreaksOff (cs ++ [(c, r)]) e
  /-- The answer has arrived and does not fit. -/
  | unfit {q : Request} {answer : Bytes} {cs : Transcript} {f : AnswerFault}
      (h : Transferred q answer cs) (hf : Packet.check q.command answer q.size = .error f) :
      BreaksOff cs (.protocol f.error)

/-- An answer that does not fit has arrived. -/
theorem BreaksOff.of_protocol {p : ProtocolError} (h : BreaksOff cs (.protocol p)) :
    ∃ q answer f, Transferred q answer cs ∧ Packet.check q.command answer q.size = .error f ∧
      p = f.error := by
  cases h with
  | refused h => exact absurd h Bool.false_ne_true
  | failed _ hf => exact absurd (Call.isRetryable_fault hf) Bool.false_ne_true
  | unfit h hf => exact ⟨_, _, _, h, hf, rfl⟩

/-- Operations are made of exchanges. -/
def packets : Discipline where
  whole := fun cs => ∃ qs ds, Asked qs ds cs
  breaksOff := BreaksOff
  nil := ⟨[], [], .nil⟩
  append := fun ⟨_, _, h⟩ ⟨_, _, h'⟩ => ⟨_, _, h.append h'⟩
  refuse := .refused
  settled := fun ⟨_, _, h⟩ => h.settled
  broken := by
    intro cs e h
    cases h with
    | refused h => exact .refused .nil (DeviceError.isRetryable_of_refusal h)
    | failed h hf => exact .failed h hf
    | unfit h => exact .refused h.settled rfl
  kept := by
    intro cs h
    cases h with
    | refused h => exact absurd h Bool.false_ne_true
    | failed _ hf => exact absurd (Call.isRetryable_fault hf) Bool.false_ne_true

/-- What is asked for follows a plan, which says how to go on from the data that came back.  There
is a request next behind the calls `cs`. -/
def Pending (plan : List Bytes → List Request) (cs : Transcript) : Prop :=
  ∃ qs ds q rest, Asked qs ds cs ∧ plan ds = qs ++ q :: rest

variable {σ δ : Type} [Link σ] {s t : Session σ δ} {B : Transcript → Prop}

/-! ### One exchange -/

section Exchange

variable {command : Bytes} {rested raised sent lowered : Reply}

theorem settled_rested : Settled [(.sleep settle, rested)] := Settled.nil.push rfl (by simp)

theorem settled_raised (hraise : raised.failure = none) :
    Settled ([(.sleep settle, rested)] ++ [(.rts true, raised)]) :=
  settled_rested.push (by simp [hraise]) (by simp)

theorem settled_sent (hraise : raised.failure = none)
    (hwrite : sent.fault sent.accepted command.length = none) :
    Settled ([(.sleep settle, rested)] ++ [(.rts true, raised)] ++ [(.write command, sent)]) :=
  (settled_raised hraise).push hwrite (by simp)

theorem settled_lowered (hraise : raised.failure = none)
    (hwrite : sent.fault sent.accepted command.length = none) (hlower : lowered.failure = none) :
    Settled ([(.sleep settle, rested)] ++ [(.rts true, raised)] ++ [(.write command, sent)] ++
      [(.rts false, lowered)]) :=
  (settled_sent hraise hwrite).push (by simp [hlower]) (by simp)

end Exchange

/-- The calls of an exchange whose answer arrives. -/
theorem transferred_of_sends (h : Packet.Sends settle q.command s)
    (hread : (reply (.read q.answerLength) (Packet.afterSend settle q.command s)).fault
      (reply (.read q.answerLength) (Packet.afterSend settle q.command s)).received.length
        q.answerLength = none) :
    ∃ cs, Made s (Packet.after settle q.command q.answerLength s) cs ∧
      Transferred q (reply (.read q.answerLength)
        (Packet.afterSend settle q.command s)).received cs := by
  refine ⟨_, ((((made_called _ s).trans (made_called _ _)).trans (made_called _ _)).trans
    (made_called _ _)).trans (made_called _ _), ?_, _, _, _, _, _, rfl, rfl⟩
  have hwritten := Reply.fault_eq_none.2 ⟨h.sent, h.accepted⟩
  exact ((settled_lowered h.raised hwritten h.lowered).push (c := .read q.answerLength) hread
    (by simp)).clean

/-- **A request is answered, or its exchange breaks off.** -/
theorem conducts_ask (q : Request) (hB : B []) :
    Conducts packets (fun answer cs => Asked [q] [q.data answer] cs) B
      (Packet.ask settle q.command q.parameters q.size : Op σ δ Bytes) := by
  intro s
  have hasking := Packet.asking settle q.command q.parameters q.size s
  generalize (run (Packet.ask settle q.command q.parameters q.size) s).1 = r at hasking ⊢
  generalize (run (Packet.ask settle q.command q.parameters q.size) s).2 = t at hasking ⊢
  -- the calls up to each of those that may go wrong
  have hraise := (made_called (.sleep settle) s).trans (made_called (.rts true) _)
  have hwrite := hraise.trans (made_called (.write q.command) _)
  have hlower := hwrite.trans (made_called (.rts false) _)
  have hread := hlower.trans (made_called (.read q.answerLength) _)
  cases hasking with
  | unsent h =>
    cases h with
    | cancelled h => exact ⟨[], .refl s, .givenUp packets.nil h hB⟩
    | unraised _ h =>
      exact ⟨_, hraise, .first (.failed settled_rested (by simp [h]))⟩
    | unsent _ h hwritten =>
      exact ⟨_, hwrite.quiet (made_warned _ _), .first (.failed (settled_raised h) hwritten)⟩
    | unlowered _ h hwritten hlowered =>
      exact ⟨_, hlower,
        .first (.failed (settled_sent h hwritten) (by simp [hlowered]))⟩
  | unreceived h hreceived =>
    have hwritten := Reply.fault_eq_none.2 ⟨h.sent, h.accepted⟩
    exact ⟨_, hread.quiet (made_warned _ _),
      .first (.failed (settled_lowered h.raised hwritten h.lowered) hreceived)⟩
  | unfit h hreceived hcheck =>
    obtain ⟨cs, hmade, htransferred⟩ := transferred_of_sends h hreceived
    exact ⟨cs, hmade.quiet (made_warned _ _), .first (.unfit htransferred hcheck)⟩
  | @fit answer h hlength =>
    have hlength : answer.length = q.answerLength := hlength
    have hgot := h.got
    have hreceived := h.received
    rw [hlength] at hgot hreceived ⊢
    obtain ⟨cs, hmade, htransferred⟩ := transferred_of_sends h.toSends
      (Reply.fault_eq_none.2 ⟨hgot, by rw [hreceived, hlength]⟩)
    rw [hreceived] at htransferred
    have hasked := Asked.single htransferred h.fits
    exact ⟨cs, hmade, .done ⟨_, _, hasked⟩ hasked⟩

/-! ### Blocks -/

theorem conducts_readVersion (hB : B []) :
    Conducts packets (fun data cs => Asked [.version] [data] cs) B (readVersion : Op σ δ Bytes) :=
  (conducts_ask .version hB).returning fun _ _ h => h

theorem conducts_readBlock (b : Block) (hB : B []) :
    Conducts packets (fun data cs => Asked [.block b] [data] cs) B (readBlock b : Op σ δ Bytes) :=
  (conducts_ask (.block b) hB).returning fun _ _ h => h

/-- Reports progress, if there is progress to report. -/
def tell (progress : Option Progress) : Op σ δ Unit :=
  progress.elim (pure ()) fun p => emit (.progress p)

omit [Link σ] in
theorem run_tell (progress : Option Progress) (s : Session σ δ) :
    run (tell progress) s = (.ok (), reported progress s) := by
  cases progress with
  | none => rfl
  | some p =>
    simp only [tell, reported, Option.elim_some]
    rw [run_emit]

theorem run_readAll {progress : Option Progress} {bs : List Block} {f : Fetched}
    (h : run (readBlocks progress bs) s = (.ok f, t)) :
    run (readAll progress bs) s = (f.outcome.map fun _ => f.chunks, t) := by
  unfold readAll
  rw [run_bind_ok h, run_bind, run_lift]
  cases f.outcome <;> rfl

/-- The first block is read, and then the others are. -/
theorem run_readAll_cons (progress : Option Progress) (b : Block) (bs : List Block)
    (s : Session σ δ) :
    run (readAll progress (b :: bs)) s =
      run (readBlock b >>= fun data => tell (progress.map (·.advance b.size)) >>= fun _ =>
        readAll (progress.map (·.advance b.size)) bs >>= fun rest => pure (data :: rest)) s := by
  rcases hread : run (readBlock b) s with ⟨e | data, u⟩
  · rw [run_readAll (run_readBlocks_cons_error hread), run_bind_error hread]
    rfl
  · obtain ⟨f, w, -, hrest, -⟩ := obtained_of_readBlocks bs (progress.map (·.advance b.size))
      (reported (progress.map (·.advance b.size)) u)
    have hall : run (readBlocks progress (b :: bs)) s =
        (.ok ⟨data :: f.chunks, f.outcome⟩, w) :=
      (run_readBlocks_cons_ok hread).trans (run_bind_ok hrest _)
    rw [run_readAll hall, run_bind_ok hread, run_bind_ok (run_tell _ u), run_bind,
      run_readAll hrest]
    cases f.outcome <;> rfl

/-- Blocks are asked for one after the other. -/
theorem conducts_readAll : ∀ (bs : List Block) (progress : Option Progress)
    {B : Transcript → Prop}, (∀ qs q rest ds cs, bs.map .block = qs ++ q :: rest →
      Asked qs ds cs → B cs) →
    Conducts packets (fun chunks cs => Asked (bs.map .block) chunks cs) B
      (readAll progress bs : Op σ δ (List Bytes)) := by
  intro bs
  induction bs with
  | nil => exact fun progress _ _ => .pure .nil
  | cons b bs ih =>
    intro progress B hB
    have htell : ∀ {B}, Conducts packets (fun _ cs => cs = []) B
        (tell (progress.map (·.advance b.size)) : Op σ δ Unit) := by
      intro B
      cases progress with
      | none => exact .pure rfl
      | some p => exact .emit _
    refine .congr ?_ (run_readAll_cons progress b bs)
    refine (conducts_readBlock b (hB [] _ _ [] [] rfl .nil)).bind fun data _ hb =>
      htell.behind fun _ => (ih _ ?_).returning fun rest _ hrest => hb.append hrest
    intro qs q rest ds cs hmore hasked
    exact hB (.block b :: qs) q rest (data :: ds) _ (congrArg _ hmore) (hb.append hasked)

/-- Pieces are stored one after the other. -/
theorem conducts_writePieces : ∀ (pieces : List (Nat × Bytes)) {B : Transcript → Prop},
    (∀ qs q rest ds cs, pieces.map (fun p => .store p.1 p.2) = qs ++ q :: rest →
      Asked qs ds cs → B cs) →
    Conducts packets (fun _ cs => ∃ ds, Asked (pieces.map fun p => .store p.1 p.2) ds cs) B
      (writePieces pieces : Op σ δ Unit) := by
  intro pieces
  induction pieces with
  | nil => exact fun _ => .pure ⟨[], .nil⟩
  | cons p pieces ih =>
    intro B hB
    obtain ⟨address, data⟩ := p
    refine (conducts_ask (.store address data) (hB [] _ _ [] [] rfl .nil)).bind fun answer _ h =>
      (ih ?_).imp ?_
    · intro qs q rest ds cs hmore hasked
      exact hB (.store address data :: qs) q rest (_ :: ds) _ (congrArg _ hmore) (h.append hasked)
    · rintro _ _ ⟨ds, hds⟩
      exact ⟨_, h.append hds⟩

/-! ### Operations -/

/-- What is asked for to read all of memory. -/
def dumpPlan : List Request := .version :: (Block.tile blockSize 0 memorySize).map .block

/-- The memory of a device was asked for block by block, behind the version block, and the image is
what came back. -/
def Dumped (image : Bytes) (cs : Transcript) : Prop :=
  ∃ version chunks, Asked dumpPlan (version :: chunks) cs ∧ image = chunks.flatten

theorem conducts_dump :
    Conducts packets Dumped (Pending fun _ => dumpPlan) (dump : Op σ δ Bytes) := by
  unfold dump
  refine (conducts_readVersion ⟨[], [], _, _, .nil, rfl⟩).bind fun version _ hversion =>
    (Conducts.emit _).behind fun _ => (conducts_readAll _ _ ?_).bind fun chunks _ hchunks =>
      (Conducts.emit _).behind fun _ => .pure ?_
  · intro qs q rest ds cs hmore hasked
    exact ⟨.version :: qs, version :: ds, q, rest, hversion.append hasked, congrArg _ hmore⟩
  · refine ⟨version, chunks, ?_, rfl⟩
    rw [List.append_nil]
    exact hversion.append hchunks

/-- What is asked for to download the dives: the version block, the serial number and the header of
the ring.  If the header makes sense, the blocks of the ring follow from its newest byte
backwards. -/
def downloadPlan (ds : List Bytes) : List Request :=
  .version :: .block serialBlock :: .block headerBlock ::
    match ds[2]?.map RingHeader.parse with
    | some (.ok h) => (h.stop.blocksBefore blockSize h.used).map .block
    | _ => []

/-- The version block, the header of the ring and its bytes in use are what came back. -/
def Fetches (version : Bytes) (h : RingHeader) (data : Bytes) (cs : Transcript) : Prop :=
  ∃ serial raw chunks, Asked (.version :: .block serialBlock :: .block headerBlock ::
      (h.stop.blocksBefore blockSize h.used).map .block) (version :: serial :: raw :: chunks) cs ∧
    RingHeader.parse raw = .ok h ∧ data = chunks.reverse.flatten

theorem conducts_readRing (h : RingHeader)
    (hB : ∀ qs q rest ds cs, (h.stop.blocksBefore blockSize h.used).map .block = qs ++ q :: rest →
      Asked qs ds cs → B cs) :
    Conducts packets (fun data cs => ∃ chunks,
      Asked ((h.stop.blocksBefore blockSize h.used).map .block) chunks cs ∧
        data = chunks.reverse.flatten) B (readRing h : Op σ δ Bytes) :=
  (Conducts.emit _).behind fun _ =>
    (conducts_readAll _ _ hB).returning fun chunks _ hchunks => ⟨chunks, hchunks, rfl⟩

/-- What is asked for to download the dives. -/
theorem conducts_download :
    Conducts packets (fun x cs => Fetches x.1 x.2.1 x.2.2 cs) (Pending downloadPlan)
      (download : Op σ δ (Bytes × RingHeader × Bytes)) := by
  unfold download
  refine (conducts_readVersion ⟨[], [], _, _, .nil, rfl⟩).bind fun version c₁ hversion => ?_
  have hnext : Pending downloadPlan c₁ := ⟨_, _, _, _, hversion, rfl⟩
  refine (conducts_readBlock serialBlock (by rwa [List.append_nil])).bind
    fun serial c₂ hserial => (Conducts.emit _).behind fun _ => ?_
  have hnext : Pending downloadPlan (c₁ ++ c₂) := ⟨_, _, _, _, hversion.append hserial, rfl⟩
  refine (conducts_readBlock headerBlock (by rwa [List.append_nil])).bind fun raw c₃ hraw => ?_
  -- the header decides which blocks are asked for behind it
  cases hparse : RingHeader.parse raw with
  | error f => exact .reject f
  | ok h =>
    refine (conducts_readRing h ?_).returning ?_
    · intro qs q rest ds cs hmore hasked
      refine ⟨_, _, q, rest, hversion.append (hserial.append (hraw.append hasked)), ?_⟩
      simp [downloadPlan, hparse, hmore]
    · rintro data _ ⟨chunks, hring, hdata⟩
      exact ⟨serial, raw, chunks, hversion.append (hserial.append (hraw.append hring)), hparse,
        hdata⟩

theorem conducts_version (room : Nat) : Conducts packets (fun _ _ => True)
    (Pending fun _ => [.version]) (ending (version room) : Op σ δ Unit) := by
  unfold version
  by_cases h : room < versionSize
  · rw [if_pos h]
    have hrefuse : ∀ {B}, Conducts packets (fun _ _ => True) B
        (record ([.insufficientBuffer].map .warning) >>=
          fun _ => throw (.invalidArgument .versionBuffer) : Op σ δ Unit) :=
      (Conducts.record _).behind fun _ => .refuse rfl
    exact hrefuse.congr fun _ => rfl
  · rw [if_neg h, bind_pure_comp]
    exact (conducts_readVersion ⟨[], [], _, _, .nil, rfl⟩).ending_whole

/-- A range that reaches beyond the memory is refused. -/
theorem isRefusal_rangeFault {address length : Nat} {e : DeviceError}
    (h : rangeFault address length = some e) : e.isRefusal = true := by
  unfold rangeFault at h
  split at h <;> cases h
  rfl

/-- What is asked for to read a range. -/
def readPlan (address length : Nat) : List Request :=
  (Block.tile blockSize address length).map .block

/-- A range is read as all of its blocks are. -/
theorem run_ending_read {address length : Nat} (h : rangeFault address length = none)
    (s : Session σ δ) :
    run (ending (read address length)) s =
      run (readAll none (Block.tile blockSize address length) >>= fun _ => pure ()) s := by
  unfold ending read
  rw [h]
  obtain ⟨f, t, -, hblocks, -⟩ := obtained_of_readBlocks
    (Block.tile blockSize address length) none s
  rw [bind_assoc, run_bind_ok hblocks, run_bind (readAll _ _), run_readAll hblocks]
  cases f.outcome <;> rfl

theorem conducts_read (address length : Nat) : Conducts packets (fun _ _ => True)
    (Pending fun _ => readPlan address length) (ending (read address length) : Op σ δ Unit) := by
  cases h : rangeFault address length with
  | some e =>
    unfold ending read
    rw [h]
    exact (Conducts.refuse (isRefusal_rangeFault h)).congr fun _ => rfl
  | none =>
    have hall : Conducts packets (fun _ _ => True) (Pending fun _ => readPlan address length)
        (readAll none (Block.tile blockSize address length) >>= fun _ => pure () : Op σ δ Unit) :=
      (conducts_readAll _ none fun qs q rest ds cs hmore hasked =>
        ⟨qs, ds, q, rest, hasked, hmore⟩).returning fun _ _ _ => trivial
    exact hall.congr (run_ending_read h)

/-- What is asked for to write a range. -/
def writePlan (address : Nat) (data : Bytes) : List Request :=
  (Block.split blockSize address data).map fun p => .store p.1 p.2

theorem conducts_write (address : Nat) (data : Bytes) : Conducts packets (fun _ _ => True)
    (Pending fun _ => writePlan address data) (write address data : Op σ δ Unit) := by
  unfold write
  cases h : rangeFault address data.length with
  | some e => exact .refuse (isRefusal_rangeFault h)
  | none =>
    exact (conducts_writePieces _ fun qs q rest ds cs hmore hasked =>
      ⟨qs, ds, q, rest, hasked, hmore⟩).imp fun _ _ _ => trivial

theorem conducts_foreach (keep : List Dive → Bool) : Conducts packets (fun _ _ => True)
    (Pending downloadPlan) (foreach keep : Op σ Vyper2 (List Dive)) := by
  rw [foreach_eq]
  exact conducts_download.bind fun x cs _ => Conducts.get.behind fun r =>
    (Conducts.report _).imp fun _ _ _ => trivial

theorem conducts_resetMaxDepth : Conducts packets (fun _ _ => True) (Pending fun _ => [.reset])
    (resetMaxDepth : Op σ δ Unit) :=
  (conducts_ask .reset ⟨[], [], _, _, .nil, rfl⟩).returning fun _ _ _ => trivial

end Vyper2
end DiveLink
