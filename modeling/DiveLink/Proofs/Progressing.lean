import DiveLink.Proofs.Recollection
import DiveLink.Proofs.Session.Announced
import DiveLink.Proofs.Verified

/-!
# Progress is told as it is

A dump and a download tell their caller how far they have come.  All of their reports name one
total, and each says how many bytes of it have arrived, on a Vyper2 in answers that fit their
commands.  None comes behind a failure, and the last one of an operation that succeeds says that all
is done.

## Main definitions

* `Vyper2.Dumping`, `Vyper2.Downloading`, `SensusPro.Streaming` — the calls that bring so many of
  all bytes.
* `Mark.Truthful` — the reports of an operation with its result.

## Main results

* `Vyper2.announces_dump`, `Vyper2.announces_foreach`, `SensusPro.announces_dump` — the reports of
  each operation.
* `Device.progress_truthful` — **the progress that is reported is the progress that was made.**
-/

namespace DiveLink

open Session Transcript

/-! ### Reports of an operation -/

namespace Mark

variable {α : Type} {T : Transcript → Nat → Nat → Prop} {total : Nat}
  {r : Except DeviceError α} {m : Mark} {ms : List Mark}

/-- The reports of an operation that ended with the result `r`: they climb to one total, and the
last report of an operation that succeeds says that all is done.  By `T`, the calls in front of a
report have brought so many bytes of that total. -/
def Truthful (T : Transcript → Nat → Nat → Prop) (r : Except DeviceError α) (ms : List Mark) :
    Prop :=
  ∃ total, Climbs (fun cs n => T cs n total) total 0 ms ∧
    ((∃ a, r = .ok a) → ∃ m, ms.getLast? = some m ∧ m.progress.current = m.progress.maximum)

/-- An operation that fails before its first report. -/
theorem truthful_nil (e : DeviceError) : Truthful T (.error e : Except DeviceError α) [] :=
  ⟨0, .nil, fun ⟨a, ha⟩ => absurd ha (by simp)⟩

theorem Climbs.truthful (h : Climbs (fun cs n => T cs n total) total 0 (m :: ms))
    (hreached : (∃ a, r = .ok a) → reached m.current ms = total) : Truthful T r (m :: ms) :=
  ⟨total, h, fun hr => h.finished (hreached hr)⟩

end Mark

/-- What comes behind the last report changes nothing about the reports. -/
theorem Session.Announces.truthful_bind {σ δ α β : Type} {T : Transcript → Nat → Nat → Prop}
    {x : Op σ δ α} {f : α → Op σ δ β} (hx : Announces (fun r _ ms => Mark.Truthful T r ms) x)
    (hf : ∀ a, Announces (fun _ _ ms => ms = []) (f a)) :
    Announces (fun r _ ms => Mark.Truthful T r ms) (x >>= f) := by
  refine hx.bind ?_ ?_
  · rintro e cs ms ⟨total, hclimbs, -⟩
    exact ⟨total, hclimbs, fun ⟨a, ha⟩ => absurd ha (by simp)⟩
  · rintro a cs ms ⟨total, hclimbs, hlast⟩
    refine (hf a).imp ?_
    rintro r cs' _ rfl
    rw [List.map_nil, List.append_nil]
    exact ⟨total, hclimbs, fun _ => hlast ⟨a, rfl⟩⟩

/-- The reports of a program in the history behind it; if nobody listens there are none. -/
theorem Session.Announces.told {σ δ α : Type} {T : Transcript → Nat → Nat → Prop} {x : Op σ δ α}
    (hx : Announces (fun r _ ms => Mark.Truthful T r ms) x) (s : Session σ δ) :
    ∃ es total, (run x s).2.history = s.history ++ es ∧
      Mark.Climbs (fun cs n => T cs n total) total 0 (Entry.marks es) ∧
      ((∃ a, (run x s).1 = .ok a) → s.listening = true → ∃ m, (Entry.marks es).getLast? = some m ∧
        m.progress.current = m.progress.maximum) := by
  obtain ⟨es, ms, hhistory, -, hmarks, total, hclimbs, hlast⟩ := hx s
  refine ⟨es, total, hhistory, ?_, fun hr hlistening => ?_⟩
  · rw [hmarks]
    split
    · exact hclimbs
    · exact .nil
  · rw [hmarks, if_pos hlistening]
    exact hlast hr

/-! ### The bytes of blocks -/

theorem Session.blockBytes_eq_length (bs : List Block) :
    blockBytes bs = (bs.flatMap RingAddress.addresses).length := by
  induction bs with
  | nil => rfl
  | cons b bs ih =>
    rw [blockBytes, ih, List.flatMap_cons, List.length_append, RingAddress.addresses,
      List.length_range']

theorem Block.blockBytes_tile {most : Nat} (hm : most ≠ 0) (address length : Nat) :
    blockBytes (tile most address length) = length := by
  rw [blockBytes_eq_length, tile_addresses hm, List.length_range']

theorem RingAddress.blockBytes_blocksBefore {most : Nat} (hm : most ≠ 0) (h : RingHeader) :
    blockBytes (h.stop.blocksBefore most h.used) = h.used := by
  -- the addresses are known in the order of the ring, which is not that of the blocks
  have hreverse := congrArg List.length (blocksBefore_addresses hm h.used _ _ h.advance_used)
  rw [((List.reverse_perm _).flatMap_right _).length_eq, ← blockBytes_eq_length] at hreverse
  rw [hreverse, List.length_map, List.length_range]

namespace Vyper2

variable {σ δ : Type} [Link σ]

/-- Blocks were asked for one after the other, and each was answered. -/
def AskedFor (bs : List Block) (cs : Transcript) : Prop := ∃ chunks, Asked (bs.map .block) chunks cs

/-- The answers carry as many bytes of data as the blocks have. -/
theorem Asked.length_flatten : ∀ {bs : List Block} {chunks : List Bytes} {cs : Transcript},
    Asked (bs.map .block) chunks cs → chunks.flatten.length = blockBytes bs := by
  intro bs chunks cs h
  have hlengths := h.forall₂
  rw [List.forall₂_map_left_iff] at hlengths
  clear h
  induction hlengths with
  | nil => rfl
  | cons hb _ ih =>
    rw [List.flatten_cons, List.length_append, hb, ih]
    rfl

/-- Blocks that are all read are counted as they arrive. -/
theorem counting_readAll : Counting (readBlock (σ := σ) (δ := δ))
    (fun p bs => readAll (some p) bs) AskedFor where
  nil _ := .silent (.pure [])
  cons p b bs := ⟨List.cons, run_readAll_cons (some p) b bs⟩
  step b := ((Announces.silent (eventless_silent.readBlock b)).conducts
    (conducts_readBlock (B := fun _ => True) b trivial)).imp fun r cs ms h =>
      ⟨h.1, fun part hpart => ⟨[part], h.2 part hpart⟩⟩
  append := by
    rintro bs bs' cs cs' ⟨chunks, h⟩ ⟨chunks', h'⟩
    refine ⟨chunks ++ chunks', ?_⟩
    rw [List.map_append]
    exact h.append h'

/-- Behind the calls `cs`, progress is reported, blocks are read, and what comes then reports
nothing. -/
theorem announces_counted {α : Type} {T : Transcript → Nat → Nat → Prop} {cs : Transcript}
    {p : Progress} {bs : List Block} {f : List Bytes → Op σ δ α}
    (htotal : p.current.toNat + blockBytes bs = p.maximum.toNat)
    (hT : ∀ bs₁ bs₂ cs', bs = bs₁ ++ bs₂ → AskedFor bs₁ cs' →
      T (cs ++ cs') (p.current.toNat + blockBytes bs₁) p.maximum.toNat)
    (hf : ∀ chunks, Announces (fun _ _ ms => ms = []) (f chunks)) :
    Announces (fun r _ ms => Mark.Truthful T r (ms.map (Mark.behind cs)))
      (emit (.progress p) >>= fun _ => readAll (some p) bs >>= f) := by
  -- the report in front of the blocks says what the calls `cs` have brought
  have hclimbs : ∀ {ms : List Mark}, Mark.Climbs (fun cs' n => T (cs ++ cs') n p.maximum.toNat)
      p.maximum.toNat p.current.toNat ms → Mark.Climbs (fun cs' n => T cs' n p.maximum.toNat)
        p.maximum.toNat 0 ((⟨[], p⟩ :: ms).map (Mark.behind cs)) := fun h =>
    .behind (.cons rfl (hT [] bs [] rfl ⟨[], .nil⟩) (Nat.zero_le _) (by omega) h)
  refine .progress_bind ((counting_readAll.climbs bs p
    (T := fun cs' n => T (cs ++ cs') n p.maximum.toNat) rfl (Nat.le_of_eq htotal) hT).bind ?_ ?_)
  · rintro e cs' ms ⟨h, -⟩
    exact (hclimbs h).truthful fun ⟨a, ha⟩ => absurd ha (by simp)
  · rintro chunks cs' ms ⟨h, hreached⟩
    refine (hf chunks).imp ?_
    rintro r cs'' _ rfl
    rw [List.map_nil, List.append_nil]
    refine (hclimbs h).truthful fun _ => ?_
    rw [Mark.reached_behind]
    exact (hreached ⟨chunks, rfl⟩).trans htotal

/-! ### A dump of a Vyper2 -/

/-- The version block and the first blocks of memory were asked for, each was answered, and the
answers have brought `n` of the 0x8000 bytes of memory. -/
def Dumping (cs : Transcript) (n total : Nat) : Prop :=
  total = 0x8000 ∧ ∃ qs rest version chunks, dumpPlan = qs ++ rest ∧
    Asked qs (version :: chunks) cs ∧ n = chunks.flatten.length

theorem announces_dump :
    Announces (fun r _ ms => Mark.Truthful Dumping r ms) (dump : Op σ δ Bytes) := by
  unfold dump
  have hm : blockSize ≠ 0 := by decide
  -- nothing is reported in front of the blocks, so a version that fails leaves no mark
  refine .silent_step (.silent eventless_silent.readVersion)
    (conducts_readVersion (B := fun _ => True) trivial) (fun e _ => Mark.truthful_nil e)
    fun version cs hversion => ?_
  refine announces_counted ?_ ?_ fun chunks =>
    (Announces.silent (.emit rfl)).silent_bind fun _ => .silent (.pure _)
  · -- the blocks count to all of memory
    rw [Block.blockBytes_tile hm]
    rfl
  · -- any first part of the blocks is asked for behind the version
    rintro bs₁ bs₂ cs' hbs ⟨chunks, hchunks⟩
    refine ⟨rfl, .version :: bs₁.map .block, bs₂.map .block, version, chunks, ?_,
      hversion.append hchunks, ?_⟩
    · rw [dumpPlan, hbs, List.map_append, List.cons_append]
    · rw [hchunks.length_flatten]
      exact Nat.zero_add _

/-! ### A download from a Vyper2 -/

/-- The version block, the serial number, the header of the ring and the first of its blocks were
asked for, and each was answered.  The header and the blocks have brought `n` bytes, of as many as
the header has itself and says to be in use; these reach around the ring from the start to the end
that it names. -/
def Downloading (cs : Transcript) (n total : Nat) : Prop :=
  ∃ qs rest version serial raw chunks h, RingHeader.parse raw = .ok h ∧ total = 8 + h.used ∧
    h.Spans h.used ∧ downloadPlan (version :: serial :: raw :: chunks) = qs ++ rest ∧
    Asked qs (version :: serial :: raw :: chunks) cs ∧ n = raw.length + chunks.flatten.length

theorem announces_download : Announces (fun r _ ms => Mark.Truthful Downloading r ms)
    (download : Op σ δ (Bytes × RingHeader × Bytes)) := by
  unfold download
  have hm : blockSize ≠ 0 := by decide
  have hnil : ∀ e, Mark.Truthful Downloading (.error e : Except DeviceError
    (Bytes × RingHeader × Bytes)) [] := Mark.truthful_nil
  refine .silent_step (.silent eventless_silent.readVersion)
    (conducts_readVersion (B := fun _ => True) trivial) (fun e _ => hnil e)
    fun version cs₁ hversion => ?_
  refine .silent_step (.silent (eventless_silent.readBlock _))
    (conducts_readBlock (B := fun _ => True) serialBlock trivial) (fun e _ => hnil e)
    fun serial cs₂ hserial => ?_
  refine .silent_step (.silent (.emit rfl)) (Conducts.emit (D := packets) (B := fun _ => True) _)
    (fun e _ => hnil e) ?_
  rintro _ _ rfl
  refine .silent_step (.silent (eventless_silent.readBlock _))
    (conducts_readBlock (B := fun _ => True) headerBlock trivial) (fun e _ => hnil e)
    fun raw cs₃ hraw => ?_
  simp only [← Mark.map_behind_append, List.nil_append]
  have hasked := hversion.append (hserial.append hraw)
  -- a header that makes no sense ends the download in front of the first report
  cases hparse : RingHeader.parse raw with
  | error f =>
    refine (Announces.reject f).imp ?_
    rintro _ _ _ ⟨rfl, rfl⟩
    exact hnil _
  | ok header =>
    obtain ⟨hmaximum, hcurrent⟩ := header_progress header
    -- the ring is read as blocks that are counted: the first report stands for the header
    have hring : (readRing header >>= fun data => pure (version, header, data) :
        Op σ δ (Bytes × RingHeader × Bytes)) = emit (.progress ((Progress.start
          (UInt32.ofNat (RingHeader.length + header.used))).advance RingHeader.length)) >>= fun _ =>
        readAll (some ((Progress.start (UInt32.ofNat (RingHeader.length + header.used))).advance
          RingHeader.length)) (header.stop.blocksBefore blockSize header.used) >>= fun chunks =>
            pure (version, header, chunks.reverse.flatten) := by
      simp only [readRing, bind_assoc, pure_bind]
    dsimp only
    rw [hring]
    refine announces_counted ?_ ?_ fun chunks => .silent (.pure _)
    · rw [hmaximum, hcurrent, RingAddress.blockBytes_blocksBefore hm]
    · -- behind any first part of the blocks, the calls are those of the plan up to there
      rintro bs₁ bs₂ cs' hbs ⟨chunks, hchunks⟩
      have hall := hasked.append hchunks
      refine ⟨_, bs₂.map .block, version, serial, raw, chunks, header, hparse, hmaximum,
        header.spans_used, ?_, hall, ?_⟩
      · simp [downloadPlan, hparse, hbs]
      · have hraw : raw.length = 8 := (List.forall₂_cons.1 hraw.forall₂).1
        rw [hcurrent, hraw, hchunks.length_flatten]

theorem announces_foreach (keep : List Dive → Bool) :
    Announces (fun r _ ms => Mark.Truthful Downloading r ms)
      (foreach keep : Op σ Vyper2 (List Dive)) := by
  rw [foreach_eq]
  exact announces_download.truthful_bind fun x =>
    .silent (Records.get.bind fun _ => .report (fun _ => rfl) (fun _ => rfl) _)

end Vyper2

namespace SensusPro

variable {σ : Type} [Link σ]

/-! ### The stream of a Sensus Pro -/

/-- The device was woken and commanded, and its stream was read up to some byte; `n` of its 56322
bytes have arrived.  In front of all calls that is none. -/
def Streaming (cs : Transcript) (n total : Nat) : Prop :=
  total = 56322 ∧ (cs = [] ∧ n = 0 ∨ ∃ commanded stream bs rest bytes, cs = commanded ++ stream ∧
    Commanded 0xB4 commanded ∧ Block.tile 256 0 56322 = bs ++ rest ∧ Chunks bs bytes stream ∧
    n = bytes.length)

theorem silent_command (c : UInt8) :
    Announces (fun _ _ ms => ms = []) (command c : Op σ SensusPro Unit) := by
  have hremember : ∀ f : SensusPro → SensusPro, Announces (fun _ _ ms => ms = [])
      (modify fun s => { s with device := f s.device } : Op σ SensusPro Unit) := fun f s =>
    ⟨[], [], (List.append_nil _).symm, rfl, (ite_self _).symm, rfl⟩
  have hwake : Announces (fun _ _ ms => ms = []) (wake : Op σ SensusPro Unit) :=
    (Announces.silent (eventless_silent.handshake _)).silent_bind fun frame =>
      (Announces.silent eventless_silent.now).silent_bind fun time =>
        (hremember fun d => { d with
          frame := frame, clock := some ⟨time.toNat, Bytes.le32 (frame.drop 6)⟩ }).silent_bind
          fun _ => (Announces.silent (.emit rfl)).silent_bind fun _ =>
            (Announces.silent (.emit rfl)).silent_bind fun _ =>
              .silent (eventless_silent.pause _)
  exact hwake.silent_bind fun _ =>
    .silent (eventless_silent.warning _ (eventless_silent.transmit _))

/-- A stream is counted as it arrives. -/
theorem counting_receiveStream : Counting (fun b => (receiveAll b.size : Op σ SensusPro Bytes))
    receiveStream fun bs cs => ∃ bytes, Chunks bs bytes cs where
  nil _ := .silent (.pure [])
  cons p b bs := ⟨(· ++ ·), run_receiveStream_cons p b bs⟩
  step b := by
    have hsilent : Records (fun e => e.progress? = none)
        (receiveAll b.size : Op σ SensusPro Bytes) := by
      refine (eventless_silent.receive b.size).bind fun chunk => ?_
      cases chunk.outcome with
      | error e => exact (eventless_silent.warn _).bind fun _ => .throw e
      | ok => exact .pure _
    exact ((Announces.silent hsilent).conducts (conducts_receiveAll (B := fun _ => True) b)).imp
      fun r cs ms h => ⟨h.1, fun part hpart => ⟨part, h.2 part hpart⟩⟩
  append := fun ⟨bytes, h⟩ ⟨bytes', h'⟩ => ⟨bytes ++ bytes', h.append h'⟩

theorem announces_dump :
    Announces (fun r _ ms => Mark.Truthful Streaming r ms) (dump : Op σ SensusPro Bytes) := by
  unfold dump
  obtain ⟨p, hp⟩ : ∃ p, p = Progress.start (UInt32.ofNat streamSize) := ⟨_, rfl⟩
  have hmaximum : p.maximum.toNat = 56322 := by rw [hp]; rfl
  have hcurrent : p.current.toNat = 0 := by rw [hp]; rfl
  have hbytes : blockBytes (Block.tile chunkSize 0 streamSize) = 56322 :=
    Block.blockBytes_tile (by decide) 0 streamSize
  -- the report of none, in front of all calls, starts the climb
  have hclimbs : ∀ {ms : List Mark}, Mark.Climbs (fun cs n => Streaming cs n 56322) 56322 0 ms →
      Mark.Climbs (fun cs n => Streaming cs n 56322) 56322 0 (⟨[], p⟩ :: ms) := fun h =>
    .cons hmaximum ⟨rfl, .inl ⟨rfl, hcurrent⟩⟩ (Nat.zero_le _) (by omega) (by rwa [hcurrent])
  rw [← hp]
  refine .progress_bind (.silent_step (silent_command dumpCommand)
    (conducts_command (B := fun _ => True) dumpCommand) (fun e cs => ?_) fun _ cs hcommanded => ?_)
  · exact (hclimbs .nil).truthful fun ⟨a, ha⟩ => absurd ha (by simp)
  refine (counting_receiveStream.climbs _ p (T := fun cs' n => Streaming (cs ++ cs') n 56322)
    hmaximum (by omega) ?_).bind (fun e cs' ms h => ?_) fun stream cs' ms h => ?_
  · -- any first part of the chunks stands behind the command that asked for them
    rintro bs₁ bs₂ cs' hbs ⟨bytes, hbytes⟩
    refine ⟨rfl, .inr ⟨cs, cs', bs₁, bs₂, bytes, rfl, hcommanded, hbs, hbytes, ?_⟩⟩
    rw [hcurrent, Nat.zero_add, hbytes.length, blockBytes_eq_length]
  · rw [hcurrent] at h
    exact (hclimbs h.1.behind).truthful fun ⟨a, ha⟩ => absurd ha (by simp)
  · refine Announces.imp (R := fun _ _ ms => ms = []) ?_ ?_
    · -- whether the stream ends in its check is told by no report
      cases Checksum.stripCrc16? stream with
      | some image => exact .silent (.pure _)
      | none => exact .silent ((eventless_silent.warn _).bind fun _ => .throw _)
    rintro r cs'' _ rfl
    rw [List.map_nil, List.append_nil]
    rw [hcurrent] at h
    refine (hclimbs h.1.behind).truthful fun _ => ?_
    rw [Mark.reached_behind]
    show Mark.reached p.current.toNat ms = _
    rw [hcurrent, h.2 ⟨stream, rfl⟩, hbytes]

theorem announces_foreach (keep : List Dive → Bool) :
    Announces (fun r _ ms => Mark.Truthful Streaming r ms)
      (foreach keep : Op σ SensusPro (List Dive)) := by
  exact announces_dump.truthful_bind fun image =>
    .silent (Records.get.bind fun _ => .report (fun _ => rfl) (fun _ => rfl) _)

end SensusPro

/-! ### Devices -/

namespace Device

variable {σ α : Type} [Link σ]

/-- The calls of a dump that have brought so many of all bytes. -/
def dumping : Family → Transcript → Nat → Nat → Prop
  | .sensusPro => SensusPro.Streaming
  | .vyper2 => Vyper2.Dumping

/-- The calls of a download that have brought so many of all bytes. -/
def downloading : Family → Transcript → Nat → Nat → Prop
  | .sensusPro => SensusPro.Streaming
  | .vyper2 => Vyper2.Downloading

omit [Link σ] in
/-- The reports of an operation that leads from one device to another and ends with `r`: they climb
to one total, and if the operation succeeds and its caller wants events, the last one says that all
is done. -/
def Tells (T : Transcript → Nat → Nat → Prop) (d t : Device σ) (r : Except DeviceError α) : Prop :=
  ∃ es total, t.history = d.history ++ es ∧
    Mark.Climbs (fun cs n => T cs n total) total 0 (Entry.marks es) ∧
    ((∃ a, r = .ok a) → d.listening = true → ∃ m, (Entry.marks es).getLast? = some m ∧
      m.progress.current = m.progress.maximum)

/-- **The progress that is reported is the progress that was made.**  This holds of a dump into any
vector, and of a download that the caller may end at any dive. -/
theorem progress_truthful (d : Device σ) :
    (∀ vector, Tells (dumping d.family) d (d.dumpInto vector).2 (d.dumpInto vector).1.outcome) ∧
      ∀ keep, Tells (downloading d.family) d (d.foreach keep).2 (d.foreach keep).1 := by
  -- a receipt is a success only if the dump is
  have hdone : ∀ {r : Except DeviceError Bytes},
      (∃ u, (Receipt.ofExcept r).outcome = .ok u) → ∃ image, r = .ok image := by
    rintro (e | image) ⟨u, hu⟩
    · exact absurd hu (by simp [Receipt.ofExcept, Receipt.refused])
    · exact ⟨image, rfl⟩
  cases d with
  | sensusPro s =>
    refine ⟨fun vector => ?_, fun keep => (SensusPro.announces_foreach keep).told s⟩
    obtain ⟨es, total, hhistory, hclimbs, hlast⟩ := SensusPro.announces_dump.told s
    rw [dumpInto_eq, dump_sensusPro]
    exact ⟨es, total, hhistory, hclimbs, fun hr => hlast (hdone hr)⟩
  | vyper2 s =>
    refine ⟨fun vector => ?_, fun keep => (Vyper2.announces_foreach keep).told s⟩
    obtain ⟨es, total, hhistory, hclimbs, hlast⟩ := Vyper2.announces_dump.told s
    rw [dumpInto_eq, dump_vyper2]
    exact ⟨es, total, hhistory, hclimbs, fun hr => hlast (hdone hr)⟩

end Device
end DiveLink
