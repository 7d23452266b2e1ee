import Mathlib.Data.List.Forall2
import DiveLink.Proofs.Ring.Address
import DiveLink.Proofs.Session.Compositional
import DiveLink.Proofs.Session.Exchange

/-!
# What a Vyper2 delivers

Before dives are walked through, the version block, the serial number, the header of the ring and
the bytes in use are downloaded.  The link may deliver anything; but each byte that is used was data
of an answer that fits the command for a block around its address.

## Main definitions

* `Vyper2.reported` — the session behind a report of progress.
* `Vyper2.download` — the part of `Vyper2.foreach` that uses the link.
* `Vyper2.Obtained`, `Vyper2.Delivered` — a block, and one byte, as delivered by the link.
* `Vyper2.Downloaded` — what a download that succeeded has delivered.

## Main results

* `Vyper2.run_foreach` — `foreach` downloads and then reports a walk.
* `Vyper2.downloaded_of_run` — **what is downloaded was delivered**, the bytes of the ring in order.
* `Vyper2.handed_download` — a download hands out no dive.
-/

namespace DiveLink

namespace Vyper2

open Session

variable {σ δ : Type} [Link σ] {s t : Session σ δ} {es : List Entry}

/-! ### Blocks -/

/-- In the course of `es` the block `b` was read and has the bytes `data`: an exchange for it
succeeded, and these are the data of its answer. -/
def Obtained (es : List Entry) (b : Block) (data : Bytes) : Prop :=
  ∃ answer part, part <:+: es ∧ Packet.Exchanged settle (readCommand b) answer b.size part ∧
    answer.length = Packet.overhead + rangeParameters + b.size ∧
    data = Packet.data answer rangeParameters b.size

/-- In the course of `es` the byte `x` was delivered for an address. -/
def Delivered (es : List Entry) (address : Nat) (x : UInt8) : Prop :=
  ∃ b data i, Obtained es b data ∧ address = b.address + i ∧ data[i]? = some x

theorem Obtained.mono {es es' : List Entry} {b : Block} {data : Bytes} (hes : es <:+: es')
    (h : Obtained es b data) : Obtained es' b data := by
  obtain ⟨answer, part, hpart, h⟩ := h
  exact ⟨answer, part, hpart.trans hes, h⟩

theorem Obtained.length {b : Block} {data : Bytes} (h : Obtained es b data) :
    data.length = b.size := by
  obtain ⟨answer, part, -, -, hlen, rfl⟩ := h
  rw [Packet.data, Bytes.length_slice, hlen]
  unfold Packet.overhead rangeParameters
  omega

/-- The bytes of a block were delivered for its addresses. -/
theorem Obtained.delivered {b : Block} {data : Bytes} (h : Obtained es b data) :
    List.Forall₂ (Delivered es) (RingAddress.addresses b) data := by
  rw [List.forall₂_iff_get]
  refine ⟨by rw [RingAddress.addresses, List.length_range', h.length], fun i hi hi' => ?_⟩
  refine ⟨b, data, i, h, ?_, ?_⟩
  · simp [RingAddress.addresses, List.getElem_range']
  · rw [List.get_eq_getElem, List.getElem?_eq_getElem hi']

theorem run_readBlock_eq_ok {b : Block} {data : Bytes} :
    run (readBlock b) s = (.ok data, t) ↔ ∃ answer,
      Packet.Succeeds settle (readCommand b) answer b.size s ∧
        answer.length = Packet.overhead + rangeParameters + b.size ∧
        data = Packet.data answer rangeParameters b.size ∧
        t = Packet.after settle (readCommand b) answer.length s := by
  unfold readBlock
  rw [run_bind_eq_ok]
  constructor
  · rintro ⟨answer, u, hask, hret⟩
    obtain ⟨h, hlen, rfl⟩ := Packet.run_ask_eq_ok.1 hask
    cases hret
    exact ⟨answer, h, hlen, rfl, rfl⟩
  · rintro ⟨answer, h, hlen, rfl, rfl⟩
    exact ⟨answer, _, Packet.run_ask_eq_ok.2 ⟨h, hlen, rfl⟩, rfl⟩

theorem obtained_of_run {b : Block} {data : Bytes} (h : run (readBlock b) s = (.ok data, t)) :
    ∃ es, Grows s t es ∧ Obtained es b data := by
  obtain ⟨answer, hs, hlen, rfl, rfl⟩ := run_readBlock_eq_ok.1 h
  obtain ⟨es, hgrows, hex⟩ := hs.grows
  exact ⟨es, hgrows, answer, es, List.infix_rfl, hex, hlen, rfl⟩

/-- The session behind a report of progress, if there is progress to report. -/
def reported (progress : Option Progress) (s : Session σ δ) : Session σ δ :=
  progress.elim s fun p => (run (emit (.progress p)) s).2

omit [Link σ] in
theorem grows_reported (progress : Option Progress) (s : Session σ δ) :
    ∃ es, Grows s (reported progress s) es := by
  cases progress with
  | none => exact ⟨[], .refl s⟩
  | some p => exact ⟨_, grows_emit (.progress p) s⟩

/-- A block that is not read is the last. -/
theorem run_readBlocks_cons_error {progress : Option Progress} {b : Block} {bs : List Block}
    {e : DeviceError} (h : run (readBlock b) s = (.error e, t)) :
    run (readBlocks progress (b :: bs)) s = (.ok ⟨[], .error e⟩, t) := by
  rw [readBlocks, run_bind_ok (run_outcome _ s), h]
  rfl

/-- Behind a block that was read the others are, with or without a report of progress. -/
theorem run_readBlocks_cons_ok {progress : Option Progress} {b : Block} {bs : List Block}
    {data : Bytes} (h : run (readBlock b) s = (.ok data, t)) :
    run (readBlocks progress (b :: bs)) s =
      run (do
        let rest ← readBlocks (progress.map (·.advance b.size)) bs
        return ⟨data :: rest.chunks, rest.outcome⟩)
        (reported (progress.map (·.advance b.size)) t) := by
  rw [readBlocks, run_bind_ok (run_outcome _ s), h]
  cases progress with
  | none => rfl
  | some p =>
    have hemit : run (emit (.progress (p.advance b.size))) t =
        (.ok (), (run (emit (.progress (p.advance b.size))) t).2) := by rw [run_emit]
    exact run_bind_ok hemit _

/-- **Blocks are read up to the first failure.**  This never fails itself; what it gives are the
data of the first of the blocks, and it says that all went well exactly if these are all blocks. -/
theorem obtained_of_readBlocks : ∀ (bs : List Block) (progress : Option Progress)
    (s : Session σ δ), ∃ f t es, run (readBlocks progress bs) s = (.ok f, t) ∧ Grows s t es ∧
      List.Forall₂ (Obtained es) (bs.take f.chunks.length) f.chunks ∧
      (f.outcome = .ok () ↔ bs.length ≤ f.chunks.length) := by
  intro bs
  induction bs with
  | nil =>
    intro progress s
    exact ⟨_, s, [], rfl, .refl s, .nil, by simp⟩
  -- the block, then the report of it, and the blocks behind it
  | cons b bs ih =>
    intro progress s
    obtain ⟨es₀, hgrows₀, -⟩ := (compositional_records (P := fun _ => True) (σ := σ) (δ := δ)
      (fun _ _ => trivial) (fun _ => trivial) fun _ => trivial).readBlock b s
    rcases hread : run (readBlock b) s with ⟨e | data, u⟩
    · rw [hread] at hgrows₀
      exact ⟨_, u, es₀, run_readBlocks_cons_error hread, hgrows₀, .nil, by simp⟩
    · obtain ⟨es, hgrows, hobtained⟩ := obtained_of_run hread
      obtain ⟨es', hgrows'⟩ := grows_reported (progress.map (·.advance b.size)) u
      obtain ⟨f, w, es'', hrest, hgrows'', hall, hok⟩ := ih (progress.map (·.advance b.size))
        (reported (progress.map (·.advance b.size)) u)
      refine ⟨⟨data :: f.chunks, f.outcome⟩, w, es ++ es' ++ es'', ?_,
        (hgrows.trans hgrows').trans hgrows'', .cons ?_ ?_, by simpa using hok⟩
      · exact (run_readBlocks_cons_ok hread).trans (run_bind_ok hrest _)
      · exact hobtained.mono ⟨[], es' ++ es'', by simp⟩
      · exact hall.imp fun _ _ h => h.mono ⟨es ++ es', [], by simp⟩

/-! ### The ring -/

/-- The addresses of the bytes in use, from the start of the ring to its end. -/
def usedAddresses (h : RingHeader) : List Nat :=
  (List.range h.used).map fun i => (h.start.advance i).val

@[simp] theorem length_usedAddresses (h : RingHeader) : (usedAddresses h).length = h.used := by
  simp [usedAddresses]

/-- A word holds the number of the bytes in the header of a ring and of those in use. -/
theorem total_lt (h : RingHeader) : RingHeader.length + h.used < 4294967296 := by
  have hused := h.used_le
  rw [RingAddress.ring_numbers.2.2] at hused
  rw [RingHeader.length]
  omega

theorem toNat_total (h : RingHeader) :
    (UInt32.ofNat (RingHeader.length + h.used)).toNat = 8 + h.used := by
  rw [UInt32.toNat_ofNat', Nat.mod_eq_of_lt (total_lt h)]
  rfl

/-- The header is a part of what is downloaded. -/
theorem header_within (h : RingHeader) :
    (Progress.start (UInt32.ofNat (RingHeader.length + h.used))).current.toNat +
        RingHeader.length ≤
      (Progress.start (UInt32.ofNat (RingHeader.length + h.used))).maximum.toNat := by
  rw [Progress.start_maximum, toNat_total]
  exact (Nat.zero_add 8).symm ▸ Nat.le_add_right 8 h.used

/-- The progress of a download behind the header of the ring. -/
theorem header_progress (h : RingHeader) :
    ((Progress.start (UInt32.ofNat (RingHeader.length + h.used))).advance
        RingHeader.length).maximum.toNat = 8 + h.used ∧
      ((Progress.start (UInt32.ofNat (RingHeader.length + h.used))).advance
        RingHeader.length).current.toNat = 8 := by
  refine ⟨?_, ?_⟩
  · rw [Progress.advance_maximum, Progress.start_maximum, toNat_total]
  · rw [Progress.toNat_advance (header_within h)]
    rfl

/-- The bytes of the ring are those that were delivered for its addresses, in order. -/
theorem delivered_of_readRing {h : RingHeader} {data : Bytes}
    (hrun : run (readRing h) s = (.ok data, t)) :
    ∃ es, Grows s t es ∧ List.Forall₂ (Delivered es) (usedAddresses h) data := by
  unfold readRing readAll at hrun
  obtain ⟨_, u, hemit, hrun⟩ := run_bind_eq_ok.1 hrun
  obtain ⟨chunks, v, hall, hret⟩ := run_bind_eq_ok.1 hrun
  obtain ⟨f, w, hblocks, hall⟩ := run_bind_eq_ok.1 hall
  obtain ⟨_, x, hlift, hchunks⟩ := run_bind_eq_ok.1 hall
  obtain ⟨hok, rfl⟩ := run_lift_eq_ok.1 hlift
  cases hchunks
  cases hret
  -- the report in front of the blocks adds entries, but no byte
  obtain ⟨es, hgrows⟩ : ∃ es, Grows s u es := by
    have hgrows := grows_emit (.progress ((Progress.start
      (UInt32.ofNat (RingHeader.length + h.used))).advance RingHeader.length)) s
    rw [hemit] at hgrows
    exact ⟨_, hgrows⟩
  obtain ⟨f', w', es', hblocks', hgrows', hobtained, hall⟩ := obtained_of_readBlocks
    (h.stop.blocksBefore blockSize h.used) _ u
  obtain ⟨rfl, rfl⟩ : f = f' ∧ t = w' := by simpa using hblocks.symm.trans hblocks'
  -- all blocks were answered, since the run is a success
  rw [List.take_of_length_le (hall.1 hok)] at hobtained
  refine ⟨es ++ es', hgrows.trans hgrows', ?_⟩
  -- the blocks come latest first, and put in order they tile the used part of the ring
  rw [usedAddresses, ← RingAddress.blocksBefore_addresses (show blockSize ≠ 0 by decide) _ _ _
    h.advance_used]
  refine List.rel_flatten ?_
  rw [List.forall₂_map_left_iff, List.forall₂_reverse_iff]
  exact hobtained.imp fun _ _ h => (h.mono ⟨es, [], by simp⟩).delivered

/-! ### The download -/

/-- The part of `foreach` that uses the link: the version block, the header of the ring and its
bytes in use. -/
def download : Op σ δ (Bytes × RingHeader × Bytes) := do
  let version ← readVersion
  let serial ← readBlock serialBlock
  emit (.devInfo (identity version serial))
  match RingHeader.parse (← readBlock headerBlock) with
  | .error f => reject f
  | .ok header =>
    let data ← readRing header
    return (version, header, data)

theorem foreach_eq (keep : List Dive → Bool) :
    (foreach keep : Op σ Vyper2 (List Dive)) =
      download >>= fun x => get >>= fun r =>
        report ((x.2.1.walk (fingerprintOffset x.1) x.2.2).cut
          (isKnown r.device.fingerprint) keep) := by
  unfold foreach download
  simp only [bind_assoc]
  refine bind_congr fun version => bind_congr fun serial => bind_congr fun _ =>
    bind_congr fun raw => ?_
  cases RingHeader.parse raw with
  | error f => rfl
  | ok header => simp only [bind_assoc, pure_bind]

/-- **`foreach` downloads, and then reports a walk through what it has.** -/
theorem run_foreach (keep : List Dive → Bool) (s : Session σ Vyper2) :
    run (foreach keep) s =
      match run download s with
      | (.error e, t) => (.error e, t)
      | (.ok (version, h, data), t) =>
        run (report ((h.walk (fingerprintOffset version) data).cut
          (isKnown t.device.fingerprint) keep)) t := by
  rw [foreach_eq, run_bind]
  rcases run download s with ⟨e | ⟨version, h, data⟩, t⟩
  · rfl
  · exact run_bind_ok (run_get t) _

/-- What a download that succeeded has delivered: the version block, the header and the bytes of the
ring in use, in the order of the ring. -/
structure Downloaded (es : List Entry) (version : Bytes) (h : RingHeader) (data : Bytes) :
    Prop where
  version : ∃ answer part, part <:+: es ∧
    Packet.Exchanged settle versionCommand answer versionSize part ∧
    answer.length = Packet.overhead + versionSize ∧ version = Packet.data answer 0 versionSize
  header : ∃ raw, Obtained es headerBlock raw ∧ RingHeader.parse raw = .ok h
  ring : List.Forall₂ (Delivered es) (usedAddresses h) data

theorem Downloaded.length {version : Bytes} {h : RingHeader} {data : Bytes}
    (hd : Downloaded es version h data) : data.length = h.used := by
  rw [← hd.ring.length_eq, length_usedAddresses]

/-- **What is downloaded was delivered.** -/
theorem downloaded_of_run {version : Bytes} {h : RingHeader} {data : Bytes}
    (hrun : run download s = (.ok (version, h, data), t)) :
    ∃ es, Grows s t es ∧ Downloaded es version h data := by
  unfold download at hrun
  obtain ⟨version', s₁, hversion, hrun⟩ := run_bind_eq_ok.1 hrun
  unfold readVersion at hversion
  obtain ⟨answer, _, hask, hret⟩ := run_bind_eq_ok.1 hversion
  obtain ⟨hsucceeds, hlen, rfl⟩ := Packet.run_ask_eq_ok.1 hask
  cases hret
  obtain ⟨serial, s₂, hserial, hrun⟩ := run_bind_eq_ok.1 hrun
  obtain ⟨_, s₃, hemit, hrun⟩ := run_bind_eq_ok.1 hrun
  obtain ⟨raw, s₄, hraw, hrun⟩ := run_bind_eq_ok.1 hrun
  obtain ⟨es₁, h₁, hex⟩ := hsucceeds.grows
  obtain ⟨es₂, h₂, -⟩ := obtained_of_run hserial
  -- that a device tells who it is adds entries, but no byte
  obtain ⟨es₃, h₃⟩ : ∃ es, Grows s₂ s₃ es := by
    have hgrows := grows_emit (.devInfo (identity (Packet.data answer 0 versionSize) serial)) s₂
    rw [hemit] at hgrows
    exact ⟨_, hgrows⟩
  obtain ⟨es₄, h₄, hheader⟩ := obtained_of_run hraw
  -- a header that makes no sense ends the run in a failure
  cases hparse : RingHeader.parse raw with
  | error f =>
    rw [hparse, run_reject] at hrun
    exact absurd hrun (by simp)
  | ok header =>
    rw [hparse] at hrun
    obtain ⟨data', s₅, hring, hret⟩ := run_bind_eq_ok.1 hrun
    cases hret
    obtain ⟨es₅, h₅, hdelivered⟩ := delivered_of_readRing hring
    -- the entries of each step lie among those of the whole run
    refine ⟨es₁ ++ es₂ ++ es₃ ++ es₄ ++ es₅, (((h₁.trans h₂).trans h₃).trans h₄).trans h₅,
      ⟨answer, es₁, ⟨[], es₂ ++ es₃ ++ es₄ ++ es₅, by simp⟩, hex, hlen, rfl⟩,
      ⟨raw, hheader.mono ⟨es₁ ++ es₂ ++ es₃, es₅, by simp⟩, hparse⟩, hdelivered.imp ?_⟩
    rintro a x ⟨b, bytes, i, hobtained, hrest⟩
    exact ⟨b, bytes, i, hobtained.mono ⟨es₁ ++ es₂ ++ es₃ ++ es₄, [], by simp⟩, hrest⟩

/-! ### No dives -/

theorem compositional_download {Q : ∀ {α : Type}, Op σ δ α → Prop} (hQ : Compositional Q) :
    Q (download : Op σ δ (Bytes × RingHeader × Bytes)) := by
  unfold download
  refine hQ.bind hQ.readVersion fun version => hQ.bind (hQ.readBlock _) fun serial =>
    hQ.bind (hQ.emit _) fun _ => hQ.bind (hQ.readBlock _) fun raw => ?_
  cases RingHeader.parse raw with
  | error f => exact hQ.reject f
  | ok header => exact hQ.bind (hQ.readRing header) fun _ => hQ.pure _

/-- A download hands out no dive, and leaves the device alone. -/
theorem handed_download (s : Session σ δ) :
    (run (download : Op σ δ (Bytes × RingHeader × Bytes)) s).2.handed = s.handed ∧
      (run (download : Op σ δ (Bytes × RingHeader × Bytes)) s).2.device = s.device := by
  obtain ⟨es, hgrows, hnone⟩ := compositional_download
    (compositional_records (P := fun e => e.dive? = none) (fun _ _ => rfl) (fun _ => rfl)
      fun _ => rfl) s
  exact ⟨hgrows.handed_of_none hnone, hgrows.device⟩

end Vyper2
end DiveLink
