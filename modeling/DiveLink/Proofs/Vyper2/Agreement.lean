import DiveLink.Proofs.Bench
import DiveLink.Proofs.Incremental
import DiveLink.Proofs.Vyper2.Requests

/-!
# A dump and a download of dives agree

The whole memory of a device can be dumped, and its dives can be downloaded on their own, from the
newest byte of the ring backwards.  On a link that works both come to the same: the dives that are
handed out are those that a walk through the dumped memory finds, and the device is the same one.

## Main definitions

* `Vyper2.imageHeader`, `Vyper2.imageWalk` — the header of the ring in a memory image, and the walk
  through the ring.
* `Vyper2.imageIdentity` — the identity of a device with such a memory.

## Main results

* `Vyper2.run_dump`, `Vyper2.run_download` — what a dump and a download give, and what they ask for.
* `Device.dump_foreach` — **a dump and a download of dives agree.**
-/

namespace DiveLink
namespace Vyper2

open Session

/-! ### The ring in a memory image -/

/-- The header of the ring in a memory image. -/
def imageHeader (memory : Bytes) : Except DataFault RingHeader :=
  RingHeader.parse (memory.slice headerBlock.address headerBlock.size)

/-- The bytes in use of the ring in a memory image, in the order of the ring. -/
def ringBytes (memory : Bytes) (h : RingHeader) : Bytes :=
  (usedAddresses h).map fun a => memory.getD a 0

/-- The walk through the ring in a memory image. -/
def imageWalk (version memory : Bytes) : Walk :=
  match imageHeader memory with
  | .error f => .broken f
  | .ok h => h.walk (fingerprintOffset version) (ringBytes memory h)

/-- The identity of a device with this version block and this memory: the model, the three bytes of
firmware, and the serial number at its place in memory. -/
def imageIdentity (version memory : Bytes) : DevInfo where
  model := version.byteAt 0
  firmware := Bytes.be24 (version.drop 1)
  serial := (Bytes.decimalPairs (memory.slice 0x23 4)).toNat

theorem identity_slice (version memory : Bytes) :
    identity version (memory.slice serialBlock.address serialBlock.size) =
      imageIdentity version memory := rfl

/-! ### The two operations -/

variable {σ δ : Type} [Link σ] {At : Simulator → Bytes → σ → Prop} {version memory : Bytes}
  {s : Session σ δ}

/-- A dump gives the memory of the device, and reports who it is. -/
theorem run_dump (hs : Serves At version memory s) (hv : version.length = versionSize)
    (hm : memory.length = memorySize) :
    ∃ t, run dump s = (.ok memory, t) ∧
      Traced s t (versionCommand :: (Block.tile blockSize 0 memorySize).map readCommand)
        [imageIdentity version memory] := by
  obtain ⟨s₁, h₁, hs₁⟩ := yields_readVersion hv s hs
  obtain ⟨s₂, h₂, hs₂⟩ := Yields.emit (.progress (Progress.start (UInt32.ofNat memorySize))) s₁ hs₁
  obtain ⟨s₃, h₃, hs₃⟩ := yields_readAll (some (Progress.start (UInt32.ofNat memorySize)))
    (fun b => addressable_of_mem_tile (Nat.le_of_eq (Nat.zero_add memorySize))) s₂ hs₂
  obtain ⟨s₄, h₄, hs₄⟩ := Yields.emit
    (.devInfo (imageIdentity version memory)) s₃ hs₃
  -- what the blocks bring, one behind the other, is the memory
  have himage := flatten_tile memory 0 memorySize
  rw [← hm, Memory.load_all, hm] at himage
  refine ⟨s₄, ?_, by simpa [Event.identity?] using (((traced_readVersion h₁).trans
    (traced_emit h₂)).trans (traced_readAll h₃)).trans (traced_emit h₄)⟩
  unfold dump
  rw [run_bind_ok h₁, run_bind_ok h₂, run_bind_ok h₃]
  simp only [himage, identity_slice]
  rw [run_bind_ok h₄]
  rfl

/-- A download gives the header and the bytes in use of the ring in the memory, and reports who the
device is.  With a header that makes no sense it fails, and asks for no byte of the ring. -/
theorem run_download (hs : Serves At version memory s) (hv : version.length = versionSize)
    (hm : memory.length = memorySize) :
    ∃ t blocks, Traced s t ([versionCommand, readCommand serialBlock, readCommand headerBlock] ++
        blocks.map readCommand)
          [imageIdentity version memory] ∧
      (∀ f, imageHeader memory = .error f →
        run download s = (.error (.dataFormat f), t) ∧ blocks = []) ∧
      ∀ h, imageHeader memory = .ok h →
        run download s = (.ok (version, h, ringBytes memory h), t) ∧ Covers blocks h := by
  have hslice : ∀ b : Block, b.address + b.size ≤ memorySize →
      Memory.load memory b.address b.size = memory.slice b.address b.size :=
    fun b hb => Memory.load_eq_slice (by rwa [hm])
  -- the first three answers are the same whatever the header says
  obtain ⟨s₁, h₁, hs₁⟩ := yields_readVersion hv s hs
  obtain ⟨s₂, h₂, hs₂⟩ := yields_readBlock (b := serialBlock) ⟨by decide, by decide⟩ s₁ hs₁
  rw [hslice serialBlock (by decide)] at h₂
  obtain ⟨s₃, h₃, hs₃⟩ := Yields.emit
    (.devInfo (imageIdentity version memory)) s₂ hs₂
  obtain ⟨s₄, h₄, hs₄⟩ := yields_readBlock (b := headerBlock) ⟨by decide, by decide⟩ s₃ hs₃
  rw [hslice headerBlock (by decide)] at h₄
  have htraced : Traced s s₄ [versionCommand, readCommand serialBlock, readCommand headerBlock]
      [imageIdentity version memory] := by
    simpa [Event.identity?] using (((traced_readVersion h₁).trans (traced_readBlock h₂)).trans
      (traced_emit h₃)).trans (traced_readBlock h₄)
  cases hheader : imageHeader memory with
  -- a header that makes no sense ends the download before the ring is read
  | error f =>
    have hrun : run download s = run (reject f) s₄ := by
      unfold imageHeader at hheader
      unfold download
      simp only [run_bind_ok h₁, run_bind_ok h₂, identity_slice, run_bind_ok h₃, run_bind_ok h₄,
        hheader]
    refine ⟨_, [], htraced.trans (traced_reject (α := Bytes) f s₄), ?_, by simp⟩
    intro f' hf
    cases hf
    exact ⟨hrun.trans (run_reject f s₄), rfl⟩
  | ok h =>
    obtain ⟨s₅, h₅, -⟩ := yields_readRing h s₄ hs₄
    have hrun : run download s = (.ok (version, h, ringBytes memory h), s₅) := by
      unfold imageHeader at hheader
      unfold download
      simp only [run_bind_ok h₁, run_bind_ok h₂, identity_slice, run_bind_ok h₃, run_bind_ok h₄,
        hheader, run_bind_ok h₅]
      rfl
    refine ⟨s₅, h.stop.blocksBefore blockSize h.used, htraced.trans (traced_readRing h₅),
      by simp, ?_⟩
    intro h' hh
    cases hh
    exact ⟨hrun, covers_blocksBefore h⟩

/-- The dives of the ring in the memory are handed out, up to a known one and for as long as the
caller wants them. -/
theorem run_foreach_image {s : Session σ Vyper2} (hs : Serves At version memory s)
    (hv : version.length = versionSize) (hm : memory.length = memorySize)
    (keep : List Dive → Bool) :
    ∃ u blocks, run (foreach keep) s =
        (((imageWalk version memory).cut (isKnown s.device.fingerprint) keep).ending, u) ∧
      u.handed = s.handed ++
        ((imageWalk version memory).cut (isKnown s.device.fingerprint) keep).dives ∧
      Traced s u ([versionCommand, readCommand serialBlock, readCommand headerBlock] ++
        blocks.map readCommand) [imageIdentity version memory] ∧
      (∀ h, imageHeader memory = .ok h → Covers blocks h) ∧
      ∀ f, imageHeader memory = .error f → blocks = [] ∧
        (run (foreach keep) s).1 = .error (.dataFormat f) := by
  obtain ⟨v, blocks, htraced, hbroken, hwhole⟩ := run_download hs hv hm
  obtain ⟨hhanded, hdevice⟩ := handed_download s
  unfold imageWalk
  cases hheader : imageHeader memory with
  | error f =>
    obtain ⟨hdownload, hblocks⟩ := hbroken f hheader
    have hrun : run (foreach keep) s = (.error (.dataFormat f), v) := by
      rw [run_foreach, hdownload]
    rw [hdownload] at hhanded
    refine ⟨v, blocks, hrun, hhanded.trans (List.append_nil _).symm, htraced, by simp, ?_⟩
    intro f' hf
    cases hf
    exact ⟨hblocks, congrArg Prod.fst hrun⟩
  | ok h =>
    obtain ⟨hdownload, hcovers⟩ := hwhole h hheader
    rw [hdownload] at hhanded hdevice
    simp only
    -- the dives of the image are cut as `foreach` cuts those that it reads
    obtain ⟨w, hw⟩ : ∃ w, w = (h.walk (fingerprintOffset version) (ringBytes memory h)).cut
      (isKnown s.device.fingerprint) keep := ⟨_, rfl⟩
    have hrun : run (foreach keep) s = run (report w) v := by
      rw [run_foreach, hdownload, hw, ← show v.device = s.device from hdevice]
    rw [← hw]
    refine ⟨(run (report w) v).2, blocks, ?_, ?_, ?_, ?_, by simp⟩
    · rw [hrun]
      exact Prod.ext (run_report w v).1 rfl
    · rw [handed_report, show v.handed = s.handed from hhanded]
    · simpa using htraced.trans (traced_report w v)
    · intro h' hh
      cases hh
      exact hcovers

end Vyper2

/-! ### Both agree -/

/-- **A dump and a download of dives agree** on a link that works.  A dump gives the whole memory;
both report the same identity; and the dives that are handed out, for whatever is known and wherever
the caller stops, are those of a walk through the dumped memory.  Each byte of the ring in use is
asked for once and no byte outside of the ring is, and with a header that makes no sense none is. -/
theorem Device.dump_foreach {σ : Type} [Link σ] {At : Vyper2.Simulator → Bytes → σ → Prop}
    {version memory : Bytes} {s : Session σ Vyper2} (hs : Vyper2.Serves At version memory s)
    (hv : version.length = Vyper2.versionSize) (hm : memory.length = Vyper2.memorySize)
    (keep : List Dive → Bool) :
    ∃ t u, Device.dump (.vyper2 s) = (.whole memory, .vyper2 t) ∧
      Device.foreach keep (.vyper2 s) = (((Vyper2.imageWalk version memory).cut
        (Vyper2.isKnown s.device.fingerprint) keep).ending, .vyper2 u) ∧
      u.handed = s.handed ++ ((Vyper2.imageWalk version memory).cut
        (Vyper2.isKnown s.device.fingerprint) keep).dives ∧
      t.identities = s.identities ++
        (if s.listening then [Vyper2.imageIdentity version memory] else []) ∧
      u.identities = t.identities ∧
      ∃ blocks, u.sent = s.sent ++ [Vyper2.versionCommand, Vyper2.readCommand Vyper2.serialBlock,
          Vyper2.readCommand Vyper2.headerBlock] ++ blocks.map Vyper2.readCommand ∧
        (∀ h, Vyper2.imageHeader memory = .ok h → Vyper2.Covers blocks h) ∧
        ∀ f, Vyper2.imageHeader memory = .error f → blocks = [] ∧
          (Device.foreach keep (.vyper2 s)).1 = .error (.dataFormat f) := by
  obtain ⟨t, hdump, htraced⟩ := Vyper2.run_dump hs hv hm
  obtain ⟨u, blocks, hforeach, hhanded, htraced', hcovers, hbroken⟩ :=
    Vyper2.run_foreach_image hs hv hm keep
  refine ⟨t, u, ?_, ?_, hhanded, htraced.identities, ?_, blocks, ?_, hcovers, ?_⟩
  · rw [Device.dump, Device.fill, Device.run_vyper2, Session.run_map, hdump]
    rfl
  · rw [Device.foreach, Device.run_vyper2, hforeach]
  · rw [htraced'.identities, htraced.identities]
  · rw [htraced'.sent, List.append_assoc]
  · rw [Device.foreach, Device.run_vyper2]
    exact hbroken

/-- A ring with one dive, on a bench on which nothing goes wrong and with a caller who listens. -/
theorem Device.dump_foreach_one_dive :
    let dive : Bytes := [0x00, 0x00, 0xB6, 0x01] ++ List.replicate 24 7
    let memory : Bytes := List.replicate 0x0190 0 ++
      [0x9A, 0x01, 0x01, 0x00, 0xB6, 0x01, 0x9A, 0x01, 0x00, 0x00] ++ dive ++
        List.replicate 0x7E4A 0
    let s : Session Bench.LinkBench Vyper2 :=
      { Session.start (Bench.simulating [0x13, 1, 2, 3] memory) ⟨none⟩ ⟨0⟩ with listening := true }
    memory.length = Vyper2.memorySize ∧ ∃ t u,
      Device.dump (.vyper2 s) = (.whole memory, .vyper2 t) ∧
      Device.foreach (fun _ => true) (.vyper2 s) =
        (.ok [⟨0x019A, dive, List.replicate 7 7⟩], .vyper2 u) ∧
      u.handed = [⟨0x019A, dive, List.replicate 7 7⟩] ∧
      t.identities = [⟨0x13, 0x010203, 0⟩] ∧ u.identities = [⟨0x13, 0x010203, 0⟩] := by
  intro dive memory s
  have hmemory : memory.length = Vyper2.memorySize := by
    simp only [memory, dive, List.length_append, List.length_replicate]
    rfl
  have hserves : Vyper2.Serves (Bench.Holds ⟨0⟩) [0x13, 1, 2, 3] memory s :=
    have h := Bench.serves_simulating ⟨0⟩ (⟨none⟩ : Vyper2) [0x13, 1, 2, 3] memory
    ⟨h.wired, h.ready⟩
  have hwalk : Vyper2.imageWalk [0x13, 1, 2, 3] memory =
      ⟨[⟨0x019A, dive, List.replicate 7 7⟩], none⟩ := by decide +kernel
  have hidentity : Vyper2.imageIdentity [0x13, 1, 2, 3] memory = ⟨0x13, 0x010203, 0⟩ := by
    decide +kernel
  obtain ⟨t, u, hdump, hforeach, hhanded, hinfos, hinfos', -⟩ :=
    Device.dump_foreach hserves rfl hmemory fun _ => true
  -- the caller never stops and knows no dive
  have hcut : (Vyper2.imageWalk [0x13, 1, 2, 3] memory).cut
      (Vyper2.isKnown s.device.fingerprint) (fun _ => true) =
        ⟨[⟨0x019A, dive, List.replicate 7 7⟩], none⟩ := by
    rw [hwalk]
    exact Walk.cut_none _
  rw [hcut] at hforeach hhanded
  rw [hidentity] at hinfos
  exact ⟨hmemory, t, u, hdump, hforeach, hhanded, hinfos, hinfos'.trans hinfos⟩

end DiveLink
