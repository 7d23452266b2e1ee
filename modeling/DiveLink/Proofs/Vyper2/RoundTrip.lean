import DiveLink.Device
import DiveLink.Proofs.Bench
import DiveLink.Proofs.Ring.Stored
import DiveLink.Proofs.Vyper2.Download

/-!
# Dives that are stored are handed out

A device that has dives in the ring of its memory, each with the addresses of its neighbours, gives
them all back: whoever knows none of them and does not stop is handed each of them once, newest
first and byte for byte.

## Main definitions

* `Vyper2.Stored` — a memory in which some dives are stored.
* `Vyper2.layOut` — such a memory, for any dives.

## Main results

* `Vyper2.stored_layOut` — chained dives can be stored anywhere in the ring.
* `Vyper2.Stored.yields_download` — the stored dives are downloaded, end to end.
* `Vyper2.foreach_stored` — **the stored dives are handed out, newest first and all of them.**
-/

namespace DiveLink

namespace Vyper2

open Session

/-! ### The memory -/

/-- The memory of a device whose fingerprints stand at `offset` holds the dives `dives`, oldest
first, in the ring from the address `start` on.  `last` is where the newest of them starts, and any
address if there are none. -/
structure Stored (offset : Nat) (memory : Bytes) (last start : RingAddress) (dives : List Bytes) :
    Prop extends RingHeader.Chained start offset dives where
  newest : ∀ i, dives.length = i + 1 → last = start.boundary dives i
  header : Memory.load memory 0x0190 8 = (RingHeader.ofStored last start dives).toBytes
  /-- The dives lie end to end, around the ring. -/
  ring : ∀ i, (hi : i < dives.flatten.length) →
    memory[(start.advance i).val]? = some dives.flatten[i]

/-- A memory with nothing but the dives in its ring, and their header. -/
def layOut (last start : RingAddress) (dives : List Bytes) : Bytes :=
  (List.range ringEnd).map fun a =>
    if a < headerBlock.address then 0
    else if a < ringStart then
      (RingHeader.ofStored last start dives).toBytes.getD (a - headerBlock.address) 0
    else dives.flatten.getD ((a + ringSize - start.val) % ringSize) 0

theorem getElem?_layOut (last start : RingAddress) (dives : List Bytes) {i : Nat} (hi : i < 8) :
    (layOut last start dives)[0x0190 + i]? =
      some ((RingHeader.ofStored last start dives).toBytes.getD i 0) := by
  obtain ⟨hs, he, -⟩ := RingAddress.ring_numbers
  have hheader : headerBlock.address = 0x0190 := rfl
  rw [← hheader, layOut, List.getElem?_map, List.getElem?_range (by omega), Option.map_some,
    if_neg (by omega), if_pos (by omega), Nat.add_sub_cancel_left]

theorem getElem?_layOut_advance (last start : RingAddress) (dives : List Bytes) {i : Nat}
    (hi : i < ringSize) :
    (layOut last start dives)[(start.advance i).val]? = some (dives.flatten.getD i 0) := by
  obtain ⟨hs, he, hz⟩ := RingAddress.ring_numbers
  have hheader : headerBlock.address = 400 := rfl
  have hlow := (start.advance i).start_le
  -- the index of a byte is how far round the ring it lies behind `start`
  have hindex : ((start.advance i).val + ringSize - start.val) % ringSize = i := by
    have := start.start_le; have := start.lt_end
    rw [RingAddress.val_advance, hz]
    rw [hz] at hi
    omega
  rw [layOut, List.getElem?_map, List.getElem?_range (start.advance i).lt_end, Option.map_some,
    if_neg (by omega), if_neg (by omega), hindex]

/-- Any dives that are chained can be stored, wherever in the ring they start. -/
theorem stored_layOut {offset : Nat} {last start : RingAddress} {dives : List Bytes}
    (hc : RingHeader.Chained start offset dives)
    (hnewest : ∀ i, dives.length = i + 1 → last = start.boundary dives i) :
    Stored offset (layOut last start dives) last start dives where
  toChained := hc
  newest := hnewest
  header := by
    refine List.ext_getElem (by rw [Memory.length_load]; rfl) fun i hi hi' => ?_
    rw [Memory.length_load] at hi
    simp only [Memory.load_eq_map, List.getElem_map, List.getElem_range', Nat.one_mul,
      List.getD_eq_getElem?_getD]
    rw [getElem?_layOut last start dives hi, Option.getD_some]
    exact (List.getElem_eq_getD 0).symm
  ring := by
    intro i hi
    rw [getElem?_layOut_advance last start dives (Nat.lt_of_lt_of_le hi hc.fits)]
    exact congrArg some (List.getElem_eq_getD 0).symm

/-! ### The way back -/

variable {σ δ : Type} [Link σ] {At : Simulator → Bytes → σ → Prop} {version memory : Bytes}

section Stored

variable {offset : Nat} {last start : RingAddress} {dives : List Bytes}

/-- What lies at the addresses in use are the dives. -/
theorem Stored.bytes (hst : Stored offset memory last start dives) :
    ((usedAddresses (RingHeader.ofStored last start dives)).map fun a => memory.getD a 0) =
      dives.flatten := by
  refine List.ext_getElem (by simp [hst.used_ofStored]) fun i hi hi' => ?_
  simp only [usedAddresses, List.getElem_map, List.getElem_range, List.getD_eq_getElem?_getD]
  show (memory[(start.advance i).val]?).getD 0 = _
  rw [hst.ring i hi', Option.getD_some]

/-- The stored dives are downloaded, end to end, with the header that goes with them. -/
theorem Stored.yields_download (hv : version.length = versionSize)
    (hst : Stored offset memory last start dives) :
    Yields At version memory (download : Op σ δ (Bytes × RingHeader × Bytes))
      (version, RingHeader.ofStored last start dives, dives.flatten) := by
  have hserial : Addressable serialBlock := ⟨by decide, by decide⟩
  have hheader : Addressable headerBlock := ⟨by decide, by decide⟩
  refine (yields_readVersion hv).bind ((yields_readBlock hserial).bind ((Yields.emit _).bind
    ((yields_readBlock hheader).bind ?_)))
  rw [show Memory.load memory headerBlock.address headerBlock.size = _ from hst.header,
    RingHeader.parse_toBytes _ hst.count_lt]
  refine (yields_readRing _).bind ?_
  rw [hst.bytes]
  exact .pure _

theorem foreach_vyper2 (keep : List Dive → Bool) (s : Session σ Vyper2) :
    Device.foreach keep (.vyper2 s) =
      ((run (foreach keep) s).1, .vyper2 (run (foreach keep) s).2) := rfl

/-- **The stored dives are handed out, newest first and all of them**, by a device at the other end
of a link that works, if none of them is known and the caller never stops.  The model `m` says where
the fingerprint stands in a dive. -/
theorem foreach_stored {m : UInt8} {firmware : Bytes} {s : Session σ Vyper2}
    (hs : Serves At (m :: firmware) memory s) (hfirmware : firmware.length = 3)
    (hoffset : offset = if m = 0x15 then 0x1B else 0x15)
    (hst : Stored offset memory last start dives) (hfp : s.device.fingerprint = none) :
    ∃ t, Device.foreach (fun _ => true) (.vyper2 s) =
        (.ok (RingHeader.storedDives start offset dives).reverse, .vyper2 t) ∧
      t.handed = s.handed ++ (RingHeader.storedDives start offset dives).reverse := by
  have hversion : (m :: firmware).length = versionSize := congrArg (· + 1) hfirmware
  have hmodel : fingerprintOffset (m :: firmware) = offset := hoffset.symm
  obtain ⟨u, hdownload, -⟩ := hst.yields_download hversion s hs
  obtain ⟨hhanded, hdevice⟩ := handed_download s
  rw [hdownload] at hhanded hdevice
  have hwalk := RingHeader.walk_ofStored hst.toChained hst.newest
  -- nothing is known and nobody stops, so the walk is not cut
  have hunknown : isKnown u.device.fingerprint = fun _ => false := by
    rw [show u.device = s.device from hdevice, hfp]
    rfl
  have hrun : run (foreach fun _ => true) s =
      run (report ⟨(RingHeader.storedDives start offset dives).reverse, none⟩) u := by
    rw [run_foreach, hdownload]
    show run (report (Walk.cut _ _ (RingHeader.walk _ _ _))) u = _
    rw [hunknown, Walk.cut_none, hmodel, hwalk]
  refine ⟨(run (foreach fun _ => true) s).2, ?_, ?_⟩
  · rw [foreach_vyper2, hrun, (run_report _ u).1]
    rfl
  · rw [hrun, handed_report, show u.handed = s.handed from hhanded]

/-- Two dives of a model with six more bytes in front of the fingerprint, the older one across the
end of the ring, on a bench on which nothing goes wrong. -/
theorem foreach_stored_across_end :
    let start : RingAddress := ⟨0x7FEE, by decide, by decide⟩
    let last : RingAddress := ⟨0x01B2, by decide, by decide⟩
    let older : Bytes := [0x00, 0x00, 0xB2, 0x01] ++ List.replicate 23 1 ++ List.replicate 13 3
    let newer : Bytes := [0xEE, 0x7F, 0xDA, 0x01] ++ List.replicate 23 2 ++ List.replicate 13 4
    let bench := Bench.simulating [0x15, 1, 2, 3] (layOut last start [older, newer])
    ∃ t, Device.foreach (fun _ => true) (.vyper2 (Session.start bench ⟨none⟩ ⟨0⟩)) =
        (.ok [⟨0x01B2, newer, List.replicate 7 4⟩, ⟨0x7FEE, older, List.replicate 7 3⟩],
          .vyper2 t) ∧
      t.handed = [⟨0x01B2, newer, List.replicate 7 4⟩, ⟨0x7FEE, older, List.replicate 7 3⟩] := by
  intro start last older newer bench
  have hc : RingHeader.Chained start 0x1B [older, newer] := by
    have hpredecessor : (newer : Bytes).le16 = (start.boundary [older, newer] 0).val := by
      decide +kernel
    have hsuccessor : ∀ i : Fin 2, Bytes.le16 ([older, newer][i].drop 2) =
        (start.boundary [older, newer] (i + 1)).val := by decide +kernel
    refine ⟨by decide, by decide, fun i hi => ?_, fun i hi => hsuccessor ⟨i, hi⟩⟩
    obtain rfl : i = 0 := Nat.lt_one_iff.1 (Nat.lt_of_succ_lt_succ hi)
    exact hpredecessor
  have hnewest : ∀ i, [older, newer].length = i + 1 → last = start.boundary [older, newer] i := by
    rintro i hi
    obtain rfl : 1 = i := Nat.succ.inj hi
    exact RingAddress.ext_val (by decide +kernel)
  have hdives : (RingHeader.storedDives start 0x1B [older, newer]).reverse =
      [⟨0x01B2, newer, List.replicate 7 4⟩, ⟨0x7FEE, older, List.replicate 7 3⟩] := by
    decide +kernel
  have hmodel : 0x1B = if (0x15 : UInt8) = 0x15 then 0x1B else 0x15 := by decide
  have hserves := Bench.serves_simulating ⟨0⟩ (⟨none⟩ : Vyper2) [0x15, 1, 2, 3]
    (layOut last start [older, newer])
  have h := foreach_stored hserves rfl hmodel (stored_layOut hc hnewest) rfl
  rwa [hdives] at h

end Stored

end Vyper2
end DiveLink
