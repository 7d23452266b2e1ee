import Mathlib.Data.List.Nodup
import DiveLink.Proofs.Session.Traced
import DiveLink.Proofs.Vyper2.Download

/-!
# What a Vyper2 is asked for

Whoever has read some blocks has asked for them one after the other.  For the dives in the ring
these blocks are such that each byte in use is asked for once, and no byte outside of the ring is.

## Main definitions

* `Vyper2.Covers` — blocks that hold each byte in use once and lie in the ring.

## Main results

* `Vyper2.traced_readBlocks` — **blocks that were read were asked for one after the other.**
* `Vyper2.covers_blocksBefore` — **the blocks of the ring cover it.**
-/

namespace DiveLink
namespace Vyper2

open Session

variable {σ δ : Type} [Link σ] {s t : Session σ δ}

/-! ### Commands -/

theorem traced_readVersion {version : Bytes} (h : run readVersion s = (.ok version, t)) :
    Traced s t [versionCommand] [] := by
  obtain ⟨_, _, hask, hret⟩ := run_bind_eq_ok.1 h
  cases hret
  exact Packet.traced_ask hask

theorem traced_readBlock {b : Block} {data : Bytes} (h : run (readBlock b) s = (.ok data, t)) :
    Traced s t [readCommand b] [] := by
  obtain ⟨_, _, hask, hret⟩ := run_bind_eq_ok.1 h
  cases hret
  exact Packet.traced_ask hask

omit [Link σ] in
/-- A report of progress leaves no trace. -/
theorem traced_reported (progress : Option Progress) (s : Session σ δ) :
    Traced s (reported progress s) [] [] := by
  cases progress with
  | none => exact .refl s
  | some p => exact traced_emit (e := .progress p) rfl

/-- **Blocks that were read were asked for one after the other.** -/
theorem traced_readBlocks : ∀ (bs : List Block) (progress : Option Progress) (s t : Session σ δ)
    (f : Fetched), run (readBlocks progress bs) s = (.ok f, t) → f.outcome = .ok () →
      Traced s t (bs.map readCommand) [] := by
  intro bs
  induction bs with
  | nil =>
    intro progress s t f h _
    rw [readBlocks] at h
    cases h
    exact .refl s
  | cons b bs ih =>
    intro progress s t f h hok
    rcases hread : run (readBlock b) s with ⟨e | data, u⟩
    · rw [run_readBlocks_cons_error hread] at h
      cases h
      exact absurd hok (by simp)
    · rw [run_readBlocks_cons_ok hread] at h
      obtain ⟨rest, w, hbs, hret⟩ := run_bind_eq_ok.1 h
      cases hret
      exact ((traced_readBlock hread).trans (traced_reported _ u)).trans (ih _ _ _ _ hbs hok)

theorem traced_readAll {progress : Option Progress} {bs : List Block} {chunks : List Bytes}
    (h : run (readAll progress bs) s = (.ok chunks, t)) : Traced s t (bs.map readCommand) [] := by
  obtain ⟨f, u, hblocks, h⟩ := run_bind_eq_ok.1 h
  obtain ⟨_, v, hlift, hret⟩ := run_bind_eq_ok.1 h
  obtain ⟨hok, rfl⟩ := run_lift_eq_ok.1 hlift
  cases hret
  exact traced_readBlocks bs _ _ _ _ hblocks hok

/-- The bytes of a ring are asked for from the newest one backwards. -/
theorem traced_readRing {h : RingHeader} {data : Bytes}
    (hrun : run (readRing h) s = (.ok data, t)) :
    Traced s t ((h.stop.blocksBefore blockSize h.used).map readCommand) [] := by
  obtain ⟨_, u, hemit, hrun⟩ := run_bind_eq_ok.1 hrun
  obtain ⟨chunks, v, hall, hret⟩ := run_bind_eq_ok.1 hrun
  cases hret
  exact (traced_emit hemit).trans (traced_readAll hall)

/-! ### The blocks of the ring -/

/-- The blocks of the ring hold each byte in use once, and no byte outside of the ring. -/
structure Covers (blocks : List Block) (h : RingHeader) : Prop where
  perm : (blocks.flatMap RingAddress.addresses).Perm (usedAddresses h)
  once : (blocks.flatMap RingAddress.addresses).Nodup
  inside : ∀ b ∈ blocks, ringStart ≤ b.address ∧ b.address + b.size ≤ ringEnd

theorem nodup_usedAddresses (h : RingHeader) : (usedAddresses h).Nodup := by
  refine List.Nodup.map_on (fun i hi j hj hij => ?_) List.nodup_range
  have hle := h.used_le
  rw [List.mem_range] at hi hj
  -- one step further neither count is zero, and none is more than a turn
  have hnext : (h.start.advance i).advance 1 = (h.start.advance j).advance 1 := by
    rw [RingAddress.ext_val hij]
  rw [RingAddress.advance_advance, RingAddress.advance_advance] at hnext
  exact Nat.succ.inj (RingAddress.advance_inj (Nat.succ_pos i) (by omega) (Nat.succ_pos j)
    (by omega) hnext)

/-- The blocks that are asked for cover the ring. -/
theorem covers_blocksBefore (h : RingHeader) :
    Covers (h.stop.blocksBefore blockSize h.used) h := by
  have hm : blockSize ≠ 0 := by decide
  have hperm : ((h.stop.blocksBefore blockSize h.used).flatMap RingAddress.addresses).Perm
      (usedAddresses h) := by
    rw [usedAddresses, ← RingAddress.blocksBefore_addresses hm _ _ _ h.advance_used]
    exact (List.reverse_perm _).symm.flatMap_right _
  refine ⟨hperm, hperm.nodup_iff.2 (nodup_usedAddresses h), fun b hb => ?_⟩
  obtain ⟨hstart, hend, -, -⟩ := RingAddress.holds_blocksBefore hm _ _ b hb
  exact ⟨hstart, hend⟩

end Vyper2
end DiveLink
