import Mathlib.Data.List.Forall2
import DiveLink.Proofs.Ring.Address

/-!
# Where the blocks of a range lie

A range is cut into blocks of one size, of which only the last may be shorter.  So the place of each
block is known, and so is that of its bytes in what was read of the range.

## Main results

* `Block.tile_addresses` — the blocks of a range cover it, each address once and in order.
* `Block.length_tile`, `Block.tile_eq_map` — how many they are, and which ones.
* `Block.chunk_at` — **where the bytes of a block stand** among those of all blocks.
* `Block.split_cons` — the first piece of some bytes, and the others.
-/

namespace DiveLink
namespace Block

variable {most address length : Nat}

/-! ### Blocks to read -/

@[simp] theorem tile_zero (most address : Nat) : tile most address 0 = [] := by
  rw [tile, dif_pos (Or.inr rfl)]

theorem tile_cons (hm : most ≠ 0) (hn : length ≠ 0) (address : Nat) :
    tile most address length = ⟨address, min most length⟩ ::
      tile most (address + min most length) (length - min most length) := by
  rw [tile, dif_neg (by omega)]

/-- The blocks of a range cover it, each address once and in order. -/
theorem tile_addresses (hm : most ≠ 0) : ∀ (length address : Nat),
    (tile most address length).flatMap RingAddress.addresses = List.range' address length := by
  intro length
  induction length using Nat.strongRecOn with
  | _ length ih =>
    intro address
    by_cases hn : length = 0
    · rw [hn, tile_zero]
      rfl
    · have hsum : min most length + (length - min most length) = length := by omega
      rw [tile_cons hm hn, List.flatMap_cons, ih _ (by omega)]
      show List.range' address (min most length) ++ _ = _
      rw [List.range'_append_1, hsum]

/-- No block is too large, and none reaches beyond the range. -/
theorem bounds_of_mem_tile (hm : most ≠ 0) : ∀ (length address : Nat) (b : Block),
    b ∈ tile most address length →
      address ≤ b.address ∧ b.address + b.size ≤ address + length ∧ b.size ≤ most := by
  intro length
  induction length using Nat.strongRecOn with
  | _ length ih =>
    intro address b hb
    by_cases hn : length = 0
    · rw [hn, tile_zero] at hb
      exact absurd hb (by simp)
    · rw [tile_cons hm hn, List.mem_cons] at hb
      rcases hb with rfl | hb
      · exact ⟨Nat.le_refl _, Nat.add_le_add_left (Nat.min_le_right _ _) _, Nat.min_le_left _ _⟩
      · obtain ⟨h₁, h₂, h₃⟩ := ih _ (by omega) _ b hb
        exact ⟨by omega, by omega, h₃⟩

/-- So many blocks are all of them if they are long enough for the range. -/
theorem length_tile_le_iff (hm : most ≠ 0) : ∀ (k length address : Nat),
    (tile most address length).length ≤ k ↔ length ≤ most * k := by
  intro k
  induction k with
  | zero =>
    intro length address
    by_cases hn : length = 0
    · simp [hn]
    · rw [tile_cons hm hn, List.length_cons]
      omega
  | succ k ih =>
    intro length address
    by_cases hn : length = 0
    · simp [hn]
    · rw [tile_cons hm hn, List.length_cons, Nat.add_le_add_iff_right, ih, Nat.mul_succ]
      omega

/-- The number of blocks is the length of the range in blocks, rounded up. -/
theorem length_tile (hm : most ≠ 0) (length address : Nat) :
    (tile most address length).length = (length + (most - 1)) / most := by
  have hle : ∀ k, (tile most address length).length ≤ k ↔ (length + (most - 1)) / most ≤ k := by
    intro k
    rw [length_tile_le_iff hm, Nat.div_le_iff_le_mul_add_pred (Nat.pos_of_ne_zero hm)]
    omega
  exact Nat.le_antisymm ((hle _).2 (Nat.le_refl _)) ((hle _).1 (Nat.le_refl _))

/-- The place and the size of each block. -/
theorem getElem_tile (hm : most ≠ 0) : ∀ (i length address : Nat)
    (h : i < (tile most address length).length),
    (tile most address length)[i] = ⟨address + most * i, min most (length - most * i)⟩ := by
  intro i
  induction i with
  | zero =>
    intro length address h
    have hn : length ≠ 0 := by
      rintro rfl
      simp at h
    simp [tile_cons hm hn]
  | succ i ih =>
    intro length address h
    have hn : length ≠ 0 := by
      rintro rfl
      simp at h
    -- behind the first block there is another one, so the first is full
    have hlong : most * (i + 1) < length := by
      have := (length_tile_le_iff hm (i + 1) length address).not.1 (by omega)
      omega
    rw [Nat.mul_succ] at hlong
    have hfull : min most length = most := by omega
    simp only [tile_cons hm hn, hfull] at h ⊢
    rw [List.getElem_cons_succ, ih, Nat.mul_succ, Nat.add_assoc, Nat.add_comm most, Nat.sub_sub,
      Nat.add_comm most]

/-- **The blocks of a range**, each with its place and its size. -/
theorem tile_eq_map (hm : most ≠ 0) (length address : Nat) :
    tile most address length = (List.range ((length + (most - 1)) / most)).map fun i =>
      ⟨address + most * i, min most (length - most * i)⟩ := by
  refine List.ext_getElem (by rw [length_tile hm, List.length_map, List.length_range]) ?_
  intro i hi hi'
  rw [getElem_tile hm, List.getElem_map, List.getElem_range]

/-- No block is empty. -/
theorem pos_of_mem_tile (hm : most ≠ 0) : ∀ (length address : Nat) (b : Block),
    b ∈ tile most address length → 0 < b.size := by
  intro length
  induction length using Nat.strongRecOn with
  | _ length ih =>
    intro address b hb
    by_cases hn : length = 0
    · rw [hn, tile_zero] at hb
      exact absurd hb (by simp)
    · rw [tile_cons hm hn, List.mem_cons] at hb
      rcases hb with rfl | hb
      · show 0 < min most length
        omega
      · exact ih _ (by omega) _ b hb

/-- **Where the bytes of a block stand.**  If the first blocks of a range have the bytes `chunks`,
the `i`th of these are those of the block `i` times the size of a block behind the start. -/
theorem chunk_at {R : Block → Bytes → Prop} (hm : most ≠ 0)
    (hR : ∀ b data, R b data → data.length = b.size) :
    ∀ (chunks : List Bytes) (length address : Nat),
      List.Forall₂ R ((tile most address length).take chunks.length) chunks →
        chunks.flatten.length = min (most * chunks.length) length ∧
        ∀ i, i < chunks.length → most * i < length ∧
          ∃ data, R ⟨address + most * i, min most (length - most * i)⟩ data ∧
            ∀ rest, Bytes.slice (chunks.flatten ++ rest) (most * i)
              (min most (length - most * i)) = data := by
  intro chunks
  induction chunks with
  | nil => intro length address _; simp
  | cons c cs ih =>
    intro length address h
    -- there is a first block, and the others are those of what is left of the range
    have hn : length ≠ 0 := by
      rintro rfl
      rw [tile_zero, List.take_nil] at h
      cases h
    rw [tile_cons hm hn, List.length_cons, List.take_succ_cons] at h
    cases h with
    | cons hc hcs =>
      obtain ⟨hlen, hat⟩ := ih _ _ hcs
      have hclen : c.length = min most length := hR _ _ hc
      constructor
      · rw [List.flatten_cons, List.length_append, hlen, hclen, List.length_cons, Nat.mul_succ]
        rcases Nat.le_total length most with hle | hle
        · rw [Nat.min_eq_right hle]
          omega
        · rw [Nat.min_eq_left hle]
          omega
      · intro i hi
        cases i with
        | zero =>
          refine ⟨by omega, c, hc, ?_⟩
          intro rest
          rw [Nat.mul_zero, Nat.sub_zero, ← hclen, List.flatten_cons, List.append_assoc,
            Bytes.slice, List.drop_zero, List.take_left]
        | succ i =>
          obtain ⟨hlt, data, hdata, hslice⟩ := hat i (by simpa using hi)
          have hfull : min most length = most := by omega
          rw [hfull] at hlt hdata hslice hclen
          have hplace : address + most + most * i = address + most * (i + 1) := by
            rw [Nat.mul_succ]
            omega
          have hleft : length - most - most * i = length - most * (i + 1) := by
            rw [Nat.mul_succ]
            omega
          rw [hplace, hleft] at hdata
          refine ⟨by rw [Nat.mul_succ]; omega, data, hdata, ?_⟩
          intro rest
          rw [← hslice rest, hleft, List.flatten_cons, List.append_assoc, Bytes.slice, Bytes.slice,
            Nat.mul_succ, Nat.add_comm, ← List.drop_drop, ← hclen, List.drop_left]

/-! ### Pieces to write -/

@[simp] theorem split_nil (most address : Nat) : split most address [] = [] := by
  rw [split, dif_pos (Or.inr rfl)]

theorem split_cons {data : Bytes} (hm : most ≠ 0) (hd : data ≠ []) (address : Nat) :
    split most address data = (address, data.take most) ::
      split most (address + (data.take most).length) (data.drop most) := by
  rw [split, dif_neg (by rintro (h | h); exacts [hm h, hd h])]

end Block
end DiveLink
