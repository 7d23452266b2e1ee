import DiveLink.Ring

/-!
# Going round the ring

Advancing is an action of the numbers on the addresses of a ring: it adds up, and
the distance between two addresses is what leads from one to the other.  The blocks
that are read in front of an address cover every address of the bytes in use once, in order.

## Main definitions

* `RingHeader.Spans` — so many bytes lead around the ring from its start to its end.

## Main results

* `RingAddress.advance_distance`, `RingAddress.distance_advance` — distance and advancing are
  inverse to each other.
* `RingAddress.advance_inj` — two counts of at most one turn that lead to one address are equal.
* `RingAddress.blocksBefore_addresses` — **the blocks cover the bytes in use, each once.**
* `RingHeader.advance_used`, `RingHeader.spans_used` — the bytes in use lead from the start of the
  ring to its end.
-/

namespace DiveLink
namespace RingAddress

variable {a b : RingAddress} {d e : Nat}

theorem ext_val : ∀ {a b : RingAddress}, a.val = b.val → a = b
  | ⟨_, _, _⟩, ⟨_, _, _⟩, rfl => rfl

theorem ofNat?_eq_some {n : Nat} (h : ofNat? n = some a) : a.val = n := by
  unfold ofNat? at h
  split at h
  · rw [← Option.some.inj h]
  · exact absurd h (by simp)

theorem ofNat?_eq_none {n : Nat} (h : ofNat? n = none) (a : RingAddress) : n ≠ a.val := by
  rintro rfl
  rw [ofNat?_val] at h
  exact absurd h (by simp)

/-! ### Advancing -/

/-- The numbers behind the names, where arithmetic needs them. -/
theorem ring_numbers : ringStart = 410 ∧ ringEnd = 32766 ∧ ringSize = 32356 := ⟨rfl, rfl, rfl⟩

theorem val_advance (a : RingAddress) (d : Nat) :
    (a.advance d).val = ringStart + (a.val - ringStart + d) % ringSize := rfl

@[simp] theorem advance_zero (a : RingAddress) : a.advance 0 = a := by
  apply ext_val
  obtain ⟨hs, he, hz⟩ := ring_numbers
  have := a.start_le; have := a.lt_end
  rw [val_advance, hz]
  omega

theorem advance_advance (a : RingAddress) (d e : Nat) :
    (a.advance d).advance e = a.advance (d + e) := by
  apply ext_val
  rw [val_advance, val_advance, val_advance, Nat.add_sub_cancel_left, Nat.mod_add_mod,
    Nat.add_assoc]

/-- Counts of at most one turn, of which at most one is empty, are told apart by where they lead. -/
theorem advance_inj (hd : 0 < d) (hd' : d ≤ ringSize) (he : 0 < e) (he' : e ≤ ringSize)
    (h : a.advance d = a.advance e) : d = e := by
  obtain ⟨-, -, hz⟩ := ring_numbers
  have h' := congrArg RingAddress.val h
  rw [val_advance, val_advance, hz] at h'
  omega

/-- Short of the end of the ring, advancing adds. -/
theorem val_advance_of_lt (h : a.val + d < ringEnd) : (a.advance d).val = a.val + d := by
  obtain ⟨hs, he, hz⟩ := ring_numbers
  have := a.start_le
  rw [val_advance, hz]
  omega

/-! ### Distance -/

theorem distance_pos (a b : RingAddress) : 0 < a.distance b true := by
  have := a.lt_end; have := b.start_le
  unfold distance
  split
  · omega
  · split
    · omega
    · exact show 0 < ringSize by decide

/-- The distance to an address leads there. -/
theorem advance_distance (a b : RingAddress) (full : Bool) : a.advance (a.distance b full) = b := by
  apply ext_val
  obtain ⟨hs, he, hz⟩ := ring_numbers
  have := a.start_le; have := a.lt_end; have := b.start_le; have := b.lt_end
  rw [val_advance, hz]
  unfold distance
  split
  · omega
  · split
    · omega
    · split <;> omega

/-- What leads to an address in at most one turn is the distance to it. -/
theorem distance_advance (hd : 0 < d) (hd' : d ≤ ringSize) : a.distance (a.advance d) true = d :=
  advance_inj (a := a) (distance_pos _ _) (distance_le _ _ _) hd hd' (advance_distance _ _ _)

/-- Going back from where `d` leads: an address from which `e ≤ d` leads there as well is where
`d - e` leads. -/
theorem advance_sub (he : e ≤ d) (h : b.advance e = a.advance d) : b = a.advance (d - e) := by
  apply ext_val
  obtain ⟨hs, hlast, hz⟩ := ring_numbers
  have h' := congrArg RingAddress.val h
  have := a.start_le; have := b.start_le; have := b.lt_end
  rw [val_advance, val_advance, hz] at h'
  rw [val_advance, hz]
  omega

/-! ### Blocks -/

/-- A block lies in the ring, and is not empty. -/
def Holds (most : Nat) (b : Block) : Prop :=
  ringStart ≤ b.address ∧ b.address + b.size ≤ ringEnd ∧ 0 < b.size ∧ b.size ≤ most

/-- The address behind the bytes in front of an address: at the start of the ring these are the
bytes at its end. -/
def top (a : RingAddress) : Nat := if a.val = ringStart then ringEnd else a.val

theorem top_bounds (a : RingAddress) : ringStart < a.top ∧ a.top ≤ ringEnd := by
  obtain ⟨hs, he, -⟩ := ring_numbers
  have lo := a.start_le
  have hi := a.lt_end
  unfold top
  split <;> omega

/-- The place and the size of the first block in front of an address. -/
theorem blocksBefore_top {most n : Nat} (a : RingAddress) (hm : most ≠ 0) (hn : n ≠ 0) :
    ∃ (c : RingAddress) (size : Nat), size = min n (min most (a.top - ringStart)) ∧
      c.val = a.top - size ∧
      blocksBefore most a n = ⟨c.val, size⟩ :: blocksBefore most c (n - size) := by
  obtain ⟨hs, he, -⟩ := ring_numbers
  obtain ⟨hlow, hhigh⟩ := a.top_bounds
  rw [blocksBefore, dif_neg (by omega)]
  exact ⟨⟨a.top - min n (min most (a.top - ringStart)), by omega, by omega⟩, _, rfl, rfl, rfl⟩

/-- The first block in front of an address, and those in front of that. -/
theorem blocksBefore_cons {most n : Nat} (a : RingAddress) (hm : most ≠ 0) (hn : n ≠ 0) :
    ∃ (c : RingAddress) (size : Nat), size ≤ n ∧ Holds most ⟨c.val, size⟩ ∧ c.advance size = a ∧
      blocksBefore most a n = ⟨c.val, size⟩ :: blocksBefore most c (n - size) := by
  obtain ⟨hs, he, hz⟩ := ring_numbers
  obtain ⟨c, size, hsize, hc, heq⟩ := blocksBefore_top a hm hn
  obtain ⟨hlow, hhigh⟩ := a.top_bounds
  have hin : Holds most ⟨c.val, size⟩ := by
    show ringStart ≤ c.val ∧ c.val + size ≤ ringEnd ∧ 0 < size ∧ size ≤ most
    omega
  refine ⟨c, size, by omega, hin, ext_val ?_, heq⟩
  have lo := a.start_le
  have hi := a.lt_end
  rw [val_advance, hz]
  unfold top at hsize hc
  by_cases ha : a.val = ringStart
  · rw [if_pos ha] at hsize hc
    omega
  · rw [if_neg ha] at hsize hc
    omega

/-- Every block lies in the ring. -/
theorem holds_blocksBefore {most : Nat} (hm : most ≠ 0) : ∀ (n : Nat) (a : RingAddress),
    ∀ b ∈ blocksBefore most a n, Holds most b := by
  intro n
  induction n using Nat.strongRecOn with
  | _ n ih =>
    intro a b hb
    by_cases hn : n = 0
    · rw [blocksBefore, dif_pos (Or.inr hn)] at hb
      exact absurd hb (by simp)
    · obtain ⟨c, size, hle, hin, -, heq⟩ := blocksBefore_cons a hm hn
      rw [heq, List.mem_cons] at hb
      rcases hb with rfl | hb
      · exact hin
      · have hpos : 0 < size := hin.2.2.1
        exact ih (n - size) (by omega) c b hb

/-- The addresses of a block. -/
def addresses (b : Block) : List Nat := List.range' b.address b.size

theorem addresses_eq_map {most : Nat} {c : RingAddress} {size : Nat}
    (h : Holds most ⟨c.val, size⟩) :
    addresses ⟨c.val, size⟩ = (List.range size).map fun i => (c.advance i).val := by
  rw [addresses, List.range'_eq_map_range]
  refine List.map_congr_left fun i hi => ?_
  have hlt : i < size := List.mem_range.1 hi
  have hend : c.val + size ≤ ringEnd := h.2.1
  rw [val_advance_of_lt (by omega)]

/-- **The blocks in front of an address cover the bytes in use, each once and in order**: read off
oldest block first, their addresses are those from `a` on. -/
theorem blocksBefore_addresses {most : Nat} (hm : most ≠ 0) : ∀ (n : Nat) (a b : RingAddress),
    a.advance n = b → (blocksBefore most b n).reverse.flatMap addresses =
      (List.range n).map fun i => (a.advance i).val := by
  intro n
  induction n using Nat.strongRecOn with
  | _ n ih =>
    intro a b hab
    by_cases hn : n = 0
    · rw [blocksBefore, dif_pos (Or.inr hn), hn]
      rfl
    · obtain ⟨c, size, hle, hin, hc, heq⟩ := blocksBefore_cons b hm hn
      have hpos : 0 < size := hin.2.2.1
      have hac : c = a.advance (n - size) := advance_sub hle (hc.trans hab.symm)
      have hsplit : List.range n =
          List.range (n - size) ++ (List.range size).map (n - size + ·) := by
        rw [← List.range_add, Nat.sub_add_cancel hle]
      rw [heq, List.reverse_cons, List.flatMap_append, ih (n - size) (by omega) a c hac.symm,
        hsplit, List.map_append, List.map_map]
      congr 1
      rw [List.flatMap_singleton, addresses_eq_map hin, hac]
      refine List.map_congr_left fun i _ => ?_
      rw [advance_advance]
      rfl

end RingAddress

/-! ### The bytes in use -/

namespace RingHeader

/-- The bytes in use lead from the start of the ring to its end. -/
theorem advance_used (h : RingHeader) : h.start.advance h.used = h.stop :=
  RingAddress.advance_distance _ _ _

theorem used_le (h : RingHeader) : h.used ≤ ringSize := RingAddress.distance_le _ _ _

/-- In at most one turn, `n` bytes lead around the ring from the start that the header names to its
end.  If the two are one address, these are no bytes exactly if the header counts no dives. -/
structure Spans (h : RingHeader) (n : Nat) : Prop where
  le : n ≤ ringSize
  reaches : h.start.advance n = h.stop
  empty : h.start = h.stop → (n = 0 ↔ h.count = 0)

/-- The bytes in use span the ring from its start to its end. -/
theorem spans_used (h : RingHeader) : h.Spans h.used where
  le := h.used_le
  reaches := h.advance_used
  empty hsame := by
    have hsize : ringSize ≠ 0 := by decide
    simp [used, RingAddress.distance, hsame, hsize]

end RingHeader
end DiveLink
