import Mathlib.Data.Nat.ModEq
import DiveLink.Proofs.Ring.Guarded

/-!
# The distance around a ring

The addresses of a ring follow one another, the first one behind the last.  Advancing takes one such
step after the other, and the distance between two addresses is their difference modulo the size of
the ring; only where they are the same address is there a choice, between no step and a whole turn.
Distances therefore add up, whatever turns are in them, and a chain of pointers can be followed back
by its distances alone.

## Main definitions

* `RingAddress.next`, `RingAddress.previous` — the addresses on both sides of an address.
* `RingAddress.back` — the address so many bytes in front of another.
* `RingAddress.chainDistances` — the distances along a chain of pointers.

## Main results

* `RingAddress.advance_eq_iterate`, `RingAddress.back_advance` — advancing goes step by step, and
  going back undoes it.
* `RingAddress.distance_add` — distances add up modulo the size of the ring.
* `RingAddress.scanl_chainDistances`, `RingAddress.advance_sub_chainDistances` — going back along a
  chain passes its pointers, in the ring and by positions in the bytes in use.
* `RingAddress.distance_modular` — **the distance is the modular difference.**
-/

namespace DiveLink
namespace RingAddress

variable {a b : RingAddress} {d : Nat}

/-! ### Step by step -/

theorem ringStart_lt_ringEnd : ringStart < ringEnd := by decide

/-- The address behind an address; behind the last one comes the first. -/
def next (a : RingAddress) : RingAddress :=
  if h : a.val + 1 < ringEnd then ⟨a.val + 1, Nat.le_add_right_of_le a.start_le, h⟩
  else ⟨ringStart, Nat.le_refl _, ringStart_lt_ringEnd⟩

/-- The address in front of an address; in front of the first one comes the last. -/
def previous (a : RingAddress) : RingAddress :=
  if h : ringStart < a.val then ⟨a.val - 1, Nat.le_sub_one_of_lt h, Nat.sub_lt_of_lt a.lt_end⟩
  else ⟨ringEnd - 1, Nat.le_sub_one_of_lt ringStart_lt_ringEnd, by decide⟩

/-- The address `d` bytes in front of `a`. -/
def back (a : RingAddress) (d : Nat) : RingAddress := previous^[d] a

theorem advance_one (a : RingAddress) : a.advance 1 = a.next := by
  obtain ⟨hs, he, hz⟩ := ring_numbers
  have := a.start_le; have := a.lt_end
  apply ext_val
  rw [val_advance, hz, next]
  split
  · show ringStart + (a.val - ringStart + 1) % 32356 = a.val + 1
    omega
  · show ringStart + (a.val - ringStart + 1) % 32356 = ringStart
    omega

/-- Advancing by `d` is `d` steps. -/
theorem advance_eq_iterate (a : RingAddress) (d : Nat) : a.advance d = next^[d] a := by
  induction d with
  | zero => exact advance_zero a
  | succ d ih => rw [Function.iterate_succ_apply', ← ih, ← advance_one, advance_advance]

theorem previous_next : Function.LeftInverse previous next := by
  intro a
  obtain ⟨hs, he, -⟩ := ring_numbers
  have := a.start_le; have := a.lt_end
  apply ext_val
  by_cases hend : a.val + 1 < ringEnd
  · have hin : ringStart < a.val + 1 := by omega
    rw [next, dif_pos hend, previous, dif_pos hin]
    rfl
  · rw [next, dif_neg hend, previous, dif_neg (Nat.lt_irrefl ringStart)]
    show ringEnd - 1 = a.val
    omega

/-- Going back undoes advancing. -/
theorem back_advance (a : RingAddress) (d : Nat) : (a.advance d).back d = a := by
  rw [advance_eq_iterate, back, previous_next.iterate d a]

/-! ### Differences -/

theorem advance_eq_iff_modEq : a.advance d = b ↔ a.val + d ≡ b.val [MOD ringSize] := by
  obtain ⟨hs, he, hz⟩ := ring_numbers
  have := a.start_le; have := b.start_le; have := b.lt_end
  have hval := val_advance a d
  rw [hz] at hval ⊢
  constructor
  · rintro rfl
    show (a.val + d) % 32356 = (a.advance d).val % 32356
    omega
  · intro h
    have hmod : (a.val + d) % 32356 = b.val % 32356 := h
    exact ext_val (by omega)

/-- The distance is the difference of the addresses, modulo the size of the ring. -/
theorem add_distance (a b : RingAddress) (full : Bool) :
    a.val + a.distance b full ≡ b.val [MOD ringSize] :=
  advance_eq_iff_modEq.1 (advance_distance a b full)

/-- Distances add up, modulo the size of the ring. -/
theorem distance_add (a b c : RingAddress) (full : Bool) :
    a.distance b full + b.distance c full ≡ a.distance c full [MOD ringSize] := by
  refine Nat.ModEq.add_left_cancel' a.val ?_
  calc a.val + (a.distance b full + b.distance c full)
      = a.val + a.distance b full + b.distance c full := (Nat.add_assoc _ _ _).symm
    _ ≡ b.val + b.distance c full [MOD ringSize] := (add_distance a b full).add_right _
    _ ≡ c.val [MOD ringSize] := add_distance b c full
    _ ≡ a.val + a.distance c full [MOD ringSize] := (add_distance a c full).symm

theorem distance_lt (a b : RingAddress) : a.distance b false < ringSize := by
  obtain ⟨hs, he, hz⟩ := ring_numbers
  have := a.start_le; have := a.lt_end; have := b.start_le; have := b.lt_end
  rw [hz]
  unfold distance
  split
  · omega
  · split
    · omega
    · exact (by decide : 0 < 32356)

/-- Less than a turn leads from one address to another in one way. -/
theorem lt_and_advance_iff : d < ringSize ∧ a.advance d = b ↔ d = a.distance b false := by
  constructor
  · -- two counts that lead to the same address differ by whole turns
    rintro ⟨hd, h⟩
    have hsame : a.val + d ≡ a.val + a.distance b false [MOD ringSize] :=
      (advance_eq_iff_modEq.1 h).trans (add_distance a b false).symm
    exact (Nat.ModEq.add_left_cancel' a.val hsame).eq_of_lt_of_lt hd (distance_lt a b)
  · rintro rfl
    exact ⟨distance_lt a b, advance_distance a b false⟩

/-- So does one step or more, and at most a turn. -/
theorem pos_and_advance_iff :
    (0 < d ∧ d ≤ ringSize) ∧ a.advance d = b ↔ d = a.distance b true := by
  constructor
  · rintro ⟨⟨hpos, hle⟩, rfl⟩
    exact (distance_advance hpos hle).symm
  · rintro rfl
    exact ⟨⟨distance_pos a b, distance_le a b true⟩, advance_distance a b true⟩

/-! ### Chains of pointers -/

/-- The distances along a chain of pointers that leads back from `a`: each one is that from a
pointer forward to the one before it in the chain, and the first one that to `a`. -/
def chainDistances (full : Bool) : RingAddress → List RingAddress → List Nat
  | _, [] => []
  | a, p :: chain => p.distance a full :: chainDistances full p chain

variable {full : Bool}

/-- Going back by one distance of a chain after the other passes its pointers. -/
theorem scanl_chainDistances (full : Bool) (a : RingAddress) (chain : List RingAddress) :
    (chainDistances full a chain).scanl back a = a :: chain := by
  induction chain generalizing a with
  | nil => rfl
  | cons p chain ih =>
    have hback : a.back (p.distance a full) = p := by
      have h := back_advance p (p.distance a full)
      rwa [advance_distance] at h
    rw [chainDistances, List.scanl_cons, hback, ih]

/-- In bytes that lie from `start` on, a chain that leads back from position `pos` reaches its last
pointer at the position that its distances say. -/
theorem advance_sub_chainDistances {start : RingAddress} {pos : Nat} {chain : List RingAddress}
    (hpos : start.advance pos = a) (hsum : (chainDistances full a chain).sum ≤ pos) :
    start.advance (pos - (chainDistances full a chain).sum) = chain.getLastD a := by
  induction chain generalizing a pos with
  | nil => exact hpos
  | cons p chain ih =>
    rw [chainDistances, List.sum_cons] at hsum ⊢
    have hback : p = start.advance (pos - p.distance a full) :=
      advance_sub (by omega) ((advance_distance p a full).trans hpos.symm)
    rw [Nat.sub_add_eq, List.getLastD_cons]
    exact ih hback.symm (by omega)

/-- **The distance is the modular difference.**  Without `full` it is the one count of steps below a
turn that leads from `a` to `b`, with `full` the one count from one step up to a turn, and no
difference on the way to it is below zero.  Distances add up modulo the size of the ring, so that
the distances along a chain lead back to where its pointers say. -/
theorem distance_modular (a b c : RingAddress) (full : Bool) :
    (∀ d, a.advance d = next^[d] a) ∧
      (∀ d, d < ringSize ∧ a.advance d = b ↔ d = a.distance b false) ∧
      (∀ d, (0 < d ∧ d ≤ ringSize) ∧ a.advance d = b ↔ d = a.distance b true) ∧
      Guarded.distance? a.val b.val full = some (a.distance b full) ∧
      a.distance b full + b.distance c full ≡ a.distance c full [MOD ringSize] ∧
      ∀ chain : List RingAddress,
        (chainDistances full a chain).scanl back a = a :: chain ∧
          ∀ (start : RingAddress) (pos : Nat),
            start.advance pos = a → (chainDistances full a chain).sum ≤ pos →
              start.advance (pos - (chainDistances full a chain).sum) = chain.getLastD a := by
  refine ⟨advance_eq_iterate a, fun d => lt_and_advance_iff, fun d => pos_and_advance_iff,
    Guarded.distance?_eq a b full, distance_add a b c full, fun chain => ?_⟩
  exact ⟨scanl_chainDistances full a chain, fun start pos => advance_sub_chainDistances⟩

/-- Two pointers lead back across the start of the ring: 8 bytes to the first, and 4 and 6 more to
the second, from position 26 of bytes that begin 14 bytes in front of its end. -/
theorem distance_modular_across_end :
    let start : RingAddress := ⟨0x7FF0, by decide, by decide⟩
    let a : RingAddress := ⟨0x01A6, by decide, by decide⟩
    let chain : List RingAddress :=
      [⟨0x019E, by decide, by decide⟩, ⟨0x7FF8, by decide, by decide⟩]
    start.advance 26 = a ∧ chainDistances true a chain = [8, 10] ∧
      start.advance (26 - [8, 10].sum) = ⟨0x7FF8, by decide, by decide⟩ := by
  intro start a chain
  have hpos : start.advance 26 = a := by decide
  have hdistances : chainDistances true a chain = [8, 10] := by decide
  have hsum : (chainDistances true a chain).sum ≤ 26 := by rw [hdistances]; decide
  obtain ⟨-, -, -, -, -, hchain⟩ := distance_modular a a a true
  have hlast := (hchain chain).2 start 26 hpos hsum
  rw [hdistances] at hlast
  exact ⟨hpos, hdistances, hlast⟩

end RingAddress
end DiveLink
