import DiveLink.Proofs.Ring.Address

/-!
# Dives stored in a ring

Dives that are stored one behind the other, each with the addresses of its neighbours in its first
four bytes, are found again by the walk, newest first.

## Main definitions

* `RingAddress.boundary a dives i` — where dive `i` begins, of dives stored from `a` on.
* `RingHeader.Chained` — the links in the dives lead from each to its neighbours.
* `RingHeader.storedDives` — the dives that were stored, oldest first.
* `RingHeader.ofStored` — the header that goes with them.

## Main results

* `RingHeader.Chained.used_ofStored` — the bytes in use are those of the dives.
* `RingHeader.walk_ofStored` — **the walk finds the dives that were stored.**
-/

namespace DiveLink

/-! ### What is stored -/

/-- Where dive `i` begins, of dives that lie end to end from `a` on; behind the last one this is
where it ends. -/
def RingAddress.boundary (a : RingAddress) (dives : List Bytes) (i : Nat) : RingAddress :=
  a.advance (dives.take i).flatten.length

@[simp] theorem RingAddress.boundary_zero (a : RingAddress) (dives : List Bytes) :
    a.boundary dives 0 = a := by simp [boundary]

theorem RingAddress.boundary_succ (a : RingAddress) (dives : List Bytes) {i : Nat}
    (hi : i < dives.length) :
    a.boundary dives (i + 1) = (a.boundary dives i).advance dives[i].length := by
  rw [boundary, boundary, advance_advance, ← List.take_append_getElem hi, List.flatten_append,
    List.length_append, List.flatten_singleton]

namespace RingHeader

/-- The links of the dives stored from `start` on, oldest first: each is long enough for its
fingerprint, together they fit into the ring, the first two bytes of each but the oldest are the
address of the one before it, and the next two bytes that of the one after it, or the end. -/
structure Chained (start : RingAddress) (offset : Nat) (dives : List Bytes) : Prop where
  long : ∀ d ∈ dives, offset + 7 ≤ d.length
  fits : dives.flatten.length ≤ 0x7FFE - 0x019A
  predecessor : ∀ i, (hi : i + 1 < dives.length) →
    dives[i + 1].le16 = (start.boundary dives i).val
  successor : ∀ i, (hi : i < dives.length) →
    Bytes.le16 (dives[i].drop 2) = (start.boundary dives (i + 1)).val

/-- The dives stored from `start` on, oldest first, with seven bytes of each from `offset` on. -/
def storedDives (start : RingAddress) (offset : Nat) (dives : List Bytes) : List Dive :=
  dives.mapIdx fun i d => ⟨(start.boundary dives i).val, d, d.slice offset 7⟩

@[simp] theorem length_storedDives (start : RingAddress) (offset : Nat) (dives : List Bytes) :
    (storedDives start offset dives).length = dives.length := by simp [storedDives]

variable {start : RingAddress} {offset : Nat} {dives : List Bytes}

/-! ### The walk -/

theorem take_storedDives_succ {k : Nat} (hk : k < dives.length) :
    (storedDives start offset dives).take (k + 1) = (storedDives start offset dives).take k ++
      [⟨(start.boundary dives k).val, dives[k], dives[k].slice offset 7⟩] := by
  rw [← List.take_append_getElem (by simpa using hk)]
  simp [storedDives]

/-- From the end of the first `k` dives the walk finds these. -/
theorem ringWalk_chained (hc : Chained start offset dives) : ∀ (k : Nat), k ≤ dives.length →
    ∀ current, (∀ i, k = i + 1 → current = start.boundary dives i) →
      ringWalk offset current (start.boundary dives k) (dives.take k).flatten =
        ⟨((storedDives start offset dives).take k).reverse, none⟩ := by
  intro k
  induction k with
  | zero =>
    intro _ current _
    rw [ringWalk]
    simp [Walk.nothing]
  | succ k ih =>
    intro hk current hcurrent
    have hlong : offset + ringFingerprintSize ≤ dives[k].length := hc.long _ (List.getElem_mem hk)
    have hseven : ringFingerprintSize = 7 := rfl
    have hdata : (dives.take (k + 1)).flatten = (dives.take k).flatten ++ dives[k] := by
      rw [← List.take_append_getElem hk, List.flatten_append, List.flatten_singleton]
    have hfits : (dives.take (k + 1)).flatten.length ≤ ringSize := by
      have hall : dives.flatten.length ≤ ringSize := hc.fits
      rw [← List.take_append_drop (k + 1) dives, List.flatten_append, List.length_append] at hall
      omega
    have hsize : current.distance (start.boundary dives (k + 1)) true = dives[k].length := by
      rw [hcurrent k rfl, RingAddress.boundary_succ _ _ hk]
      refine RingAddress.distance_advance (by omega) ?_
      rw [hdata, List.length_append] at hfits
      omega
    -- what is taken off is the newest dive, and what is left are the others
    have hlen : (dives.take (k + 1)).flatten.length - dives[k].length =
        (dives.take k).flatten.length := by rw [hdata, List.length_append]; omega
    have holder : (dives.take (k + 1)).flatten.take (dives.take k).flatten.length =
        (dives.take k).flatten := by rw [hdata, List.take_left]
    have hnewest : (dives.take (k + 1)).flatten.drop (dives.take k).flatten.length = dives[k] := by
      rw [hdata, List.drop_left]
    have hne : (dives.take (k + 1)).flatten ≠ [] := by
      rw [← List.length_pos_iff, hdata, List.length_append]
      omega
    have hroom : ¬ (dives[k].length < 4 ∨
        (dives.take (k + 1)).flatten.length < dives[k].length) := by
      rw [hdata, List.length_append]
      omega
    rw [ringWalk, dif_neg hne]
    simp only [hsize, hlen, holder, hnewest]
    rw [dif_neg hroom, if_neg (by rw [hc.successor k hk]; exact fun h => h rfl),
      if_neg (by omega), take_storedDives_succ hk, List.reverse_append, hcurrent k rfl]
    cases k with
    | zero =>
      rw [if_pos (by simp)]
      rfl
    | succ j =>
      have hj : j < dives.length := by omega
      have hpos : (dives.take (j + 1)).flatten ≠ [] := by
        have := hc.long _ (List.getElem_mem hj)
        rw [← List.length_pos_iff, ← List.take_append_getElem hj, List.flatten_append,
          List.flatten_singleton, List.length_append]
        omega
      rw [if_neg hpos, hc.predecessor j hk, RingAddress.ofNat?_val]
      simp only
      rw [ih (by omega) _ (fun i hi => by cases hi; rfl)]
      rfl

/-! ### The header -/

/-- The header of a ring in which the dives `dives` are stored from `start` on. -/
def ofStored (last start : RingAddress) (dives : List Bytes) : RingHeader :=
  { last, count := dives.length, stop := start.boundary dives dives.length, start }

variable {last : RingAddress}

theorem Chained.ne_nil (hc : Chained start offset dives) : ∀ d ∈ dives, d ≠ [] := by
  rintro d hd rfl
  have := hc.long _ hd
  rw [List.length_nil] at this
  omega

theorem length_le_length_flatten : ∀ {ds : List Bytes}, (∀ d ∈ ds, d ≠ []) →
    ds.length ≤ ds.flatten.length := by
  intro ds
  induction ds with
  | nil => exact fun _ => Nat.le_refl _
  | cons d ds ih =>
    intro hne
    have hd := List.length_pos_iff.2 (hne d List.mem_cons_self)
    have hds := ih fun x hx => hne x (List.mem_cons_of_mem d hx)
    rw [List.length_cons, List.flatten_cons, List.length_append]
    omega

/-- The number of stored dives fits into the header. -/
theorem Chained.count_lt (hc : Chained start offset dives) : dives.length < 65536 := by
  have hle := length_le_length_flatten hc.ne_nil
  have hfits := hc.fits
  omega

/-- The bytes in use are those of the dives, also if the dives fill the ring or there are none. -/
theorem Chained.used_ofStored (hc : Chained start offset dives) :
    (ofStored last start dives).used = dives.flatten.length := by
  have hstop : (ofStored last start dives).stop = start.advance dives.flatten.length := by
    rw [ofStored, RingAddress.boundary, List.take_length]
  unfold used
  rw [hstop]
  show start.distance _ (decide (dives.length ≠ 0)) = _
  cases dives with
  | nil => simp [RingAddress.distance]
  | cons d ds =>
    -- the count is not zero, so a start that is also the end means a full ring
    have hpos := length_le_length_flatten hc.ne_nil
    rw [List.length_cons] at hpos
    exact RingAddress.distance_advance (by omega) hc.fits

/-- **The walk finds the dives that were stored**, newest first and all of them. -/
theorem walk_ofStored (hc : Chained start offset dives)
    (hlast : ∀ i, dives.length = i + 1 → last = start.boundary dives i) :
    (ofStored last start dives).walk offset dives.flatten =
      ⟨(storedDives start offset dives).reverse, none⟩ := by
  have hwalk := ringWalk_chained hc dives.length (Nat.le_refl _) last hlast
  have hall : (storedDives start offset dives).take dives.length = storedDives start offset dives :=
    List.take_of_length_le (by simp)
  rwa [List.take_length, hall] at hwalk

end RingHeader
end DiveLink
