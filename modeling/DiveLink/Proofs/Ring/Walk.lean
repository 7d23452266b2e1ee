import DiveLink.Proofs.Ring.Address
import DiveLink.Proofs.Walk

/-!
# What the walk through a ring may be trusted with

The bytes of a ring come from a device and may be anything.  Whatever they are, the walk only hands
out dives that lie end to end at the end of the bytes in use, at the addresses by which they name
one another; it ends in good order when these dives are all of the bytes in use, and at a fault
when no further dive fits.

## Main definitions

* `RingHeader.Precedes h offset data newer d` — the dive `d` lies in front of the dives `newer`.
* `RingHeader.WalkAt` — where the walk stands behind some dives, its invariant.
* `RingHeader.Trusted` — each dive of a walk lies in front of those before it, the walk ends in good
  order with all of the bytes in use, and at a fault only if no further dive fits.

## Main results

* `RingHeader.WalkAt.step` — a step of the walk keeps the invariant.
* `RingHeader.trusted_walk` — **the walk through a ring may be trusted.**
-/

namespace DiveLink
namespace RingHeader

variable {h : RingHeader} {offset : Nat}

/-! ### One dive in front of others -/

/-- The bytes of some dives, given newest first, as they lie in the ring. -/
def joined (ds : List Dive) : Bytes := (ds.reverse.map Dive.bytes).flatten

@[simp] theorem joined_nil : joined [] = [] := rfl

theorem joined_append (ds : List Dive) (d : Dive) : joined (ds ++ [d]) = d.bytes ++ joined ds := by
  simp [joined]

/-- Where the dive in front of the dives `newer`, newest first, ends: at the start of the last of
them, or at the end of the ring. -/
def endBefore (h : RingHeader) (newer : List Dive) : Nat :=
  (newer.getLast?.map Dive.start).getD h.stop.val

/-- The address that is named as the start of the dive in front of the dives `newer`: by the first
two bytes of the last of them, or by the header. -/
def namedBefore (h : RingHeader) (newer : List Dive) : Nat :=
  (newer.getLast?.map fun d => d.bytes.le16).getD h.last.val

@[simp] theorem endBefore_nil (h : RingHeader) : h.endBefore [] = h.stop.val := rfl

@[simp] theorem namedBefore_nil (h : RingHeader) : h.namedBefore [] = h.last.val := rfl

@[simp] theorem endBefore_append (h : RingHeader) (newer : List Dive) (d : Dive) :
    h.endBefore (newer ++ [d]) = d.start := by
  simp [endBefore]

@[simp] theorem namedBefore_append (h : RingHeader) (newer : List Dive) (d : Dive) :
    h.namedBefore (newer ++ [d]) = d.bytes.le16 := by
  simp [namedBefore]

/-- In a ring whose bytes in use are `data`, the dive `d` lies in front of the dives `newer`, which
are given newest first. -/
structure Precedes (h : RingHeader) (offset : Nat) (data : Bytes) (newer : List Dive) (d : Dive) :
    Prop where
  /-- It lies right in front of them, and starts at the address of its first byte. -/
  place : ∃ older, data = older ++ d.bytes ++ joined newer ∧
    d.start = (h.start.advance older.length).val
  /-- It is long enough for its fingerprint. -/
  long : offset + ringFingerprintSize ≤ d.bytes.length
  /-- It names the place where it ends. -/
  successor : Bytes.le16 (d.bytes.drop 2) = h.endBefore newer
  /-- It is named as the one that comes next. -/
  named : d.start = h.namedBefore newer
  fingerprint : d.fingerprint = d.bytes.slice offset ringFingerprintSize

/-- With the dive in front of them, the dives still lie at the end of the bytes in use. -/
theorem Precedes.suffix {data : Bytes} {newer : List Dive} {d : Dive}
    (hd : h.Precedes offset data newer d) : joined (newer ++ [d]) <:+ data := by
  obtain ⟨older, hplace, -⟩ := hd.place
  exact ⟨older, by rw [joined_append, ← List.append_assoc, ← hplace]⟩

/-- Dives each of which lies in front of those before it lie at the end of the bytes in use. -/
theorem suffix_of_precedes {data : Bytes} {ds : List Dive}
    (hds : ∀ i, (hi : i < ds.length) → h.Precedes offset data (ds.take i) ds[i]) (k : Nat) :
    joined (ds.take k) <:+ data := by
  induction k with
  | zero => exact List.nil_suffix
  | succ k ih =>
    by_cases hk : k < ds.length
    · rw [← List.take_append_getElem hk]
      exact (hds k hk).suffix
    · rwa [List.take_of_length_le (by omega), ← List.take_of_length_le (Nat.le_of_not_lt hk)]

/-- A dive in front of others starts inside the ring. -/
theorem Precedes.inside {data : Bytes} {newer : List Dive} {d : Dive}
    (hd : h.Precedes offset data newer d) : ringStart ≤ d.start ∧ d.start < ringEnd := by
  obtain ⟨older, -, hstart⟩ := hd.place
  rw [hstart]
  exact ⟨(h.start.advance older.length).start_le, (h.start.advance older.length).lt_end⟩

/-- Where the walk stands behind the dives `newer`: the bytes `data` of the bytes in use `all` are
left, they end at the address `next`, and the dive at their end is said to start at `current`. -/
structure WalkAt (h : RingHeader) (all : Bytes) (newer : List Dive) (current next : RingAddress)
    (data : Bytes) : Prop where
  split : all = data ++ joined newer
  fits : data.length ≤ ringSize
  reached : next = h.start.advance data.length
  ends : next.val = h.endBefore newer
  named : current.val = h.namedBefore newer

section Step

variable {all data : Bytes} {newer : List Dive} {current next : RingAddress} {d : Dive}

/-- Any dive in front of those handed out is the one that the walk looks at. -/
theorem WalkAt.eq_of_precedes (hat : WalkAt h all newer current next data)
    (hd : h.Precedes offset all newer d) :
    current.distance next true = d.bytes.length ∧ d.bytes.length ≤ data.length ∧
      data.drop (data.length - d.bytes.length) = d.bytes := by
  obtain ⟨older, hplace, hstart⟩ := hd.place
  -- what is left ends with the dive, since both end where the newer ones begin
  have hdata : data = older ++ d.bytes := by
    rw [hat.split] at hplace
    exact List.append_cancel_right hplace
  have hlen : data.length = older.length + d.bytes.length := by rw [hdata, List.length_append]
  have hcurrent : current = h.start.advance older.length :=
    RingAddress.ext_val (by rw [hat.named, ← hd.named, hstart])
  have hpos : 0 < d.bytes.length := by
    have := hd.long
    unfold ringFingerprintSize at this
    omega
  -- the pointer and the place behind the older bytes are the same address
  have hfits := hat.fits
  refine ⟨?_, by omega, ?_⟩
  · rw [hat.reached, hlen, ← RingAddress.advance_advance, ← hcurrent]
    exact RingAddress.distance_advance hpos (by omega)
  · rw [hdata]
    exact List.drop_left' (by simp)

/-- The bytes between the address named and the end of what is left are a dive in front of those
handed out, if they name its end and hold a fingerprint. -/
theorem WalkAt.precedes (hat : WalkAt h all newer current next data)
    (hsize : current.distance next true ≤ data.length)
    (hnext : Bytes.le16 ((data.drop (data.length - current.distance next true)).drop 2) = next.val)
    (hlong : offset + ringFingerprintSize ≤ current.distance next true) :
    h.Precedes offset all newer ⟨current.val,
      data.drop (data.length - current.distance next true),
      Bytes.slice (data.drop (data.length - current.distance next true)) offset
        ringFingerprintSize⟩ where
  place := by
    refine ⟨data.take (data.length - current.distance next true), ?_, ?_⟩
    · rw [List.take_append_drop]
      exact hat.split
    · rw [List.length_take, Nat.min_eq_left (Nat.sub_le _ _)]
      -- going back from the end by the distance leads to the pointer
      refine congrArg RingAddress.val (RingAddress.advance_sub hsize ?_)
      rw [RingAddress.advance_distance, hat.reached]
  long := by simp only [List.length_drop]; omega
  successor := hnext.trans hat.ends
  named := hat.named
  fingerprint := rfl

/-- Behind such a dive the walk stands in front of it. -/
theorem WalkAt.step (hat : WalkAt h all newer current next data) {older : Bytes} {p : RingAddress}
    (hdata : data = older ++ d.bytes) (hd : h.Precedes offset all newer d)
    (hp : p.val = d.bytes.le16) (hstart : d.start = current.val) :
    WalkAt h all (newer ++ [d]) p current older where
  split := by rw [joined_append, ← List.append_assoc, ← hdata, hat.split]
  fits := by
    have := hat.fits
    rw [hdata, List.length_append] at this
    omega
  reached := by
    obtain ⟨older', hplace, hstart'⟩ := hd.place
    rw [hat.split, hdata] at hplace
    -- the older bytes and those in front of the dive are the same
    have heq := List.append_cancel_right (List.append_cancel_right hplace)
    exact RingAddress.ext_val (by rw [← hstart, hstart', heq])
  ends := by rw [endBefore_append, hstart]
  named := by rw [namedBefore_append, hp]

end Step

/-! ### All of a walk -/

/-- What holds of a walk that goes on behind the dives `newer`. -/
structure Trusted (h : RingHeader) (offset : Nat) (all : Bytes) (newer : List Dive) (w : Walk) :
    Prop where
  precedes : ∀ i, (hi : i < w.dives.length) →
    h.Precedes offset all (newer ++ w.dives.take i) w.dives[i]
  complete : w.fault = none → joined (newer ++ w.dives) = all
  stuck : ∀ f, w.fault = some f → joined (newer ++ w.dives) ≠ all ∧
    ∀ d, ¬ h.Precedes offset all (newer ++ w.dives) d

theorem Trusted.nothing {all : Bytes} {newer : List Dive} (hall : joined newer = all) :
    Trusted h offset all newer .nothing where
  precedes := fun i hi => absurd hi (by simp [Walk.nothing])
  complete := fun _ => by simpa [Walk.nothing] using hall
  stuck := fun f hf => absurd hf (by simp [Walk.nothing])

theorem Trusted.broken {all : Bytes} {newer : List Dive} {f : DataFault}
    (hall : joined newer ≠ all) (hnone : ∀ d, ¬ h.Precedes offset all newer d) :
    Trusted h offset all newer (.broken f) where
  precedes := fun i hi => absurd hi (by simp [Walk.broken])
  complete := fun hf => absurd hf (by simp [Walk.broken])
  stuck := fun _ _ => by simpa [Walk.broken] using ⟨hall, hnone⟩

theorem Trusted.cons {all : Bytes} {newer : List Dive} {d : Dive} {w : Walk}
    (hd : h.Precedes offset all newer d) (hw : Trusted h offset all (newer ++ [d]) w) :
    Trusted h offset all newer (.cons d w) where
  precedes := by
    intro i hi
    cases i with
    | zero => simpa using hd
    | succ i => simpa using hw.precedes i (by simpa using hi)
  complete := fun hf => by simpa using hw.complete hf
  stuck := fun f hf => by simpa using hw.stuck f hf

/-- The dives handed out are not all of the bytes in use while something is left. -/
theorem joined_ne {all left : Bytes} {ds : List Dive} (hall : all = left ++ joined ds)
    (hne : left ≠ []) : joined ds ≠ all := by
  intro heq
  have hlen := congrArg List.length hall
  rw [← heq, List.length_append] at hlen
  exact hne (List.length_eq_zero_iff.1 (by omega))

/-- **A walk may be trusted from any place on**: its invariant is kept by each step, and each fault
means that no dive fits. -/
theorem trusted_ringWalk {all : Bytes} (current next : RingAddress) (data : Bytes) :
    ∀ newer, WalkAt h all newer current next data →
      Trusted h offset all newer (ringWalk offset current next data) := by
  fun_induction ringWalk offset current next data with
  | case1 current next =>
    intro newer hat
    exact .nothing hat.split.symm
  | case2 current next data hne size hsize =>
    -- the size is not that of a dive
    intro newer hat
    refine .broken (joined_ne hat.split hne) fun d hd => ?_
    obtain ⟨hdist, hle, -⟩ := hat.eq_of_precedes hd
    have := hd.long
    unfold ringFingerprintSize at this
    omega
  | case3 current next data hne size hsize bytes successor hsucc =>
    -- the dive names another successor
    intro newer hat
    refine .broken (joined_ne hat.split hne) fun d hd => ?_
    obtain ⟨hdist, -, hdrop⟩ := hat.eq_of_precedes hd
    refine hsucc ?_
    rw [hat.ends, ← hd.successor, ← hdrop, ← hdist]
  | case4 current next data hne size hsize bytes successor hsucc hshort =>
    -- it is too short
    intro newer hat
    refine .broken (joined_ne hat.split hne) fun d hd => ?_
    obtain ⟨hdist, -, -⟩ := hat.eq_of_precedes hd
    have := hd.long
    omega
  | case5 current next data hne size hsize older bytes successor hsucc hlong dive hold =>
    -- it is the oldest dive
    intro newer hat
    have hd : h.Precedes offset all newer dive :=
      hat.precedes (by omega) (Decidable.of_not_not hsucc) (by omega)
    refine .cons hd (.nothing ?_)
    have hdata : data = older ++ bytes := (List.take_append_drop _ _).symm
    rw [joined_append, hat.split, hdata, hold]
    rfl
  | case6 current next data hne size hsize older bytes predecessor successor hsucc hlong dive hold
      hnone =>
    -- it names a predecessor outside the ring
    intro newer hat
    have hd : h.Precedes offset all newer dive :=
      hat.precedes (by omega) (Decidable.of_not_not hsucc) (by omega)
    have hall : all = older ++ joined (newer ++ [dive]) := by
      rw [joined_append, ← List.append_assoc, List.take_append_drop]
      exact hat.split
    refine .cons hd (.broken (joined_ne hall hold) fun x hx => ?_)
    obtain ⟨left, -, hstart⟩ := hx.place
    refine RingAddress.ofNat?_eq_none hnone (h.start.advance left.length) ?_
    rw [← hstart, hx.named, namedBefore_append]
  | case7 current next data hne size hsize older bytes predecessor successor hsucc hlong dive hold
      p hsome ih =>
    intro newer hat
    have hd : h.Precedes offset all newer dive :=
      hat.precedes (by omega) (Decidable.of_not_not hsucc) (by omega)
    have hdata : data = older ++ bytes := (List.take_append_drop _ _).symm
    exact .cons hd (ih _ (hat.step hdata hd (RingAddress.ofNat?_eq_some hsome) rfl))

/-- **The walk through a ring may be trusted**, whatever the bytes in use are. -/
theorem trusted_walk (h : RingHeader) (offset : Nat) {data : Bytes} (hlen : data.length = h.used) :
    Trusted h offset data [] (h.walk offset data) := by
  refine trusted_ringWalk h.last h.stop data [] ⟨by simp, ?_, ?_, rfl, rfl⟩
  · rw [hlen]
    exact h.used_le
  · rw [hlen, advance_used]

end RingHeader
end DiveLink
