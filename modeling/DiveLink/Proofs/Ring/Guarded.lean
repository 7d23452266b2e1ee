import DiveLink.Proofs.Guarded
import DiveLink.Proofs.Ring.Walk

/-!
# The ring under guard

The pointers of a ring come from a device and are numbers like any other.  The distance between two
of them, the header, and the walk from dive to dive are written out with a guard in front of each
step that a machine does not do in all cases: a difference, a sum, a range of bytes.  The walk is
allowed only so many turns as dives fit into the bytes in use.

## Main definitions

* `RingPointers` — the numbers of a header.
* `Guarded.distance?`, `Guarded.parse?`, `Guarded.find?`, `Guarded.walk?` — distance, header, dive
  and walk under guard.

## Main results

* `Guarded.distance?_eq`, `Guarded.parse?_eq`, `Guarded.find?_eq` — no guard stops these.
* `Guarded.walk?_eq` — **no guard stops the walk, whatever the bytes are.**
* `RingHeader.Trusted.consumes` — each dive that is handed out takes as many of the bytes in use as
  its fingerprint and those in front of it.
-/

namespace DiveLink

/-- The numbers of a header. -/
structure RingPointers where
  last : Nat
  count : Nat
  stop : Nat
  start : Nat
  deriving DecidableEq, Repr

/-- The numbers of a header whose pointers lie in the ring. -/
def RingHeader.pointers (h : RingHeader) : RingPointers :=
  ⟨h.last.val, h.count, h.stop.val, h.start.val⟩

namespace Guarded

/-! ### Distance and header -/

/-- The number of bytes from `a` forward to `b`, which may be any numbers; if they are equal, all of
the ring if it is `full`. -/
def distance? (a b : Nat) (full : Bool) : Option Nat :=
  if a < b then sub? b a
  else if b < a then do add? (← sub? ringEnd a) (← sub? b ringStart)
  else if full then sub? ringEnd ringStart
  else some 0

/-- No guard stops the distance between two addresses of the ring. -/
theorem distance?_eq (a b : RingAddress) (full : Bool) :
    distance? a.val b.val full = some (a.distance b full) := by
  have := a.lt_end
  have := b.start_le
  have := b.lt_end
  obtain ⟨hs, he, -⟩ := RingAddress.ring_numbers
  unfold distance? RingAddress.distance
  by_cases hlt : a.val < b.val
  · rw [if_pos hlt, if_pos hlt, sub?_eq (by omega)]
  rw [if_neg hlt, if_neg hlt]
  by_cases hgt : b.val < a.val
  · have hsum : ringEnd - a.val + (b.val - ringStart) < 2 ^ 32 := by omega
    rw [if_pos hgt, if_pos hgt, sub?_eq (by omega), sub?_eq (by omega), Option.bind_eq_bind,
      Option.bind_some, Option.bind_some, add?_eq hsum]
  rw [if_neg hgt, if_neg hgt]
  cases full with
  | false => rfl
  | true => rfl

/-- The header in some bytes. -/
def parse? (b : Bytes) : Option (Except DataFault RingPointers) := do
  let last ← word? b 0
  let count ← word? b 2
  let stop ← word? b 4
  let start ← word? b 6
  if (ringStart ≤ last ∧ last < ringEnd) ∧ (ringStart ≤ stop ∧ stop < ringEnd) ∧
      (ringStart ≤ start ∧ start < ringEnd) then
    return .ok ⟨last, count, stop, start⟩
  return .error (.ringPointers last count stop start)

/-- A number is an address of the ring exactly if it lies between its ends. -/
theorem inside_iff (n : Nat) :
    ringStart ≤ n ∧ n < ringEnd ↔ (RingAddress.ofNat? n).isSome = true := by
  unfold RingAddress.ofNat?
  by_cases hn : ringStart ≤ n ∧ n < ringEnd
  · simp [hn]
  · simp [hn]

/-- No guard stops the reading of a header. -/
theorem parse?_eq {b : Bytes} (h : b.length = RingHeader.length) :
    parse? b = some ((RingHeader.parse b).map RingHeader.pointers) := by
  have hlength : b.length = 8 := h
  unfold parse? RingHeader.parse
  rw [word?_eq (by omega), word?_eq (by omega), word?_eq (by omega), word?_eq (by omega)]
  simp only [Option.bind_eq_bind, Option.bind_some, Option.pure_def, inside_iff, List.drop_zero]
  cases hlast : RingAddress.ofNat? b.le16 with
  | none => rfl
  | some last =>
    cases hstop : RingAddress.ofNat? (Bytes.le16 (b.drop 4)) with
    | none => rfl
    | some stop =>
      cases hstart : RingAddress.ofNat? (Bytes.le16 (b.drop 6)) with
      | none => rfl
      | some start =>
        -- the pointers are the addresses
        rw [← RingAddress.ofNat?_eq_some hlast, ← RingAddress.ofNat?_eq_some hstop,
          ← RingAddress.ofNat?_eq_some hstart]
        rfl

/-! ### One dive -/

/-- The dive at `current`, which ends in front of `previous` and with the bytes `data` in front of
`pos`, and the address that it names as that of its predecessor. -/
def find? (offset : Nat) (data : Bytes) (current previous pos : Nat) :
    Option (Except DataFault (Dive × Nat)) := do
  let size ← distance? current previous true
  if size < 4 ∨ pos < size then return .error (.diveSize current size)
  let bytes ← part? data (← sub? pos size) pos
  let predecessor ← word? bytes 0
  let successor ← word? bytes 2
  if successor ≠ previous then return .error (.brokenChain current successor previous)
  if size < offset + ringFingerprintSize then return .error (.noFingerprint current)
  return .ok (⟨current, bytes, ← part? bytes offset (offset + ringFingerprintSize)⟩, predecessor)

/-- The dive at the end of the bytes `data`. -/
def lastDive (offset : Nat) (current next : RingAddress) (data : Bytes) : Except DataFault Dive :=
  let size := current.distance next true
  let bytes := data.drop (data.length - size)
  if size < 4 ∨ data.length < size then .error (.diveSize current.val size)
  else if Bytes.le16 (bytes.drop 2) ≠ next.val then
    .error (.brokenChain current.val (Bytes.le16 (bytes.drop 2)) next.val)
  else if size < offset + ringFingerprintSize then .error (.noFingerprint current.val)
  else .ok ⟨current.val, bytes, Bytes.slice bytes offset ringFingerprintSize⟩

section Walk

variable {offset : Nat} {current next : RingAddress} {data : Bytes} {dive : Dive}

/-- A dive at the end of some bytes has so many of them that its fingerprint is among them. -/
theorem bounds_of_lastDive (h : lastDive offset current next data = .ok dive) :
    dive.bytes.length ≤ data.length ∧ offset + ringFingerprintSize ≤ dive.bytes.length := by
  unfold lastDive at h
  simp only at h
  split at h
  · exact absurd h (by simp)
  next hfits =>
    split at h
    · exact absurd h (by simp)
    · split at h
      · exact absurd h (by simp)
      next hlong =>
        cases h
        simp only [List.length_drop]
        omega

/-- A walk looks at the dive at the end of its bytes, and goes on in front of it. -/
theorem ringWalk_eq (h : data ≠ []) : ringWalk offset current next data =
    match lastDive offset current next data with
    | .error f => .broken f
    | .ok dive =>
      let older := data.take (data.length - dive.bytes.length)
      if older = [] then .cons dive .nothing
      else .cons dive ((RingAddress.ofNat? dive.bytes.le16).elim
        (.broken (.linkOutside current.val dive.bytes.le16)) (ringWalk offset · current older)) := by
  rw [ringWalk, dif_neg h, lastDive]
  simp only
  by_cases hfits : current.distance next true < 4 ∨ data.length < current.distance next true
  · rw [dif_pos hfits, if_pos hfits]
  rw [dif_neg hfits, if_neg hfits]
  split
  · rfl
  split
  · rfl
  have hlength : (data.drop (data.length - current.distance next true)).length =
      current.distance next true := by
    rw [List.length_drop]
    omega
  simp only [hlength]
  cases RingAddress.ofNat? _ <;> rfl

/-- No guard stops the look at one dive. -/
theorem find?_eq {pos : Nat} (hpos : pos ≤ data.length) :
    find? offset data current.val next.val pos =
      some ((lastDive offset current next (data.take pos)).map fun d => (d, d.bytes.le16)) := by
  have hlength : (data.take pos).length = pos := by rw [List.length_take]; omega
  unfold find? lastDive
  rw [distance?_eq, Option.bind_eq_bind, Option.bind_some, hlength]
  obtain ⟨size, hsize⟩ : ∃ size, size = current.distance next true := ⟨_, rfl⟩
  simp only [← hsize]
  refine ite_eq_some (Except.map _) rfl fun hfits => ?_
  obtain ⟨hleast, hmost⟩ := not_or.1 hfits
  -- the bytes of the dive are enough for each number that is read
  obtain ⟨bytes, hbytes⟩ : ∃ bytes : Bytes, bytes = (data.take pos).drop (pos - size) := ⟨_, rfl⟩
  have hsub := sub?_eq (Nat.not_lt.1 hmost)
  have hpart : part? data (pos - size) pos = some bytes := by
    rw [part?_eq (Nat.sub_le _ _) hpos, hbytes, List.drop_take]
    rfl
  have hwidth : bytes.length = size := by
    rw [hbytes, List.length_drop, hlength]
    omega
  have hpredecessor := word?_eq (show 0 + 2 ≤ bytes.length by omega)
  have hsuccessor := word?_eq (show 2 + 2 ≤ bytes.length by omega)
  simp only [← hbytes, hsub, hpart, hpredecessor, hsuccessor, Option.bind_eq_bind,
    Option.bind_some, List.drop_zero]
  refine ite_eq_some (Except.map _) rfl fun _ => ite_eq_some (Except.map _) rfl fun hlong => ?_
  have hfingerprint := part?_eq (Nat.le_add_right offset ringFingerprintSize)
    (show offset + ringFingerprintSize ≤ bytes.length by omega)
  rw [Nat.add_sub_cancel_left] at hfingerprint
  rw [hfingerprint]
  rfl

/-! ### The walk -/

/-- The walk back from the dive at `current`, which ends in front of `previous`, through those of
the bytes `data` that stand in front of `pos`, with `turns` turns left.  The dives `seen` were
handed out before, latest first; the walk ends in front of a `known` dive, and behind a dive at
which `keep` refuses to go on. -/
def walk? (offset : Nat) (known : Dive → Bool) (keep : List Dive → Bool) (data : Bytes) :
    (turns current previous pos : Nat) → (seen : List Dive) → Option Walk
  | 0, _, _, pos, _ => if pos = 0 then some .nothing else none
  | turns + 1, current, previous, pos, seen =>
    if pos = 0 then some .nothing
    else do
      match ← find? offset data current previous pos with
      | .error f => return .broken f
      | .ok (dive, predecessor) =>
        if known dive then return .nothing
        if ¬ keep (dive :: seen) then return .cons dive .nothing
        let left ← sub? pos dive.bytes.length
        if 0 < left ∧ ¬ (ringStart ≤ predecessor ∧ predecessor < ringEnd) then
          return .cons dive (.broken (.linkOutside current predecessor))
        let rest ← walk? offset known keep data turns predecessor current left (dive :: seen)
        return .cons dive rest

variable {known : Dive → Bool} {keep : List Dive → Bool}

/-- Where no byte is left the walk is over, and it does not matter which dive would come next. -/
theorem walk?_zero (turns current previous : Nat) (seen : List Dive) :
    walk? offset known keep data turns current previous 0 seen = some .nothing := by
  cases turns <;> simp [walk?]

/-- A walk that finds a dive and then the walk `rest`, as far as it is handed out. -/
theorem cutAfter_cons (dive : Dive) (rest : Walk) (seen : List Dive) :
    (if known dive then some .nothing
      else if ¬ keep (dive :: seen) then some (.cons dive .nothing)
      else some (.cons dive (Walk.cutAfter known keep rest.fault (dive :: seen) rest.dives))) =
    some (Walk.cutAfter known keep rest.fault seen (dive :: rest.dives)) := by
  rw [Walk.cutAfter]
  by_cases hknown : known dive
  · rw [if_pos hknown, if_pos hknown]
  rw [if_neg hknown, if_neg hknown]
  by_cases hkeep : keep (dive :: seen)
  · rw [if_neg (fun hstop => hstop hkeep), if_pos hkeep]
  · rw [if_pos hkeep, if_neg hkeep]

/-- **No guard stops the walk, whatever the bytes are**, and it is over before its turns are used
up: each turn but the last takes as many bytes as a fingerprint and those in front of it. -/
theorem walk?_eq (known : Dive → Bool) (keep : List Dive → Bool) :
    ∀ (turns pos : Nat) (current next : RingAddress) (seen : List Dive), pos ≤ data.length →
      pos < turns * (offset + ringFingerprintSize) →
      walk? offset known keep data turns current.val next.val pos seen =
        some (Walk.cutAfter known keep (ringWalk offset current next (data.take pos)).fault seen
          (ringWalk offset current next (data.take pos)).dives) := by
  intro turns
  induction turns with
  | zero => exact fun pos _ _ _ _ hturns => absurd hturns (by omega)
  | succ turns ih =>
    intro pos current next seen hpos hturns
    have hlength : (data.take pos).length = pos := by rw [List.length_take]; omega
    rw [walk?]
    by_cases hzero : pos = 0
    · rw [if_pos hzero, hzero, List.take_zero, ringWalk, dif_pos rfl]
      rfl
    have hsome : data.take pos ≠ [] := List.length_pos_iff.1 (by omega)
    rw [if_neg hzero, find?_eq hpos, Option.bind_eq_bind, Option.bind_some, ringWalk_eq hsome,
      hlength]
    cases hdive : lastDive offset current next (data.take pos) with
    | error f => rfl
    | ok dive =>
      obtain ⟨hmost, hlong⟩ := bounds_of_lastDive hdive
      rw [hlength] at hmost
      have holder : (data.take pos).take (pos - dive.bytes.length) =
          data.take (pos - dive.bytes.length) := by
        rw [List.take_take, Nat.min_eq_left (Nat.sub_le _ _)]
      simp only [Except.map, sub?_eq hmost, holder, Option.bind_eq_bind, Option.bind_some]
      by_cases hleft : pos - dive.bytes.length = 0
      · -- the dive was the oldest, and nobody looks at the address that it names
        rw [hleft, if_pos List.take_zero, if_neg (show ¬ (0 < 0 ∧ _) by omega), walk?_zero]
        exact cutAfter_cons dive .nothing seen
      have holder' : data.take (pos - dive.bytes.length) ≠ [] :=
        List.length_pos_iff.1 (by rw [List.length_take]; omega)
      rw [if_neg holder']
      cases hin : RingAddress.ofNat? dive.bytes.le16 with
      | none =>
        have hout : 0 < pos - dive.bytes.length ∧
            ¬ (ringStart ≤ dive.bytes.le16 ∧ dive.bytes.le16 < ringEnd) := by
          rw [inside_iff, hin]
          exact ⟨by omega, by simp⟩
        rw [if_pos hout]
        exact cutAfter_cons dive (.broken (.linkOutside current.val dive.bytes.le16)) seen
      | some p =>
        have hval := RingAddress.ofNat?_eq_some hin
        have hinside : ¬ (0 < pos - dive.bytes.length ∧
            ¬ (ringStart ≤ dive.bytes.le16 ∧ dive.bytes.le16 < ringEnd)) := by
          rw [inside_iff, hin]
          simp
        -- the bytes that are left are enough for one turn less
        have hless : pos - dive.bytes.length < turns * (offset + ringFingerprintSize) := by
          rw [Nat.succ_mul] at hturns
          omega
        rw [if_neg hinside, ← hval, ih _ p current (dive :: seen) (by omega) hless]
        exact cutAfter_cons dive _ seen

end Walk

end Guarded

/-! ### What a walk takes -/

namespace RingHeader

variable {h : RingHeader} {offset : Nat} {all : Bytes} {w : Walk}

/-- **Each dive that is handed out takes as many of the bytes in use as its fingerprint and those in
front of it**, and one takes its bytes in front of the other. -/
theorem Trusted.consumes (hw : Trusted h offset all [] w) (known : Dive → Bool)
    (keep : List Dive → Bool) :
    (∀ d ∈ (w.cut known keep).dives, offset + ringFingerprintSize ≤ d.bytes.length) ∧
      joined (w.cut known keep).dives <:+ all := by
  obtain ⟨n, hdives⟩ : ∃ n, (w.cut known keep).dives = w.dives.take n := by
    obtain ⟨n, -, ⟨-, hcut, -⟩ | ⟨hcut, -⟩⟩ := Walk.cut_cases known keep w
    · exact ⟨w.dives.length, by rw [hcut, List.take_length]⟩
    · exact ⟨n, by rw [hcut]⟩
  have hprecedes : ∀ i, (hi : i < w.dives.length) →
      h.Precedes offset all (w.dives.take i) w.dives[i] := by
    intro i hi
    simpa using hw.precedes i hi
  rw [hdives]
  constructor
  · intro d hd
    obtain ⟨i, hi, rfl⟩ := List.getElem_of_mem (List.mem_of_mem_take hd)
    exact (hprecedes i hi).long
  · exact suffix_of_precedes hprecedes n

end RingHeader
end DiveLink
