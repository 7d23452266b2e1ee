/-!
# Events

What a device reports while an operation runs: how far a transfer has come, who it is, and what
its clock says.

## Main definitions

* `DevInfo`, `Clock`, `Progress` — the reports.
* `Progress.advance?`, `Progress.advance` — the progress after some more bytes, in any case and
  within a transfer.
* `Event` — any of them.
-/

namespace DiveLink

/-- The identity of a device. -/
structure DevInfo where
  model : Nat
  firmware : Nat
  serial : Nat
  deriving DecidableEq, Repr, Inhabited

/-- The host's time in seconds of the Unix era and the device's own counter at one moment. -/
structure Clock where
  systime : Nat
  devtime : Nat
  deriving DecidableEq, Repr, Inhabited

/-- How much of a transfer is done. -/
structure Progress where
  current : UInt32
  maximum : UInt32
  deriving DecidableEq, Repr, Inhabited

namespace Progress

/-- A transfer of `maximum` bytes of which none is done. -/
def start (maximum : UInt32) : Progress := ⟨0, maximum⟩

/-- The progress after `n` more bytes, never past the maximum.  Their number is cut to the word in
which they are counted, and there is no such progress if the sum does not fit that word. -/
def advance? (p : Progress) (n : Nat) : Option Progress :=
  if p.current.toNat + n % UInt32.size < UInt32.size then
    some { p with current := min (p.current + UInt32.ofNat n) p.maximum }
  else none

/-- The progress after `n` more bytes of a transfer, where the sum always fits. -/
def advance (p : Progress) (n : Nat) : Progress := (p.advance? n).getD p

@[simp] theorem start_current (m : UInt32) : (start m).current = 0 := rfl

@[simp] theorem start_maximum (m : UInt32) : (start m).maximum = m := rfl

variable {p q : Progress} {n : Nat}

theorem advance?_eq_none_iff :
    p.advance? n = none ↔ UInt32.size ≤ p.current.toNat + n % UInt32.size := by
  unfold advance?
  split <;> simp <;> omega

/-- A sum that fits its word is held at the maximum. -/
theorem eq_of_advance? (h : p.advance? n = some q) :
    q.maximum = p.maximum ∧
      q.current.toNat = min (p.current.toNat + n % UInt32.size) p.maximum.toNat := by
  unfold advance? at h
  split at h
  · next hfits =>
    obtain rfl := Option.some.inj h
    have hsum : (p.current + UInt32.ofNat n).toNat = p.current.toNat + n % UInt32.size := by
      rw [UInt32.toNat_add, UInt32.toNat_ofNat']
      exact Nat.mod_eq_of_lt hfits
    refine ⟨rfl, ?_⟩
    rw [← hsum]
    -- the words are in the order of their numbers
    by_cases hle : p.current + UInt32.ofNat n ≤ p.maximum
    · rw [Nat.min_eq_left (UInt32.le_iff_toNat_le.1 hle)]
      exact congrArg UInt32.toNat (if_pos hle)
    · rw [UInt32.le_iff_toNat_le, Nat.not_le] at hle
      rw [Nat.min_eq_right (Nat.le_of_lt hle)]
      exact congrArg UInt32.toNat (if_neg fun h => Nat.not_le.2 hle (UInt32.le_iff_toNat_le.1 h))
  · exact absurd h (by simp)

@[simp] theorem advance_maximum (p : Progress) (n : Nat) : (p.advance n).maximum = p.maximum := by
  unfold advance
  cases h : p.advance? n with
  | none => rfl
  | some q => exact (eq_of_advance? h).1

/-- Bytes of which the transfer has as many to come are counted as they are. -/
theorem advance?_eq (h : p.current.toNat + n ≤ p.maximum.toNat) :
    p.advance? n = some (p.advance n) := by
  have hmaximum : p.maximum.toNat < UInt32.size := p.maximum.toNat_lt
  have hfits : p.current.toNat + n % UInt32.size < UInt32.size := by
    have := Nat.mod_le n UInt32.size
    omega
  unfold advance advance?
  rw [if_pos hfits]
  rfl

theorem toNat_advance (h : p.current.toNat + n ≤ p.maximum.toNat) :
    (p.advance n).current.toNat = p.current.toNat + n := by
  have hmaximum : p.maximum.toNat < UInt32.size := p.maximum.toNat_lt
  rw [(eq_of_advance? (advance?_eq h)).2, Nat.mod_eq_of_lt (by omega)]
  exact Nat.min_eq_left h

end Progress

/-- A report of a device. -/
inductive Event
  | progress (p : Progress)
  | devInfo (i : DevInfo)
  | clock (c : Clock)
  deriving DecidableEq, Repr, Inhabited

end DiveLink
