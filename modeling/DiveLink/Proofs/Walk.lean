import DiveLink.Dive

/-!
# How much of a walk is handed out

A walk is cut in front of the first dive that the caller knows, or behind the dive at which the
caller stops, whichever comes first.  What is handed out is therefore the first `n` dives of the
walk for some `n`, and the fault at the end of the walk is met only if all of them are.

## Main definitions

* `Walk.Reaches known keep ds n` — the first `n` of the dives `ds` are handed out.
* `Walk.Leaves known keep ds n` — the walk is left behind these, for a known dive or a stop.

## Main results

* `Walk.cut_cases` — **a walk is handed out whole, or left behind its first `n` dives.**
* `Walk.cut_finished` — without a fault at its end, it is left in good order in either case.
-/

namespace DiveLink
namespace Walk

variable {known : Dive → Bool} {keep : List Dive → Bool}

/-! ### The dives handed out -/

/-- The first `n` of the dives `ds` are handed out: none of them is known, and the caller goes on
behind each but the last. -/
structure Reaches (known : Dive → Bool) (keep : List Dive → Bool) (ds : List Dive) (n : Nat) :
    Prop where
  le : n ≤ ds.length
  unknown : ∀ d ∈ ds.take n, known d = false
  kept : ∀ i, 0 < i → i < n → keep (ds.take i).reverse = true

/-- The dives `ds` are left behind the first `n`: the next one is known, or the caller stops at the
last one. -/
def Leaves (known : Dive → Bool) (keep : List Dive → Bool) (ds : List Dive) (n : Nat) : Prop :=
  (∃ d, ds[n]? = some d ∧ known d = true ∧ (0 < n → keep (ds.take n).reverse = true)) ∨
    (0 < n ∧ keep (ds.take n).reverse = false)

theorem reaches_zero (ds : List Dive) : Reaches known keep ds 0 where
  le := Nat.zero_le _
  unknown := by simp
  kept := fun i h₁ h₂ => absurd h₂ (by omega)

/-- One more dive in front of those handed out, if it is not known and the caller goes on. -/
theorem Reaches.cons {d : Dive} {ds : List Dive} {n : Nat} (hk : known d = false)
    (hc : keep [d] = true) (h : Reaches known (fun seen => keep (seen ++ [d])) ds n) :
    Reaches known keep (d :: ds) (n + 1) where
  le := by simpa using h.le
  unknown := by
    intro x hx
    rw [List.take_succ_cons, List.mem_cons] at hx
    rcases hx with rfl | hx
    · exact hk
    · exact h.unknown x hx
  kept := by
    intro i h₁ h₂
    match i with
    | 0 => omega
    | 1 => simpa using hc
    | i + 2 => simpa using h.kept (i + 1) (by omega) (by omega)

theorem Leaves.cons {d : Dive} {ds : List Dive} {n : Nat} (hc : keep [d] = true)
    (h : Leaves known (fun seen => keep (seen ++ [d])) ds n) :
    Leaves known keep (d :: ds) (n + 1) := by
  rcases h with ⟨x, hx, hknown, hkept⟩ | ⟨hn, hstop⟩
  · refine Or.inl ⟨x, by simpa using hx, hknown, fun _ => ?_⟩
    cases n with
    | zero => simpa using hc
    | succ n => simpa using hkept (by omega)
  · exact Or.inr ⟨by omega, by simpa using hstop⟩

/-! ### The cut -/

/-- The cut behind some dives is the cut of a caller who remembers them. -/
theorem cutAfter_append (fault : Option DataFault) (x : Dive) :
    ∀ (ds seen : List Dive), cutAfter known keep fault (seen ++ [x]) ds =
      cutAfter known (fun s => keep (s ++ [x])) fault seen ds := by
  intro ds
  induction ds with
  | nil => intro seen; rfl
  | cons d ds ih =>
    intro seen
    simp only [cutAfter]
    rw [← List.cons_append, ih]

/-- **A walk is handed out whole, or left behind its first `n` dives.** -/
theorem cut_cases (known : Dive → Bool) (keep : List Dive → Bool) (w : Walk) :
    ∃ n, Reaches known keep w.dives n ∧
      ((n = w.dives.length ∧ w.cut known keep = w ∧
          (0 < n → keep w.dives.reverse = true)) ∨
        (w.cut known keep = ⟨w.dives.take n, none⟩ ∧ Leaves known keep w.dives n)) := by
  obtain ⟨ds, fault⟩ := w
  show ∃ n, Reaches known keep ds n ∧
    ((n = ds.length ∧ cutAfter known keep fault [] ds = ⟨ds, fault⟩ ∧ _) ∨
      (cutAfter known keep fault [] ds = ⟨ds.take n, none⟩ ∧ _))
  -- the caller's memory grows along the walk, so it is left free
  induction ds generalizing keep with
  | nil => exact ⟨0, reaches_zero _, Or.inl ⟨rfl, rfl, by simp⟩⟩
  | cons d ds ih =>
    by_cases hk : known d = true
    · refine ⟨0, reaches_zero _, Or.inr ⟨?_, Or.inl ⟨d, rfl, hk, by simp⟩⟩⟩
      simp [cutAfter, hk, nothing]
    · rw [Bool.not_eq_true] at hk
      by_cases hc : keep [d] = true
      · have hcut : cutAfter known keep fault [] (d :: ds) =
            cons d (cutAfter known (fun s => keep (s ++ [d])) fault [] ds) := by
          rw [← cutAfter_append]
          simp [cutAfter, hk, hc]
        rw [hcut]
        obtain ⟨n, hreach, hrest⟩ := ih (fun s => keep (s ++ [d]))
        refine ⟨n + 1, hreach.cons hk hc, ?_⟩
        rcases hrest with ⟨hn, hwhole, hkept⟩ | ⟨hpart, hleave⟩
        · refine Or.inl ⟨by simp [hn], by rw [hwhole]; rfl, fun _ => ?_⟩
          cases ds with
          | nil => simpa using hc
          | cons x ds => simpa using hkept (by simp [hn])
        · exact Or.inr ⟨by rw [hpart]; rfl, hleave.cons hc⟩
      · rw [Bool.not_eq_true] at hc
        refine ⟨1, ⟨by simp, by simpa using hk, fun i h₁ h₂ => absurd h₂ (by omega)⟩,
          Or.inr ⟨?_, Or.inr ⟨by omega, by simpa using hc⟩⟩⟩
        simp [cutAfter, hk, hc, nothing, cons]

/-- Without a fault at its end a walk is left in good order, behind its last dive or earlier. -/
theorem cut_finished (known : Dive → Bool) (keep : List Dive → Bool) (ds : List Dive) :
    ∃ n, Reaches known keep ds n ∧ (⟨ds, none⟩ : Walk).cut known keep = ⟨ds.take n, none⟩ ∧
      (n = ds.length ∨ Leaves known keep ds n) := by
  obtain ⟨n, hreach, ⟨hn, hcut, -⟩ | ⟨hcut, hleave⟩⟩ := cut_cases known keep ⟨ds, none⟩
  · exact ⟨n, hreach, by rw [hcut, hn, List.take_length], Or.inl hn⟩
  · exact ⟨n, hreach, hcut, Or.inr hleave⟩

end Walk
end DiveLink
