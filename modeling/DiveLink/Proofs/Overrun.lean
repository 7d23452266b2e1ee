import Mathlib.Algebra.BigOperators.Group.List.Basic
import Mathlib.Algebra.Ring.Nat
import DiveLink.Proofs.Guarded

/-!
# Progress that overruns its word

The bytes of a transfer are counted in a word of thirty-two bits.  Each number of bytes is cut to
the word before it is added, so that of a number that does not fit only a part may be counted; and a
call whose sum does not fit the word stops the program.  Nothing else goes wrong with the count: it
never falls, it never passes the maximum, what is reported is what is counted, and a transfer of
less than 2 ^ 32 bytes is counted as it is.

## Main definitions

* `Progress.after?`, `Progress.tell` — the progress behind some calls, and the program that makes
  and reports them.
* `Progress.Exact` — behind each call the count is the sum so far, held at the maximum.
* `Progress.Overruns` — a call overruns the word.

## Main results

* `Progress.counts_iff` — when a call counts its bytes as they are.
* `Progress.exact_iff` — calls are counted exactly if none of them overruns the word.
* `Progress.current_after?` — what is counted of any calls.
* `Progress.run_tell` — each call reports what is counted.
* `Progress.exact_unless_overrun` — **progress is exact unless it overruns its word.**
-/

namespace DiveLink

open Session

namespace Progress

variable {p q : Progress} {m : UInt32} {ns : List Nat} {done n : Nat}

/-! ### One call -/

/-- With `done` bytes of `maximum` done before, `n` more overrun the word in which they are counted:
the sum does not fit it, or their number does not and what the word keeps of it is not all that is
missing. -/
def Overruns (maximum done n : Nat) : Prop :=
  UInt32.size ≤ min maximum done + n % UInt32.size ∨
    UInt32.size ≤ n ∧ min maximum done + n % UInt32.size < maximum

/-- The count never falls, and never passes the maximum. -/
theorem advance?_bounds (h : p.advance? n = some q) (hle : p.current ≤ p.maximum) :
    p.current ≤ q.current ∧ q.current ≤ p.maximum := by
  obtain ⟨-, hcurrent⟩ := eq_of_advance? h
  rw [UInt32.le_iff_toNat_le] at hle
  rw [UInt32.le_iff_toNat_le, UInt32.le_iff_toNat_le, hcurrent]
  exact ⟨Nat.le_min.2 ⟨Nat.le_add_right _ _, hle⟩, Nat.min_le_right _ _⟩

/-- Behind calls that are counted as they are, a further call is unless it overruns the word. -/
theorem counts_iff (hmaximum : p.maximum = m) (hcount : p.current.toNat = min m.toNat done) :
    (∃ q, p.advance? n = some q ∧ q.current.toNat = min m.toNat (done + n)) ↔
      ¬ Overruns m.toNat done n := by
  have hword : m.toNat < UInt32.size := m.toNat_lt
  rw [Overruns, ← hcount]
  cases hnext : p.advance? n with
  | none =>
    -- the call stops
    have hstops := advance?_eq_none_iff.1 hnext
    simp [hstops]
  | some q =>
    have hgoes : ¬ UInt32.size ≤ p.current.toNat + n % UInt32.size := by
      rw [← advance?_eq_none_iff, hnext]
      exact Option.some_ne_none q
    obtain ⟨-, hcurrent⟩ := eq_of_advance? hnext
    rw [hmaximum, hcount] at hcurrent
    rw [hcount] at hgoes ⊢
    simp only [Option.some.injEq, exists_eq_left', hcurrent]
    -- a number that fits the word is its own remainder, and one that does not is all there is
    rcases Nat.lt_or_ge n UInt32.size with hn | hn
    · rw [Nat.mod_eq_of_lt hn] at hgoes ⊢
      omega
    · omega

/-! ### One call after the other -/

/-- The progress behind some calls, each of which brings so many more bytes, if none stops. -/
def after? (p : Progress) (ns : List Nat) : Option Progress := ns.foldlM advance? p

theorem after?_cons (p : Progress) (n : Nat) (ns : List Nat) :
    p.after? (n :: ns) = (p.advance? n).bind fun q => q.after? ns := rfl

theorem after?_concat (p : Progress) (ns : List Nat) (n : Nat) :
    p.after? (ns ++ [n]) = (p.after? ns).bind fun q => q.advance? n := by
  rw [after?, List.foldlM_append]
  refine congrArg _ (funext fun q => ?_)
  exact bind_pure _

theorem after?_take_succ (p : Progress) {k : Nat} (hk : k < ns.length) :
    p.after? (ns.take (k + 1)) = (p.after? (ns.take k)).bind fun q => q.advance? ns[k] := by
  rw [← List.take_append_getElem hk, after?_concat]

/-- Of any calls is counted what the word keeps of each, held at the maximum. -/
theorem eq_of_after? (hle : p.current ≤ p.maximum) (h : p.after? ns = some q) :
    q.maximum = p.maximum ∧
      q.current.toNat =
        min p.maximum.toNat (p.current.toNat + (ns.map (· % UInt32.size)).sum) := by
  induction ns generalizing p with
  | nil =>
    obtain rfl := Option.some.inj h
    exact ⟨rfl, (Nat.min_eq_right (UInt32.le_iff_toNat_le.1 hle)).symm⟩
  | cons n ns ih =>
    rw [after?_cons, Option.bind_eq_some_iff] at h
    obtain ⟨r, hr, hq⟩ := h
    obtain ⟨hmaximum, hcurrent⟩ := eq_of_advance? hr
    have hbound := (advance?_bounds hr hle).2
    obtain ⟨hmaximum', hcurrent'⟩ := ih (hmaximum ▸ hbound) hq
    refine ⟨hmaximum'.trans hmaximum, ?_⟩
    rw [hcurrent', hmaximum, hcurrent, List.map_cons, List.sum_cons]
    omega

/-- Of a transfer from its start, so much is counted. -/
theorem current_after? (h : (start m).after? ns = some p) :
    p.maximum = m ∧ p.current.toNat = min m.toNat (ns.map (· % UInt32.size)).sum := by
  obtain ⟨hmaximum, hcurrent⟩ := eq_of_after? UInt32.zero_le h
  refine ⟨hmaximum, hcurrent.trans ?_⟩
  exact congrArg (min m.toNat) (Nat.zero_add _)

theorem after?_le (h : (start m).after? ns = some p) : p.current ≤ p.maximum := by
  obtain ⟨hmaximum, hcurrent⟩ := current_after? h
  rw [UInt32.le_iff_toNat_le, hmaximum, hcurrent]
  exact Nat.min_le_left _ _

/-- In a transfer of `m` bytes no call stops, and the count behind each is the sum so far, held at
the maximum. -/
def Exact (m : UInt32) (ns : List Nat) : Prop :=
  ∀ k ≤ ns.length, ∃ p, (start m).after? (ns.take k) = some p ∧
    p.current.toNat = min m.toNat (ns.take k).sum

/-- **Calls are counted as they are exactly if none of them overruns the word.** -/
theorem exact_iff :
    Exact m ns ↔ ∀ k, (hk : k < ns.length) → ¬ Overruns m.toNat (ns.take k).sum ns[k] := by
  constructor
  · intro h k hk
    obtain ⟨p, hp, hcount⟩ := h k (Nat.le_of_lt hk)
    obtain ⟨q, hq, hnext⟩ := h (k + 1) hk
    rw [after?_take_succ _ hk, hp, Option.bind_some] at hq
    rw [List.sum_take_succ _ _ hk] at hnext
    exact (counts_iff (current_after? hp).1 hcount).1 ⟨q, hq, hnext⟩
  · -- what is counted behind the calls so far is what the next one adds to
    intro h k
    induction k with
    | zero => exact fun _ => ⟨start m, rfl, (Nat.min_zero _).symm⟩
    | succ k ih =>
      intro hk
      obtain ⟨p, hp, hcount⟩ := ih (Nat.le_of_lt hk)
      rw [after?_take_succ _ hk, hp, Option.bind_some, List.sum_take_succ _ _ hk]
      exact (counts_iff (current_after? hp).1 hcount).2 (h k hk)

/-- No call overruns the word if all of the bytes can be counted in it. -/
theorem exact_of_lt (hlt : ns.sum < UInt32.size) : Exact m ns := by
  refine exact_iff.2 fun k hk hoverruns => ?_
  have hall := List.sum_take_add_sum_drop ns (k + 1)
  rw [List.sum_take_succ _ _ hk] at hall
  rcases hoverruns with hstops | ⟨hlong, -⟩
  · have hcut := Nat.mod_le ns[k] UInt32.size
    omega
  · omega

/-! ### Reports -/

variable {σ δ : Type}

/-- Counts bytes as they come, and reports each time how far the transfer is. -/
def tell (p : Progress) : List Nat → OptionT (Op σ δ) Progress
  | [] => return p
  | n :: ns => do
    let p ← sure (p.advance? n)
    OptionT.lift (emit (.progress p))
    p.tell ns

/-- The reports of some calls: each that does not stop, nor comes behind one that does, reports the
progress behind it. -/
def reports (p : Progress) (ns : List Nat) : List Entry :=
  (List.range ns.length).filterMap fun k =>
    (p.after? (ns.take (k + 1))).map fun q => .event (.progress q)

theorem reports_cons (p : Progress) (n : Nat) (ns : List Nat) :
    p.reports (n :: ns) =
      (p.advance? n).elim [] fun q => .event (.progress q) :: q.reports ns := by
  simp only [reports, List.length_cons, List.range_succ_eq_map, List.filterMap_cons,
    List.filterMap_map, List.take_succ_cons, Function.comp_def, after?_cons]
  cases p.advance? n with
  | none => simp
  | some q => rfl

/-- Calls report what is counted behind each of them, if the caller wants events. -/
theorem run_tell (p : Progress) (ns : List Nat) (s : Session σ δ) :
    ∃ t, run (p.tell ns).run s = (.ok (p.after? ns), t) ∧
      Grows s t (if s.listening then p.reports ns else []) := by
  induction ns generalizing p s with
  | nil => exact ⟨s, rfl, by simpa [reports] using Grows.refl s⟩
  | cons n ns ih =>
    rw [after?_cons, reports_cons]
    cases hnext : p.advance? n with
    | none =>
      -- a call that stops reports nothing, and nothing comes behind it
      refine ⟨s, ?_, by simpa using Grows.refl s⟩
      rw [tell, hnext]
      rfl
    | some q =>
      have hemit := grows_emit (.progress q) s
      obtain ⟨t, hrun, hgrows⟩ := ih q (run (emit (.progress q)) s).2
      refine ⟨t, ?_, ?_⟩
      · rw [tell, hnext]
        refine (run_lift_bind _ (fun _ => q.tell ns) s).trans ?_
        rw [run_bind_ok (run_emit_ok _ s)]
        exact hrun
      · rw [hemit.listening] at hgrows
        have hall := hemit.trans hgrows
        by_cases hlistening : s.listening
        · rw [if_pos hlistening, if_pos hlistening] at hall
          rwa [if_pos hlistening]
        · rw [if_neg hlistening, if_neg hlistening] at hall
          rwa [if_neg hlistening]

/-- **Progress is exact unless it overruns its word.**  The count behind each call is the sum so
far, held at the maximum, exactly if no call overruns the word, and none does in a transfer of less
than 2 ^ 32 bytes.  Behind calls none of which stops, what the word keeps of each is counted; the
next call stops exactly if its sum does not fit the word, and otherwise the count does not fall and
does not pass the maximum.  In any case each call that does not stop reports what is counted behind
it, and a call that stops is the last. -/
theorem exact_unless_overrun (m : UInt32) (ns : List Nat) :
    (Exact m ns ↔ ∀ k, (hk : k < ns.length) → ¬ Overruns m.toNat (ns.take k).sum ns[k]) ∧
      (ns.sum < UInt32.size → Exact m ns) ∧
      (∀ p, (start m).after? ns = some p →
        p.maximum = m ∧ p.current.toNat = min m.toNat (ns.map (· % UInt32.size)).sum ∧
          ∀ n, ((start m).after? (ns ++ [n]) = none ↔
              UInt32.size ≤ p.current.toNat + n % UInt32.size) ∧
            ∀ q, (start m).after? (ns ++ [n]) = some q →
              p.current ≤ q.current ∧ q.current ≤ m) ∧
      ∀ {σ δ : Type} (s : Session σ δ),
        ∃ t, run ((start m).tell ns).run s = (.ok ((start m).after? ns), t) ∧
          t.history = s.history ++ if s.listening then (start m).reports ns else [] := by
  refine ⟨exact_iff, exact_of_lt, fun p hp => ?_, fun s => ?_⟩
  · obtain ⟨hmaximum, hcurrent⟩ := current_after? hp
    refine ⟨hmaximum, hcurrent, fun n => ?_⟩
    rw [after?_concat, hp, Option.bind_some]
    refine ⟨advance?_eq_none_iff, fun q hq => ?_⟩
    rw [← hmaximum]
    exact advance?_bounds hq (after?_le hp)
  · obtain ⟨t, hrun, hgrows⟩ := run_tell (start m) ns s
    exact ⟨t, hrun, hgrows.history⟩

/-- Twice six bytes of ten are counted as ten. -/
theorem exact_six_and_six :
    [6, 6].sum < UInt32.size ∧ (start 10).after? [6, 6] = some ⟨10, 10⟩ ∧
      (10 : UInt32).toNat = min 10 [6, 6].sum := by
  obtain ⟨-, hexact, -⟩ := exact_unless_overrun 10 [6, 6]
  have hlt : [6, 6].sum < UInt32.size := by decide
  obtain ⟨p, hp, hcount⟩ := hexact hlt 2 (by decide)
  have hall : (start 10).after? [6, 6] = some ⟨10, 10⟩ := by decide
  obtain rfl := Option.some.inj (hp.symm.trans hall)
  exact ⟨hlt, hall, hcount⟩

/-- 2 ^ 32 bytes are counted as none, and two bytes behind the greatest count stop. -/
theorem inexact_at_overrun :
    ¬ Exact 10 [UInt32.size] ∧ (start 10).after? [UInt32.size] = some ⟨0, 10⟩ ∧
      ¬ Exact 0xFFFFFFFF [0xFFFFFFFF, 2] ∧
      (start 0xFFFFFFFF).after? [0xFFFFFFFF] = some ⟨0xFFFFFFFF, 0xFFFFFFFF⟩ ∧
      (start 0xFFFFFFFF).after? [0xFFFFFFFF, 2] = none := by
  have hnone : (start 10).after? [UInt32.size] = some ⟨0, 10⟩ := by decide
  have hstops : (start 0xFFFFFFFF).after? [0xFFFFFFFF, 2] = none := by decide
  refine ⟨fun h => ?_, hnone, fun h => ?_, by decide, hstops⟩
  · obtain ⟨p, hp, hcount⟩ := h 1 (by decide)
    obtain rfl := Option.some.inj (hp.symm.trans hnone)
    exact absurd hcount (by decide)
  · obtain ⟨p, hp, -⟩ := h 2 (by decide)
    exact absurd (hp.symm.trans hstops) (Option.some_ne_none p)

end Progress
end DiveLink
