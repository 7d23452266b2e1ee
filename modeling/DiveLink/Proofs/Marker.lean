import Mathlib.Order.Bounds.Basic
import DiveLink.Marker

/-!
# The walk between markers, one dive at a time

The walk back through a memory image goes over the bytes once, with the bytes behind its place on a
stack.  Here it is described by positions instead: in front of a bound, which is the end of the
image or the start of the dive found last, the next dive starts at the *greatest* position at which
a header stands, and ends at the *least* position behind a footer.

## Main definitions

* `MarkerLayout.starts data bound` — the positions in front of `bound` where a dive may start.
* `MarkerLayout.ends data s bound` — the positions up to `bound` where a dive from `s` may end.
* `MarkerLayout.walkBefore data bound` — the walk through what lies in front of `bound`.

## Main results

* `MarkerLayout.endWithin_cases` — the end that is found is the least one.
* `MarkerLayout.walkBefore_cases` — **one dive of the walk, and the walk in front of it.**
-/

namespace DiveLink
namespace MarkerLayout

variable (l : MarkerLayout) (data : Bytes)

/-! ### Where dives start and end -/

/-- Where a dive in front of `bound` may start: at a header that ends before the bound. -/
def starts (bound : Nat) : Set Nat :=
  {p | p + l.header.length < bound ∧ l.header <+: data.drop p}

/-- Where a dive from `s` may end: behind a footer that stands outside the skipped bytes and not
behind `bound`. -/
def ends (s bound : Nat) : Set Nat :=
  {e | e ≤ bound ∧ ∃ o, s + l.skip ≤ o ∧ e = o + l.footer.length ∧ l.footer <+: data.drop o}

/-- The dive from `s` to `e`. -/
def diveAt (s e : Nat) : Dive :=
  ⟨s, data.slice s (e - s), data.slice (s + l.timestampOffset) 4⟩

/-- The walk through what lies in front of `bound`, where the dive found last starts. -/
def walkBefore (bound : Nat) : Walk :=
  walkBack l l.header.length 0 (data.take bound).reverse (data.drop bound)

theorem walk_eq_walkBefore : l.walk data = l.walkBefore data data.length := by
  simp [walk, walkBefore]

variable {l data}

theorem mem_starts {bound p : Nat} :
    p ∈ l.starts data bound ↔ p + l.header.length < bound ∧ l.header <+: data.drop p := Iff.rfl

/-! ### The end that is found -/

theorem endFrom_cases (footer : Bytes) : ∀ (b : Bytes) (n : Nat),
    (endFrom footer n b = none ∧ ∀ k, k ≤ b.length → ¬ footer <+: b.drop k) ∨
      ∃ k, k ≤ b.length ∧ endFrom footer n b = some (n + k + footer.length) ∧
        footer <+: b.drop k ∧ ∀ j, j < k → ¬ footer <+: b.drop j := by
  intro b
  induction b with
  | nil =>
    intro n
    by_cases hf : footer = []
    · exact Or.inr ⟨0, le_rfl, by simp [endFrom, hf], by simp [hf], by simp⟩
    · exact Or.inl ⟨by simp [endFrom, hf], by simpa using hf⟩
  | cons x b ih =>
    intro n
    by_cases hf : footer <+: x :: b
    · exact Or.inr ⟨0, Nat.zero_le _, by simp [endFrom, hf], hf, by simp⟩
    · -- the footer is not at this byte, so it is looked for behind it
      have hnext : endFrom footer n (x :: b) = endFrom footer (n + 1) b := by simp [endFrom, hf]
      rw [hnext]
      rcases ih (n + 1) with ⟨hnone, hall⟩ | ⟨k, hk, hsome, hat, hleast⟩
      · refine Or.inl ⟨hnone, fun k hk => ?_⟩
        cases k with
        | zero => simpa using hf
        | succ k => simpa using hall k (by simpa using hk)
      · refine Or.inr ⟨k + 1, by simpa using hk, by rw [hsome]; congr 1; omega, by simpa using hat,
          fun j hj => ?_⟩
        cases j with
        | zero => simpa using hf
        | succ j => simpa using hleast j (by omega)

/-- A footer stands in the window of a dive where it stands in the image, unless the window ends
before the footer does. -/
theorem prefix_window_iff {footer : Bytes} {s room k : Nat} :
    footer <+: (((data.drop s).take room).drop k) ↔
      footer <+: data.drop (s + k) ∧ footer.length ≤ room - k := by
  rw [List.drop_take, List.prefix_take_iff, List.drop_drop]

/-- **The end that is found is the least one**, and none is found if there is none. -/
theorem endWithin_cases {s room : Nat} (hroom : s + room ≤ data.length) :
    (l.endWithin ((data.drop s).take room) = none ∧ l.ends data s (s + room) = ∅) ∨
      ∃ n, l.endWithin ((data.drop s).take room) = some n ∧
        IsLeast (l.ends data s (s + room)) (s + n) := by
  have hlen : ((data.drop s).take room).length = room := by simp; omega
  by_cases hskip : l.skip ≤ room
  · have hfrom : l.endWithin ((data.drop s).take room) =
        endFrom l.footer l.skip (((data.drop s).take room).drop l.skip) := by
      rw [endWithin, if_pos (by omega)]
    -- a footer at `o` is one at `o - s - l.skip` in the bytes that are searched
    have hat : ∀ o, s + l.skip ≤ o → (l.footer <+: data.drop o ∧ o + l.footer.length ≤ s + room ↔
        l.footer <+: ((((data.drop s).take room).drop l.skip).drop (o - s - l.skip)) ∧
          o - s - l.skip ≤ room - l.skip) := by
      intro o ho
      rw [List.drop_drop, prefix_window_iff, show s + (l.skip + (o - s - l.skip)) = o by omega,
        and_assoc]
      exact and_congr_right fun _ => by omega
    rw [hfrom]
    rcases endFrom_cases l.footer (((data.drop s).take room).drop l.skip) l.skip with
      ⟨hnone, hall⟩ | ⟨k, hk, hsome, hfound, hleast⟩
    · refine Or.inl ⟨hnone, Set.eq_empty_of_forall_notMem ?_⟩
      rintro e ⟨he, o, ho, rfl, hfoot⟩
      have := (hat o ho).1 ⟨hfoot, he⟩
      exact hall _ (by simp only [List.length_drop, hlen]; exact this.2) this.1
    · refine Or.inr ⟨_, hsome, ?_, ?_⟩
      · have hk' : k ≤ room - l.skip := by simpa [hlen] using hk
        have := (hat (s + l.skip + k) (by omega)).2
          ⟨by rwa [show s + l.skip + k - s - l.skip = k by omega], by omega⟩
        exact ⟨by omega, s + l.skip + k, by omega, by omega, this.1⟩
      · rintro e ⟨he, o, ho, rfl, hfoot⟩
        have hstands := ((hat o ho).1 ⟨hfoot, he⟩).1
        have : ¬ o - s - l.skip < k := fun h => hleast _ h hstands
        omega
  · refine Or.inl ⟨by rw [endWithin, if_neg (by omega)], Set.eq_empty_of_forall_notMem ?_⟩
    rintro e ⟨he, o, ho, rfl, -⟩
    omega

/-! ### One dive of the walk -/

/-- What the walk makes of the dive that starts at `s`, in front of `bound`. -/
def Steps (l : MarkerLayout) (data : Bytes) (bound s : Nat) (w : Walk) : Prop :=
  (l.ends data s bound = ∅ ∧ w = .broken (.noEndMarker s)) ∨
    ∃ e, IsLeast (l.ends data s bound) e ∧
      (((l.diveAt data s e).fingerprint.length < 4 ∧ w = .broken (.noTimestamp s)) ∨
        (4 ≤ (l.diveAt data s e).fingerprint.length ∧
          w = .cons (l.diveAt data s e) (l.walkBefore data s)))

/-- Where a header stands at the place that the walk has come to, its next step is the dive that
starts there. -/
theorem steps_walkBack {before after : Bytes} {x : UInt8} {room : Nat}
    (hdata : data = before.reverse ++ x :: after) (hroom : room ≤ after.length)
    (hheader : l.header <+: x :: after) :
    l.Steps data (before.length + (room + 1)) before.length
      (walkBack l 0 room (x :: before) after) := by
  have hhere : data.drop before.length = x :: after := by
    rw [hdata, List.drop_left' (by simp)]
  have hin : before.length + (room + 1) ≤ data.length := by
    rw [hdata, List.length_append, List.length_reverse, List.length_cons]
    omega
  have hfront : l.walkBefore data before.length =
      walkBack l l.header.length 0 before (x :: after) := by
    rw [walkBefore, hhere, hdata, List.take_left' (by simp), List.reverse_reverse]
  have hfp : data.slice (before.length + l.timestampOffset) 4 =
      Bytes.slice (x :: after) l.timestampOffset 4 := by
    rw [Bytes.slice, Bytes.slice, ← hhere, List.drop_drop]
  -- the step reads off the stack what `Steps` reads off the image
  rw [walkBack, if_pos (by simpa using hheader), ← hfront, ← hfp, ← hhere]
  rcases endWithin_cases (l := l) hin with ⟨hnone, hempty⟩ | ⟨n, hsome, hleast⟩
  · simp only [hnone]
    exact Or.inl ⟨hempty, rfl⟩
  · have hwhole : data.slice before.length n =
        ((data.drop before.length).take (room + 1)).take n := by
      have := hleast.1.1
      rw [Bytes.slice, List.take_take, Nat.min_eq_left (by omega)]
    have hdive : l.diveAt data before.length (before.length + n) =
        ⟨before.length, ((data.drop before.length).take (room + 1)).take n,
          data.slice (before.length + l.timestampOffset) 4⟩ := by
      rw [diveAt, Nat.add_sub_cancel_left, hwhole]
    simp only [hsome]
    refine Or.inr ⟨_, hleast, ?_⟩
    rw [hdive]
    by_cases hfour : (data.slice (before.length + l.timestampOffset) 4).length < 4
    · exact Or.inl ⟨hfour, if_pos hfour⟩
    · exact Or.inr ⟨by simpa using hfour, if_neg hfour⟩

/-- The walk from a place with the bytes `before` in front of it and `after` behind.  The header of
the dive found last keeps the walk from `jump` positions, which are those that `room` does not make
up for. -/
theorem walkBack_cases : ∀ (before : Bytes) (jump room : Nat) (after : Bytes),
    data = before.reverse ++ after → room ≤ after.length → l.header.length ≤ room + jump →
    (∀ p ∈ l.starts data (before.length + room), p + jump < before.length) →
    (l.starts data (before.length + room) = ∅ ∧ walkBack l jump room before after = .nothing) ∨
      ∃ s, IsGreatest (l.starts data (before.length + room)) s ∧
        l.Steps data (before.length + room) s (walkBack l jump room before after) := by
  -- the induction is on the bytes in front, and the bound stays where it is: what leaves `before`
  -- is added to `room`
  intro before
  induction before with
  | nil =>
    intro jump room after _ _ _ hlow
    refine Or.inl ⟨Set.eq_empty_of_forall_notMem fun p hp => ?_, by rw [walkBack]⟩
    exact absurd (hlow p hp) (by simp)
  | cons x before ih =>
    intro jump room after hdata hroom hjump hlow
    have hdata' : data = before.reverse ++ x :: after := by simpa using hdata
    have hbound : (x :: before).length + room = before.length + (room + 1) := by
      rw [List.length_cons]; omega
    rw [hbound, List.length_cons] at hlow
    rw [hbound]
    cases jump with
    | succ jump =>
      rw [walkBack]
      refine ih jump (room + 1) (x :: after) hdata' (by simpa using hroom) (by omega) ?_
      intro p hp
      have := hlow p hp
      omega
    | zero =>
      have hhere : data.drop before.length = x :: after := by
        rw [hdata', List.drop_left' (by simp)]
      by_cases hheader : l.header <+: x :: after
      · -- the greatest start: none of those behind this place was one
        refine Or.inr ⟨before.length, ⟨⟨by omega, by rwa [hhere]⟩, fun p hp => ?_⟩,
          steps_walkBack hdata' hroom hheader⟩
        have := hlow p hp
        omega
      · rw [walkBack, if_neg (by simpa using hheader)]
        refine ih 0 (room + 1) (x :: after) hdata' (by simpa using hroom) (by omega) ?_
        intro p hp
        have hp' := hlow p hp
        have : p ≠ before.length := by
          rintro rfl
          rw [mem_starts, hhere] at hp
          exact hheader hp.2
        omega

/-- **One dive of the walk, and the walk in front of it.** -/
theorem walkBefore_cases {bound : Nat} (hb : bound ≤ data.length) :
    (l.starts data bound = ∅ ∧ l.walkBefore data bound = .nothing) ∨
      ∃ s, IsGreatest (l.starts data bound) s ∧
        l.Steps data bound s (l.walkBefore data bound) := by
  have hlen : (data.take bound).reverse.length = bound := by simp [hb]
  have hdata : data = (data.take bound).reverse.reverse ++ data.drop bound := by simp
  have h := walkBack_cases (l := l) (data.take bound).reverse l.header.length 0 (data.drop bound)
    hdata (Nat.zero_le _) (by omega)
  rw [hlen] at h
  exact h fun p hp => hp.1

end MarkerLayout
end DiveLink
