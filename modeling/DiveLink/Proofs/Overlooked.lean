import DiveLink.Proofs.Greedy
import DiveLink.SensusPro

/-!
# Headers that start no dive

A header that stands in a memory image outside all dives, with no end behind it, is a dive of which
the rest is missing.  The walk rejects an image in which it meets one.  But there are two places at
which it does not look for a header: the last one that the image has room for, and the one directly
in front of a dive that it has found.  A header there is passed over, and the walk ends in good
order.

## Main definitions

* `MarkerLayout.Touches` — a header that shares a byte with a dive.
* `MarkerLayout.Hidden` — a header at one of the two places.

## Main results

* `MarkerLayout.walkBefore_fault_eq_none_iff` — what lies in front of a bound ends in good order
  exactly if each header there touches a dive or is hidden.
* `SensusPro.divesIn_rejects` — **an image is rejected exactly for a header without an end that is
  not hidden.**
* `SensusPro.divesIn_truncated` — a hidden header, as it is left of a dive that was cut off.
-/

namespace DiveLink
namespace MarkerLayout

variable (l : MarkerLayout) {data : Bytes}

/-- The header at `p` shares a byte with one of the dives. -/
def Touches (ds : List Dive) (p : Nat) : Prop :=
  ∃ d ∈ ds, d.start < p + l.header.length ∧ p < d.start + d.bytes.length

/-- The header at `p` ends where the walk begins, or where one of the dives does. -/
def Hidden (bound : Nat) (ds : List Dive) (p : Nat) : Prop :=
  p + l.header.length = bound ∨ ∃ d ∈ ds, p + l.header.length = d.start

variable {l}

/-- A header in front of the last dive touches the dives in front of that one, if any. -/
theorem touches_cons_of_le {d : Dive} {ds : List Dive} {p : Nat}
    (h : p + l.header.length ≤ d.start) : l.Touches (d :: ds) p ↔ l.Touches ds p := by
  constructor
  · rintro ⟨d', hd', hstart, hend⟩
    rcases List.mem_cons.1 hd' with rfl | hd'
    · exact absurd hstart (Nat.not_lt.2 h)
    · exact ⟨d', hd', hstart, hend⟩
  · rintro ⟨d', hd', hin⟩
    exact ⟨d', List.mem_cons_of_mem d hd', hin⟩

/-- A header in front of the last dive is hidden by it as by a bound. -/
theorem hidden_cons_of_le {bound : Nat} {d : Dive} {ds : List Dive} {p : Nat}
    (h : p + l.header.length ≤ d.start) (hd : d.start < bound) :
    l.Hidden bound (d :: ds) p ↔ l.Hidden d.start ds p := by
  have hbound : p + l.header.length ≠ bound := by omega
  constructor
  · rintro (hp | ⟨d', hd', hp⟩)
    · exact absurd hp hbound
    · rcases List.mem_cons.1 hd' with rfl | hd'
      · exact .inl hp
      · exact .inr ⟨d', hd', hp⟩
  · rintro (hp | ⟨d', hd', hp⟩)
    · exact .inr ⟨d, List.mem_cons_self, hp⟩
    · exact .inr ⟨d', List.mem_cons_of_mem d hd', hp⟩

/-- **What lies in front of a bound ends in good order exactly if each header there touches a dive
or is hidden.** -/
theorem walkBefore_fault_eq_none_iff
    (hl : l.timestampOffset + 4 ≤ l.skip + l.footer.length) :
    ∀ bound, bound ≤ data.length → ((l.walkBefore data bound).fault = none ↔
      ∀ p, l.header <+: data.drop p → p + l.header.length ≤ bound →
        l.Touches (l.walkBefore data bound).dives p ∨
          l.Hidden bound (l.walkBefore data bound).dives p) := by
  intro bound
  induction bound using Nat.strong_induction_on with
  | _ bound ih =>
    intro hb
    rcases walkBefore_steps hl hb with ⟨hs, hw⟩ | ⟨s, hs, ⟨he, hw⟩ | ⟨e, he, hw⟩⟩ <;> rw [hw]
    · -- no header ends in front of the bound
      refine iff_of_true rfl fun p hp hle => .inr (.inl ?_)
      by_contra hne
      have hmem : p ∈ l.starts data bound := ⟨by omega, hp⟩
      rw [hs] at hmem
      exact hmem
    · -- the last one is neither hidden nor touched by a dive, for there is none
      refine iff_of_false (by simp [Walk.broken]) fun hall => ?_
      have hlt := hs.1.1
      rcases hall s hs.1.2 (Nat.le_of_lt hlt) with ⟨d, hd, -⟩ | hbound | ⟨d, hd, -⟩
      · exact absurd hd (by simp [Walk.broken])
      · omega
      · exact absurd hd (by simp [Walk.broken])
    · have hlt : s < bound := by have := hs.1.1; omega
      have hlen : s < e := by obtain ⟨-, o, ho, rfl, -⟩ := he.1; omega
      have hdive : (l.diveAt data s e).start = s ∧ (l.diveAt data s e).bytes.length = e - s := by
        refine ⟨rfl, ?_⟩
        have := he.1.1
        rw [diveAt, Bytes.length_slice]
        omega
      rw [Walk.cons_fault, Walk.cons_dives, ih s hlt (by omega)]
      refine forall_congr' fun p => forall_congr' fun hp => ?_
      by_cases hfront : p + l.header.length ≤ s
      · rw [touches_cons_of_le hfront, hidden_cons_of_le hfront hlt, hdive.1]
        exact ⟨fun h _ => h hfront, fun h _ => h (by omega)⟩
      · -- a header that does not end in front of the dive touches it, unless the bound hides it
        refine iff_of_true (fun h => absurd h hfront) fun hle => ?_
        by_cases hbound : p + l.header.length = bound
        · exact .inr (.inl hbound)
        · have hps : p ≤ s := hs.2 ⟨by omega, hp⟩
          exact .inl ⟨_, List.mem_cons_self, by omega, by omega⟩

end MarkerLayout

namespace SensusPro

open MarkerLayout

/-- **An image is rejected exactly for a header without an end that is not hidden.**  Where the walk
ends in good order, each header shares a byte with a dive that was handed out, or it stands at the
end of the image or directly in front of such a dive; and where each header does, the walk ends in
good order.  Otherwise it ends at a header without an end, in front of all dives. -/
theorem divesIn_rejects (image : Bytes) :
    let w := divesIn none (fun _ => true) image
    (w.fault = none ↔ ∀ p, [0x00, 0x00, 0x00, 0x00] <+: image.drop p →
      (∃ d ∈ w.dives, d.start < p + 4 ∧ p < d.start + d.bytes.length) ∨
        p + 4 = image.length ∨ ∃ d ∈ w.dives, p + 4 = d.start) ∧
    ∀ f, w.fault = some f → ∃ s, f = .noEndMarker s ∧ ∀ d ∈ w.dives, s < d.start := by
  intro w
  have hw : w = layout.walkBefore image image.length := by
    rw [← walk_eq_walkBefore]
    exact Walk.cut_none _
  have hl : layout.timestampOffset + 4 ≤ layout.skip + layout.footer.length := by decide
  have hin : ∀ p, [0x00, 0x00, 0x00, 0x00] <+: image.drop p → p + 4 ≤ image.length := by
    intro p hp
    have := hp.length_le
    rw [List.length_drop] at this
    simp only [List.length_cons, List.length_nil] at this
    omega
  rw [hw]
  refine ⟨(walkBefore_fault_eq_none_iff hl _ (Nat.le_refl _)).trans ?_, fun f hf => ?_⟩
  · exact forall_congr' fun p => forall_congr' fun hp => forall_prop_of_true (hin p hp)
  · obtain ⟨s, rfl, -, hall⟩ := (walkBefore_ranges hl _ (Nat.le_refl _)).2.2 f hf
    exact ⟨s, rfl, hall⟩

/-- Of the newest dive only the header is left, at the end of the image in one case, and directly in
front of another dive in the other.  Both images end in good order, and nothing tells of it. -/
theorem divesIn_truncated :
    let dive : Bytes := [0, 0, 0, 0, 0x3C, 1, 100, 0, 0, 0, 17, 17, 17, 17, 0xFF, 0xFF]
    let header : Bytes := [0, 0, 0, 0]
    (divesIn none (fun _ => true) (dive ++ header) = ⟨[⟨0, dive, [100, 0, 0, 0]⟩], none⟩ ∧
      header <+: (dive ++ header).drop 16 ∧ 0 + dive.length ≤ 16) ∧
    (divesIn none (fun _ => true) (header ++ dive) = ⟨[⟨4, dive, [100, 0, 0, 0]⟩], none⟩ ∧
      header <+: (header ++ dive).drop 0 ∧ 0 + header.length ≤ 4) := by
  decide +kernel

end SensusPro
end DiveLink
