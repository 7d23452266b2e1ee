import DiveLink.Proofs.Ring.Walk
import DiveLink.Proofs.Vyper2.Download

/-!
# The dives of a Vyper2 may be trusted

A Vyper2 may deliver any bytes at all.  Each dive that `foreach` hands out is nevertheless a piece
of the ring as it was delivered, in front of the dive that was handed out before it; no byte is left
out between them, and none is handed out twice.  Unless the caller has reason to stop, all of the
ring is handed out or an error tells that it makes no sense.

## Main definitions

* `Vyper2.Known` — the next dive is the one already known.
* `Vyper2.Stopped` — the caller stops behind some dives.
* `Vyper2.Taken` — what holds of the dives handed out at each call.
* `Vyper2.Sound` — and how that ends.

## Main results

* `Vyper2.sound_report` — the cut of a trusted walk is sound.
* `Vyper2.foreach_sound` — **a download fails and hands out nothing, or `foreach` is sound.**
-/

namespace DiveLink
namespace Vyper2

open Session

variable {h : RingHeader} {offset : Nat} {data : Bytes} {fingerprint : Option Bytes}
  {keep : List Dive → Bool} {w : Walk}

/-- The dive in front of the dives `ds` has the fingerprint that was set. -/
def Known (h : RingHeader) (offset : Nat) (data : Bytes) (fingerprint : Option Bytes)
    (ds : List Dive) : Prop :=
  ∃ d, h.Precedes offset data ds d ∧ fingerprint = some d.fingerprint

/-- The caller stops when the last of the dives `ds` is handed out. -/
def Stopped (keep : List Dive → Bool) (ds : List Dive) : Prop :=
  ds ≠ [] ∧ keep ds.reverse = false

/-- The dives `ds` were handed out so far, in this order, of a ring with the header `h` in which the
bytes in use are `data`. -/
structure Taken (h : RingHeader) (offset : Nat) (data : Bytes) (fingerprint : Option Bytes)
    (keep : List Dive → Bool) (ds : List Dive) : Prop where
  /-- At each call they are, put together, the end of the bytes in use. -/
  suffix : ∀ k, RingHeader.joined (ds.take k) <:+ data
  /-- Each dive lies in front of those before it: it is long enough, ends where it says, and is the
  one that the dive before it names. -/
  precedes : ∀ i, (hi : i < ds.length) → h.Precedes offset data (ds.take i) ds[i]
  inside : ∀ d ∈ ds, ringStart ≤ d.start ∧ d.start < ringEnd
  unknown : ∀ d ∈ ds, fingerprint ≠ some d.fingerprint
  kept : ∀ k, k < ds.length → ¬ Stopped keep (ds.take k)

/-- The dives `ds` are handed out, and `result` is what comes back. -/
structure Sound (h : RingHeader) (offset : Nat) (data : Bytes) (fingerprint : Option Bytes)
    (keep : List Dive → Bool) (ds : List Dive) (result : Except DeviceError (List Dive)) : Prop
    extends Taken h offset data fingerprint keep ds where
  /-- All is well if there is a reason to end here. -/
  success : RingHeader.joined ds = data ∨ Known h offset data fingerprint ds ∨ Stopped keep ds →
    result = .ok ds
  /-- Otherwise the data makes no sense. -/
  failure : RingHeader.joined ds ≠ data → ¬ Known h offset data fingerprint ds →
    ¬ Stopped keep ds → ∃ f, result = .error (.dataFormat f)

theorem isKnown_eq_true {d : Dive} :
    isKnown fingerprint d = true ↔ fingerprint = some d.fingerprint := by
  simp [isKnown]

/-! ### The cut of a walk -/

/-- As many dives of a trusted walk as the caller takes. -/
theorem taken_take (hw : h.Trusted offset data [] w) {n : Nat}
    (hreach : Walk.Reaches (isKnown fingerprint) keep w.dives n) :
    Taken h offset data fingerprint keep (w.dives.take n) := by
  have hprecedes : ∀ i, (hi : i < (w.dives.take n).length) →
      h.Precedes offset data ((w.dives.take n).take i) (w.dives.take n)[i] := by
    intro i hi
    rw [List.length_take] at hi
    rw [List.take_take, Nat.min_eq_left (by omega), List.getElem_take]
    exact hw.precedes i (by omega)
  refine ⟨RingHeader.suffix_of_precedes hprecedes, hprecedes, fun d hd => ?_, fun d hd => ?_,
    fun k hk => ?_⟩
  · obtain ⟨i, hi, rfl⟩ := List.getElem_of_mem hd
    exact (hprecedes i hi).inside
  · rw [Ne, ← isKnown_eq_true, hreach.unknown d hd]
    exact Bool.false_ne_true
  · rintro ⟨hne, hstop⟩
    rw [List.length_take] at hk
    rw [List.take_take, Nat.min_eq_left (by omega)] at hne hstop
    have hpos : 0 < k := Nat.pos_of_ne_zero fun h => hne (by rw [h, List.take_zero])
    exact absurd (hreach.kept k hpos (by omega)) (by simp [hstop])

/-- A walk is left only for a reason. -/
theorem reason_of_leaves (hw : h.Trusted offset data [] w) {n : Nat}
    (hreach : Walk.Reaches (isKnown fingerprint) keep w.dives n)
    (hleave : Walk.Leaves (isKnown fingerprint) keep w.dives n) :
    Known h offset data fingerprint (w.dives.take n) ∨ Stopped keep (w.dives.take n) := by
  obtain ⟨d, hd, hknown, -⟩ | ⟨hpos, hstop⟩ := hleave
  · obtain ⟨hn, rfl⟩ := List.getElem?_eq_some_iff.1 hd
    exact Or.inl ⟨w.dives[n], hw.precedes n hn, isKnown_eq_true.1 hknown⟩
  · refine Or.inr ⟨fun hnil => ?_, hstop⟩
    have hlen := hreach.le
    rw [← List.length_eq_zero_iff, List.length_take] at hnil
    omega

/-- The cut of a trusted walk is sound. -/
theorem sound_report (hw : h.Trusted offset data [] w) {σ δ : Type} (s : Session σ δ) :
    Sound h offset data fingerprint keep (w.cut (isKnown fingerprint) keep).dives
      (run (report (w.cut (isKnown fingerprint) keep)) s).1 := by
  rw [(run_report _ s).1]
  obtain ⟨n, hreach, ⟨hn, hcut, hkept⟩ | ⟨hcut, hleave⟩⟩ :=
    Walk.cut_cases (isKnown fingerprint) keep w
  · -- the walk is handed out whole, so its own end decides
    have htaken := taken_take hw hreach
    rw [hn, List.take_length] at htaken
    rw [hcut]
    cases hfault : w.fault with
    | none => exact ⟨htaken, fun _ => rfl, fun hne => absurd (hw.complete hfault) hne⟩
    | some f =>
      obtain ⟨hne, hnone⟩ := hw.stuck f hfault
      refine ⟨htaken, ?_, fun _ _ _ => ⟨f, rfl⟩⟩
      rintro (hall | ⟨d, hd, -⟩ | ⟨hne, hstop⟩)
      · exact absurd hall hne
      · exact absurd hd (hnone d)
      · rw [hkept (hn ▸ List.length_pos_iff.2 hne)] at hstop
        exact absurd hstop (by decide)
  · -- it is left on the way, and in good order
    rw [hcut]
    refine ⟨taken_take hw hreach, fun _ => rfl, fun _ hknown hstopped => ?_⟩
    exact absurd (reason_of_leaves hw hreach hleave) (by simp [hknown, hstopped])

/-! ### All of an operation -/

variable {σ : Type} [Link σ]

/-- **A download fails and hands out nothing, or `foreach` is sound.**  In the latter case the
version block, the header and the bytes of the ring in use were all delivered by the link, these
bytes span the ring as the header says, and what is handed out is judged by these alone. -/
theorem foreach_sound (keep : List Dive → Bool) (s : Session σ Vyper2) :
    (∃ e t, run download s = (.error e, t) ∧ run (foreach keep) s = (.error e, t) ∧
      t.handed = s.handed) ∨
    (∃ version h data t es ds, run download s = (.ok (version, h, data), t) ∧
      t.history = s.history ++ es ∧ Downloaded es version h data ∧ h.Spans data.length ∧
      (run (foreach keep) s).2.handed = s.handed ++ ds ∧
      Sound h (fingerprintOffset version) data s.device.fingerprint keep ds
        (run (foreach keep) s).1) := by
  obtain ⟨hhanded, hdevice⟩ := handed_download s
  have hforeach := run_foreach keep s
  rcases hrun : run download s with ⟨e | ⟨version, h, data⟩, t⟩
  · rw [hrun] at hhanded hforeach
    exact Or.inl ⟨e, t, rfl, hforeach, hhanded⟩
  · rw [hrun] at hhanded hdevice hforeach
    obtain ⟨es, hgrows, hdown⟩ := downloaded_of_run hrun
    refine Or.inr ⟨version, h, data, t, es, ((h.walk (fingerprintOffset version) data).cut
      (isKnown t.device.fingerprint) keep).dives, rfl, hgrows.history, hdown,
      hdown.length ▸ h.spans_used, ?_, ?_⟩
    · rw [hforeach, ← hhanded]
      exact handed_report _ t
    · rw [hforeach, ← hdevice]
      exact sound_report (RingHeader.trusted_walk h _ hdown.length) t

end Vyper2
end DiveLink
