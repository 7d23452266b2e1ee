import DiveLink.Proofs.Marker
import DiveLink.Proofs.Walk

/-!
# What is taken out of a memory image

`MarkerLayout.Greedy` says which dives of an image are handed out without saying how they are found:
each start is the greatest one in front of the dive before it, each end the least one behind its
start, and the dives are handed out in this order up to a known one, a stop of the caller or a start
without an end.  The walk does exactly this on every image, whatever bytes it holds.

## Main definitions

* `MarkerLayout.Greedy` — what is handed out of an image.

## Main results

* `MarkerLayout.Greedy.unique` — it is determined by the image, the cutoff and the caller.
* `MarkerLayout.walk_greedy` — **the walk hands out what the greedy rule says**, never reads behind
  the image, and hands out ranges one in front of the other.
-/

namespace DiveLink
namespace MarkerLayout

variable {l : MarkerLayout} {data : Bytes} {cutoff : Option Nat} {keep : List Dive → Bool}

/-! ### The greedy rule -/

/-- What is handed out of the part of an image in front of `bound`, behind the dives `seen`, latest
first. -/
inductive Greedy (l : MarkerLayout) (data : Bytes) (cutoff : Option Nat)
    (keep : List Dive → Bool) : Nat → List Dive → Walk → Prop
  /-- No dive starts there. -/
  | exhausted {bound seen} (hs : l.starts data bound = ∅) :
      Greedy l data cutoff keep bound seen ⟨[], none⟩
  /-- The last dive that starts there has no end. -/
  | unended {bound seen s} (hs : IsGreatest (l.starts data bound) s)
      (he : l.ends data s bound = ∅) :
      Greedy l data cutoff keep bound seen ⟨[], some (.noEndMarker s)⟩
  /-- It is not newer than the cutoff. -/
  | old {bound seen s e t} (hs : IsGreatest (l.starts data bound) s)
      (he : IsLeast (l.ends data s bound) e) (hcut : cutoff = some t)
      (hold : (l.diveAt data s e).timestamp ≤ t) :
      Greedy l data cutoff keep bound seen ⟨[], none⟩
  /-- It is handed out, and the caller stops. -/
  | stopped {bound seen s e} (hs : IsGreatest (l.starts data bound) s)
      (he : IsLeast (l.ends data s bound) e)
      (hnew : ∀ t, cutoff = some t → t < (l.diveAt data s e).timestamp)
      (hkeep : keep (l.diveAt data s e :: seen) = false) :
      Greedy l data cutoff keep bound seen ⟨[l.diveAt data s e], none⟩
  /-- It is handed out, and so is what lies in front of it. -/
  | reported {bound seen s e ds fault} (hs : IsGreatest (l.starts data bound) s)
      (he : IsLeast (l.ends data s bound) e)
      (hnew : ∀ t, cutoff = some t → t < (l.diveAt data s e).timestamp)
      (hkeep : keep (l.diveAt data s e :: seen) = true)
      (hrest : Greedy l data cutoff keep s (l.diveAt data s e :: seen) ⟨ds, fault⟩) :
      Greedy l data cutoff keep bound seen ⟨l.diveAt data s e :: ds, fault⟩

theorem isOld_eq_true_iff {d : Dive} :
    isOld cutoff d = true ↔ ∃ t, cutoff = some t ∧ d.timestamp ≤ t := by
  cases cutoff <;> simp [isOld]

theorem isOld_eq_false_iff {d : Dive} :
    isOld cutoff d = false ↔ ∀ t, cutoff = some t → t < d.timestamp := by
  cases cutoff <;> simp [isOld]

/-- What the rule makes of the dive that is met next. -/
theorem Greedy.of_dive {bound s e : Nat} {seen : List Dive} {w : Walk}
    (hs : IsGreatest (l.starts data bound) s) (he : IsLeast (l.ends data s bound) e)
    (h : Greedy l data cutoff keep bound seen w) :
    (isOld cutoff (l.diveAt data s e) = true ∧ w = ⟨[], none⟩) ∨
      (isOld cutoff (l.diveAt data s e) = false ∧
        ((keep (l.diveAt data s e :: seen) = false ∧ w = ⟨[l.diveAt data s e], none⟩) ∨
          (keep (l.diveAt data s e :: seen) = true ∧ ∃ ds fault,
            Greedy l data cutoff keep s (l.diveAt data s e :: seen) ⟨ds, fault⟩ ∧
              w = ⟨l.diveAt data s e :: ds, fault⟩))) := by
  cases h with
  | exhausted hs' => exact absurd hs' hs.nonempty.ne_empty
  | unended hs' he' =>
    cases hs.unique hs'
    exact absurd he' he.nonempty.ne_empty
  | old hs' he' hcut hold =>
    cases hs.unique hs'
    cases he.unique he'
    exact Or.inl ⟨isOld_eq_true_iff.2 ⟨_, hcut, hold⟩, rfl⟩
  | stopped hs' he' hnew hstop =>
    cases hs.unique hs'
    cases he.unique he'
    exact Or.inr ⟨isOld_eq_false_iff.2 hnew, Or.inl ⟨hstop, rfl⟩⟩
  | reported hs' he' hnew hkeep hrest =>
    cases hs.unique hs'
    cases he.unique he'
    exact Or.inr ⟨isOld_eq_false_iff.2 hnew, Or.inr ⟨hkeep, _, _, hrest, rfl⟩⟩

/-- **The greedy rule leaves no choice.** -/
theorem Greedy.unique {bound : Nat} {seen : List Dive} {w w' : Walk}
    (h : Greedy l data cutoff keep bound seen w) (h' : Greedy l data cutoff keep bound seen w') :
    w = w' := by
  have hbool : ∀ {b : Bool}, b = true → b ≠ false := fun h h' => by cases h.symm.trans h'
  -- two derivations agree on the start and on the end, and then on what is made of the dive
  induction h generalizing w' with
  | exhausted hs =>
    cases h' with
    | exhausted => rfl
    | unended hs' | old hs' | stopped hs' | reported hs' =>
      exact absurd hs hs'.nonempty.ne_empty
  | unended hs he =>
    cases h' with
    | exhausted hs' => exact absurd hs' hs.nonempty.ne_empty
    | unended hs' _ => rw [hs.unique hs']
    | old hs' he' | stopped hs' he' | reported hs' he' =>
      cases hs.unique hs'
      exact absurd he he'.nonempty.ne_empty
  | old hs he hcut hold =>
    obtain ⟨-, rfl⟩ | ⟨hnew, -⟩ := h'.of_dive hs he
    · rfl
    · exact absurd hnew (hbool (isOld_eq_true_iff.2 ⟨_, hcut, hold⟩))
  | stopped hs he hnew hstop =>
    obtain ⟨hold, -⟩ | ⟨-, ⟨-, rfl⟩ | ⟨hkeep, -⟩⟩ := h'.of_dive hs he
    · exact absurd (isOld_eq_false_iff.2 hnew) (hbool hold)
    · rfl
    · exact absurd hstop (hbool hkeep)
  | reported hs he hnew hkeep _ ih =>
    obtain ⟨hold, -⟩ | ⟨-, ⟨hstop, -⟩ | ⟨-, ds, fault, hrest, rfl⟩⟩ := h'.of_dive hs he
    · exact absurd (isOld_eq_false_iff.2 hnew) (hbool hold)
    · exact absurd hstop (hbool hkeep)
    · cases ih hrest
      rfl

/-! ### The walk follows it -/

/-- The bytes from which a dive's timestamp is read lie in front of its end. -/
theorem length_fingerprint {s e bound : Nat} (hl : l.timestampOffset + 4 ≤ l.skip + l.footer.length)
    (hb : bound ≤ data.length) (he : e ∈ l.ends data s bound) :
    (l.diveAt data s e).fingerprint.length = 4 := by
  obtain ⟨hle, o, ho, rfl, -⟩ := he
  rw [diveAt, Bytes.length_slice]
  omega

/-- The steps of the walk, where a dive that has an end has a timestamp. -/
theorem walkBefore_steps {bound : Nat} (hl : l.timestampOffset + 4 ≤ l.skip + l.footer.length)
    (hb : bound ≤ data.length) :
    (l.starts data bound = ∅ ∧ l.walkBefore data bound = .nothing) ∨
      ∃ s, IsGreatest (l.starts data bound) s ∧
        ((l.ends data s bound = ∅ ∧ l.walkBefore data bound = .broken (.noEndMarker s)) ∨
          ∃ e, IsLeast (l.ends data s bound) e ∧
            l.walkBefore data bound = .cons (l.diveAt data s e) (l.walkBefore data s)) := by
  -- the timestamp of a dive that has an end is never missing: it lies in front of the least end
  rcases walkBefore_cases hb with hnone | ⟨s, hs, hbroken | ⟨e, he, ⟨hshort, -⟩ | ⟨-, hw⟩⟩⟩
  · exact Or.inl hnone
  · exact Or.inr ⟨s, hs, Or.inl hbroken⟩
  · exact absurd (length_fingerprint hl hb he.1) (by omega)
  · exact Or.inr ⟨s, hs, Or.inr ⟨e, he, hw⟩⟩

/-- What is handed out in front of a bound follows the greedy rule. -/
theorem greedy_cutAfter (hl : l.timestampOffset + 4 ≤ l.skip + l.footer.length) :
    ∀ bound, bound ≤ data.length → ∀ seen, Greedy l data cutoff keep bound seen
      (Walk.cutAfter (isOld cutoff) keep (l.walkBefore data bound).fault seen
        (l.walkBefore data bound).dives) := by
  intro bound
  induction bound using Nat.strong_induction_on with
  | _ bound ih =>
    intro hb seen
    rcases walkBefore_steps hl hb with ⟨hs, hw⟩ | ⟨s, hs, ⟨he, hw⟩ | ⟨e, he, hw⟩⟩ <;> rw [hw]
    · exact .exhausted hs
    · exact .unended hs he
    · -- the walk goes on in front of the start, and there the induction hypothesis holds
      have hlt : s < bound := by have := hs.1.1; omega
      rw [Walk.cons_dives, Walk.cons_fault, Walk.cutAfter]
      split
      · next hold =>
        obtain ⟨t, hcut, ht⟩ := isOld_eq_true_iff.1 hold
        exact .old hs he hcut ht
      · next hnew =>
        rw [Bool.not_eq_true] at hnew
        split
        · next hkeep =>
          exact .reported hs he (isOld_eq_false_iff.1 hnew) hkeep (ih s hlt (by omega) _)
        · next hstop =>
          rw [Bool.not_eq_true] at hstop
          exact .stopped hs he (isOld_eq_false_iff.1 hnew) hstop

/-! ### Where the dives lie -/

/-- The dives in front of a bound, one in front of the other, and the fault in front of all. -/
theorem walkBefore_ranges (hl : l.timestampOffset + 4 ≤ l.skip + l.footer.length) :
    ∀ bound, bound ≤ data.length →
      (∀ d ∈ (l.walkBefore data bound).dives, 0 < d.bytes.length ∧
        d.start + d.bytes.length ≤ bound ∧ d.bytes = data.slice d.start d.bytes.length) ∧
      (l.walkBefore data bound).dives.Pairwise
        (fun newer older => older.start + older.bytes.length ≤ newer.start) ∧
      (∀ f, (l.walkBefore data bound).fault = some f → ∃ s, f = .noEndMarker s ∧ s < bound ∧
        ∀ d ∈ (l.walkBefore data bound).dives, s < d.start) := by
  intro bound
  induction bound using Nat.strong_induction_on with
  | _ bound ih =>
    intro hb
    rcases walkBefore_steps hl hb with ⟨-, hw⟩ | ⟨s, hs, ⟨-, hw⟩ | ⟨e, he, hw⟩⟩ <;> rw [hw]
    · exact ⟨by simp [Walk.nothing], by simp [Walk.nothing], by simp [Walk.nothing]⟩
    · have hlt : s < bound := by have := hs.1.1; omega
      exact ⟨by simp [Walk.broken], by simp [Walk.broken],
        fun f hf => ⟨s, by simpa [Walk.broken] using hf.symm, hlt, by simp [Walk.broken]⟩⟩
    · -- the newest dive ends at most at the bound, and all others lie in front of its start
      have hlt : s < bound := by have := hs.1.1; omega
      obtain ⟨hin, hpair, hfault⟩ := ih s hlt (by omega)
      have hend : s + l.skip + l.footer.length ≤ e ∧ e ≤ bound := by
        obtain ⟨hle, o, ho, rfl, -⟩ := he.1
        exact ⟨by omega, hle⟩
      have hlen : (l.diveAt data s e).bytes.length = e - s := by
        rw [diveAt, Bytes.length_slice]; omega
      have hstart : (l.diveAt data s e).start = s := rfl
      refine ⟨?_, ?_, ?_⟩
      · intro d hd
        rw [Walk.cons_dives, List.mem_cons] at hd
        rcases hd with rfl | hd
        · rw [hlen, hstart]
          exact ⟨by omega, by omega, rfl⟩
        · obtain ⟨hpos, hle, hbytes⟩ := hin d hd
          exact ⟨hpos, by omega, hbytes⟩
      · rw [Walk.cons_dives, List.pairwise_cons]
        exact ⟨fun d hd => (hin d hd).2.1, hpair⟩
      · -- the fault lies in front of the older dives, so in front of this one as well
        intro f hf
        obtain ⟨p, rfl, hp, hall⟩ := hfault f hf
        refine ⟨p, rfl, by omega, fun d hd => ?_⟩
        rw [Walk.cons_dives, List.mem_cons] at hd
        rcases hd with rfl | hd
        · exact hp
        · exact hall d hd

/-! ### All of an image -/

/-- **The walk hands out what the greedy rule says**, on every image, for every cutoff and every
caller, where a timestamp lies within the bytes in front of the least end of its dive.

The timestamp is then never read behind the image (`noTimestamp`).  The ranges handed out are not
empty, lie in the image and one in front of the other; a fault is a start without an end in front of
all of them; and a cutoff or a stop only shortens what is handed out. -/
theorem walk_greedy (l : MarkerLayout) (data : Bytes) (cutoff : Option Nat)
    (keep : List Dive → Bool) (hl : l.timestampOffset + 4 ≤ l.skip + l.footer.length) :
    let w := (l.walk data).cut (isOld cutoff) keep
    (∀ w', Greedy l data cutoff keep data.length [] w' ↔ w' = w) ∧
      (∀ s, w.fault ≠ some (.noTimestamp s)) ∧
      (∀ d ∈ w.dives, 0 < d.bytes.length ∧ d.start + d.bytes.length ≤ data.length ∧
        d.bytes = data.slice d.start d.bytes.length) ∧
      w.dives.Pairwise (fun newer older => older.start + older.bytes.length ≤ newer.start) ∧
      (∀ f, w.fault = some f → ∃ s, f = .noEndMarker s ∧ ∀ d ∈ w.dives, s < d.start) ∧
      w.dives <+: (l.walk data).dives := by
  intro w
  -- the walk over the image is the one in front of the end of its bytes
  have hgreedy : Greedy l data cutoff keep data.length [] w := by
    have h : Greedy l data cutoff keep data.length [] _ :=
      greedy_cutAfter hl data.length (Nat.le_refl _) []
    rwa [← walk_eq_walkBefore] at h
  obtain ⟨hin, hpair, hfault⟩ := walkBefore_ranges hl data.length (Nat.le_refl data.length)
  rw [← walk_eq_walkBefore] at hin hpair hfault
  -- a cut leaves a first part of the dives, and a fault only if it leaves all
  have hfirst : w.dives <+: (l.walk data).dives ∧
      (w.fault = none ∨ w = l.walk data) := by
    obtain ⟨n, -, ⟨-, hcut, -⟩ | ⟨hcut, -⟩⟩ := Walk.cut_cases (isOld cutoff) keep (l.walk data)
    · rw [show w = l.walk data from hcut]
      exact ⟨List.prefix_rfl, Or.inr rfl⟩
    · rw [show w = _ from hcut]
      exact ⟨List.take_prefix _ _, Or.inl rfl⟩
  have hlast : ∀ f, w.fault = some f → ∃ s, f = .noEndMarker s ∧ ∀ d ∈ w.dives, s < d.start := by
    intro f hf
    rcases hfirst.2 with hnone | hwhole
    · rw [hnone] at hf
      exact absurd hf (by simp)
    · rw [hwhole] at hf ⊢
      obtain ⟨s, hs, -, hall⟩ := hfault f hf
      exact ⟨s, hs, hall⟩
  refine ⟨fun w' => ⟨fun h => h.unique hgreedy, fun h => h ▸ hgreedy⟩, ?_,
    fun d hd => hin d (hfirst.1.subset hd), hpair.sublist hfirst.1.sublist, hlast, hfirst.1⟩
  intro s hs
  obtain ⟨p, hp, -⟩ := hlast _ hs
  exact absurd hp (by simp)

/-- Of two dives back to back, the one that is newer than the cutoff is handed out. -/
theorem walk_greedy_two_dives :
    let l : MarkerLayout := ⟨[0, 0, 0, 0], [0xFF, 0xFF], 6, 10⟩
    let data : Bytes :=
      [0, 0, 0, 0, 0x3C, 1, 50, 0, 0, 0, 17, 17, 17, 17, 0xFF, 0xFF] ++
        [0, 0, 0, 0, 0x3C, 1, 100, 0, 0, 0, 17, 17, 17, 17, 0xFF, 0xFF]
    l.timestampOffset + 4 ≤ l.skip + l.footer.length ∧
      Greedy l data (some 60) (fun _ => true) 32 [] ⟨[l.diveAt data 16 32], none⟩ :=
  ⟨by decide, ((walk_greedy _ _ _ _ (by decide)).1 _).2 (by decide +kernel)⟩

end MarkerLayout
end DiveLink
