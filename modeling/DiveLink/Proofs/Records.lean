import Mathlib.Data.List.Induction
import DiveLink.Proofs.Greedy
import DiveLink.SensusPro

/-!
# Records laid out in memory

A Sensus Pro stores a dive as a record: a header of zeros, two bytes, the timestamp, a payload and a
footer.  Extraction undoes laying such records out, with any bytes between them, as long as nothing
but a record looks like one: four zeros stand at the starts of records only, or run into one, and no
footer stands in a record before its own.

## Main definitions

* `SensusPro.Record`, `Record.toBytes` — a record, and its bytes.
* `SensusPro.image rs tail` — records in memory, each behind some filler, and what follows them.
* `SensusPro.placed n rs` — the records as dives of that image, oldest first.

## Main results

* `SensusPro.walk_image` — the walk through the image finds the records, newest first.
* `SensusPro.divesIn_image` — **what is handed out of the image**, for every cutoff and caller.
-/

namespace DiveLink
namespace SensusPro

/-! ### Records -/

/-- A dive as it is stored, without its markers. -/
structure Record where
  /-- The two bytes between header and timestamp. -/
  lead : UInt8 × UInt8
  timestamp : UInt32
  payload : Bytes
  deriving DecidableEq, Repr, Inhabited

/-- A record between its markers. -/
def Record.toBytes (r : Record) : Bytes :=
  layout.header ++ [r.lead.1, r.lead.2] ++ Bytes.ofLE32 r.timestamp.toNat ++ r.payload ++
    layout.footer

/-- The dive that a record at position `n` is. -/
def Record.dive (r : Record) (n : Nat) : Dive :=
  ⟨n, r.toBytes, Bytes.ofLE32 r.timestamp.toNat⟩

@[simp] theorem Record.dive_start (r : Record) (n : Nat) : (r.dive n).start = n := rfl

@[simp] theorem Record.dive_bytes (r : Record) (n : Nat) : (r.dive n).bytes = r.toBytes := rfl

@[simp] theorem Record.timestamp_dive (r : Record) (n : Nat) :
    (r.dive n).timestamp = r.timestamp.toNat := by
  have h := Bytes.le32_ofLE32 r.timestamp.toNat r.timestamp.toNat_lt []
  rw [List.append_nil] at h
  exact h

/-- Memory that holds records, oldest first, each behind some filler; `tail` follows the last. -/
def image : List (Bytes × Record) → Bytes → Bytes
  | [], tail => tail
  | (filler, r) :: rs, tail => filler ++ r.toBytes ++ image rs tail

/-- The records of such a memory as dives, oldest first, from position `n` on. -/
def placed : Nat → List (Bytes × Record) → List Dive
  | _, [] => []
  | n, (filler, r) :: rs =>
    r.dive (n + filler.length) :: placed (n + filler.length + r.toBytes.length) rs

@[simp] theorem length_placed (n : Nat) (rs : List (Bytes × Record)) :
    (placed n rs).length = rs.length := by
  induction rs generalizing n with
  | nil => rfl
  | cons x rs ih => simp [placed, ih]

theorem timestamp_placed : ∀ (rs : List (Bytes × Record)) (n i : Nat) (hi : i < rs.length)
    (hi' : i < (placed n rs).length), (placed n rs)[i].timestamp = rs[i].2.timestamp.toNat := by
  intro rs
  induction rs with
  | nil => intro n i hi; simp at hi
  | cons x rs ih =>
    intro n i hi hi'
    cases i with
    | zero => simp [placed]
    | succ i => simpa [placed] using ih _ i (by simpa using hi) (by simpa using hi)

/-! ### A record in memory -/

/-- At the start of `d` a record stands in memory, of which `d` is the dive. -/
structure Stands (data : Bytes) (d : Dive) : Prop where
  header : layout.header <+: data.drop d.start
  footer : layout.footer <+: data.drop (d.start + d.bytes.length - 2)
  long : 12 ≤ d.bytes.length
  inside : d.start + d.bytes.length ≤ data.length
  bytes : data.slice d.start d.bytes.length = d.bytes
  fingerprint : data.slice (d.start + 6) 4 = d.fingerprint

theorem Record.length_toBytes (r : Record) : r.toBytes.length = r.payload.length + 12 := by
  simp [Record.toBytes, layout]; omega

theorem stands_of_append (pre post : Bytes) (r : Record) :
    Stands (pre ++ r.toBytes ++ post) (r.dive pre.length) where
  header := by
    rw [Record.dive_start, List.append_assoc, List.drop_left]
    simp [Record.toBytes]
  footer := by
    -- the footer is the last two bytes of the record
    have hsplit : r.toBytes = r.toBytes.take (r.toBytes.length - 2) ++ layout.footer := by
      have hlast : r.toBytes.drop (r.toBytes.length - 2) = layout.footer := by
        rw [Record.length_toBytes, Record.toBytes]
        exact List.drop_left' (by simp [layout]; omega)
      rw [← hlast, List.take_append_drop]
    have hlen : (pre ++ r.toBytes.take (r.toBytes.length - 2)).length =
        pre.length + r.toBytes.length - 2 := by
      have := r.length_toBytes
      rw [List.length_append, List.length_take]
      omega
    -- in front of the footer stand all bytes but the last two
    have hdata : pre ++ r.toBytes ++ post =
        pre ++ r.toBytes.take (r.toBytes.length - 2) ++ (layout.footer ++ post) := by
      conv_lhs => rw [hsplit]
      simp
    rw [Record.dive_start, Record.dive_bytes, hdata, List.drop_left' hlen]
    exact List.prefix_append _ _
  long := by rw [Record.dive_bytes, Record.length_toBytes]; omega
  inside := by simp
  bytes := by
    rw [Record.dive_start, Record.dive_bytes, Bytes.slice, List.append_assoc, List.drop_left,
      List.take_left]
  fingerprint := by
    rw [Record.dive_start, Bytes.slice, ← List.drop_drop, List.append_assoc, List.drop_left]
    rfl

/-- The records of an image stand in it, one behind the other. -/
theorem placed_spec : ∀ (rs : List (Bytes × Record)) (pre tail : Bytes),
    (∀ d ∈ placed pre.length rs, Stands (pre ++ image rs tail) d ∧ pre.length ≤ d.start) ∧
      (placed pre.length rs).Pairwise (fun d d' => d.start + d.bytes.length ≤ d'.start) := by
  intro rs
  induction rs with
  | nil => intro pre tail; simp [placed]
  | cons x rs ih =>
    -- the first record stands behind what came before it, the others behind the first
    intro pre tail
    obtain ⟨filler, r⟩ := x
    have hlen : pre.length + filler.length + r.toBytes.length =
        (pre ++ filler ++ r.toBytes).length := by simp; omega
    have hdata : pre ++ image ((filler, r) :: rs) tail =
        pre ++ filler ++ r.toBytes ++ image rs tail := by simp [image]
    obtain ⟨hstands, hpair⟩ := ih (pre ++ filler ++ r.toBytes) tail
    rw [placed, hlen, hdata]
    refine ⟨?_, ?_⟩
    · intro d hd
      rw [List.mem_cons] at hd
      rcases hd with rfl | hd
      · have h := stands_of_append (pre ++ filler) (image rs tail) r
        rw [List.length_append] at h
        exact ⟨h, by simp⟩
      · obtain ⟨h, hle⟩ := hstands d hd
        exact ⟨h, by simp at hle; omega⟩
    · -- the others begin behind the first, so it ends in front of each of them
      rw [List.pairwise_cons]
      refine ⟨fun d hd => ?_, hpair⟩
      have := (hstands d hd).2
      simp at this ⊢
      omega

/-! ### The walk -/

/-- Nothing but a record looks like one: four zeros stand at the start of a dive of `ds` or within
the four bytes in front of it, and the first footer behind the skipped bytes of a dive is its
own. -/
structure Unambiguous (data : Bytes) (ds : List Dive) : Prop where
  header : ∀ p, layout.header <+: data.drop p → ∃ d ∈ ds, p ≤ d.start ∧ d.start ≤ p + 4
  footer : ∀ d ∈ ds, ∀ o, d.start + 10 ≤ o → layout.footer <+: data.drop o →
    d.start + d.bytes.length ≤ o + 2

/-- In front of a bound the walk finds the records that stand there.  The induction takes the newest
record off; its start is the bound for the others. -/
theorem walkBefore_records {data : Bytes} (ds : List Dive) (bound : Nat) (hb : bound ≤ data.length)
    (hstands : ∀ d ∈ ds, Stands data d ∧ d.start + d.bytes.length ≤ bound)
    (hpair : ds.Pairwise fun d d' => d.start + d.bytes.length ≤ d'.start)
    (hheader : ∀ p, p + 4 < bound → layout.header <+: data.drop p →
      ∃ d ∈ ds, p ≤ d.start ∧ d.start ≤ p + 4)
    (hfooter : ∀ d ∈ ds, ∀ o, d.start + 10 ≤ o → layout.footer <+: data.drop o →
      d.start + d.bytes.length ≤ o + 2) :
    layout.walkBefore data bound = ⟨ds.reverse, none⟩ := by
  have hh : layout.header.length = 4 := rfl
  have hf : layout.footer.length = 2 := rfl
  have hs : layout.skip = 10 := rfl
  induction ds using List.reverseRecOn generalizing bound with
  | nil =>
    rcases MarkerLayout.walkBefore_steps (l := layout) (by decide) hb with ⟨-, hw⟩ | ⟨s, hstart, -⟩
    · exact hw
    · obtain ⟨d, hd, -⟩ := hheader s hstart.1.1 hstart.1.2
      exact absurd hd (by simp)
  | append_singleton ds d ih =>
    obtain ⟨hd, hend⟩ := hstands d (by simp)
    have hlong := hd.long
    rw [List.pairwise_append] at hpair
    obtain ⟨hpair, -, hbefore⟩ := hpair
    have holder : ∀ d' ∈ ds, d'.start + d'.bytes.length ≤ d.start :=
      fun d' hd' => hbefore d' hd' d (by simp)
    have hgreatest : IsGreatest (layout.starts data bound) d.start := by
      refine ⟨⟨by omega, hd.header⟩, fun p hp => ?_⟩
      obtain ⟨d', hd', hle, -⟩ := hheader p hp.1 hp.2
      rw [List.mem_append, List.mem_singleton] at hd'
      rcases hd' with hd' | rfl
      · have := holder d' hd'
        omega
      · exact hle
    have hleast : IsLeast (layout.ends data d.start bound) (d.start + d.bytes.length) := by
      refine ⟨⟨hend, d.start + d.bytes.length - 2, by omega, by omega, hd.footer⟩, ?_⟩
      rintro e ⟨-, o, ho, rfl, hfoot⟩
      have := hfooter d (by simp) o (by omega) hfoot
      omega
    have hdive : layout.diveAt data d.start (d.start + d.bytes.length) = d := by
      rw [MarkerLayout.diveAt, Nat.add_sub_cancel_left, hd.bytes]
      exact congrArg (Dive.mk d.start d.bytes) hd.fingerprint
    have hrest : layout.walkBefore data d.start = ⟨ds.reverse, none⟩ := by
      refine ih d.start (by omega) (fun d' hd' => ⟨(hstands d' (by simp [hd'])).1, holder d' hd'⟩)
        hpair (fun p hp hat => ?_) (fun d' hd' => hfooter d' (by simp [hd']))
      -- a header that ends before `d` starts is not the one of `d`
      obtain ⟨d', hd', hle, hge⟩ := hheader p (by omega) hat
      rw [List.mem_append, List.mem_singleton] at hd'
      rcases hd' with hd' | rfl
      · exact ⟨d', hd', hle, hge⟩
      · omega
    rcases MarkerLayout.walkBefore_steps (l := layout) (by decide) hb with
      ⟨hnone, -⟩ | ⟨s, hstart, ⟨hnone, -⟩ | ⟨e, he, hw⟩⟩
    · exact absurd hnone hgreatest.nonempty.ne_empty
    · cases hgreatest.unique hstart
      exact absurd hnone hleast.nonempty.ne_empty
    · cases hgreatest.unique hstart
      cases hleast.unique he
      rw [hw, hdive, hrest, List.reverse_append]
      rfl

/-- The walk through an image finds its records, newest first. -/
theorem walk_image (rs : List (Bytes × Record)) (tail : Bytes)
    (h : Unambiguous (image rs tail) (placed 0 rs)) :
    layout.walk (image rs tail) = ⟨(placed 0 rs).reverse, none⟩ := by
  obtain ⟨hstands, hpair⟩ := placed_spec rs [] tail
  rw [List.nil_append, List.length_nil] at hstands
  rw [MarkerLayout.walk_eq_walkBefore]
  exact walkBefore_records _ _ le_rfl (fun d hd => ⟨(hstands d hd).1, (hstands d hd).1.inside⟩)
    hpair (fun p _ => h.header p) h.footer

/-! ### What is handed out -/

/-- With the timestamps in the order of the records, the record that has the cutoff for its
timestamp stops the walk. -/
theorem divesIn_cutoff {rs : List (Bytes × Record)} {tail : Bytes}
    (h : Unambiguous (image rs tail) (placed 0 rs))
    (hsorted : rs.Pairwise fun x y => x.2.timestamp < y.2.timestamp) {i : Nat}
    (hi : i < rs.length) :
    divesIn (some rs[i].2.timestamp.toNat) (fun _ => true) (image rs tail) =
      ⟨((placed 0 rs).drop (i + 1)).reverse, none⟩ := by
  have hlen : (placed 0 rs).length = rs.length := length_placed 0 rs
  -- place `j` from the newest record on is place `rs.length - 1 - j` from the oldest
  have hat : ∀ j, j < rs.length →
      (placed 0 rs).reverse[j]? = (placed 0 rs)[rs.length - 1 - j]? := by
    intro j hj
    rw [List.getElem?_reverse (by omega), hlen]
  obtain ⟨n, hreach, hcut, hend⟩ := Walk.cut_finished
    (MarkerLayout.isOld (some rs[i].2.timestamp.toNat)) (fun _ => true) (placed 0 rs).reverse
  rw [divesIn, walk_image rs tail h, hcut]
  have hle : n ≤ rs.length := by simpa using hreach.le
  have hupper : n ≤ rs.length - 1 - i := by
    by_contra hgt
    have hget := hat (rs.length - 1 - i) (by omega)
    have hmem : (placed 0 rs)[i] ∈ (placed 0 rs).reverse.take n := by
      refine List.mem_of_getElem? (i := rs.length - 1 - i) ?_
      rw [List.getElem?_take_of_lt (by omega), hget,
        show rs.length - 1 - (rs.length - 1 - i) = i by omega, List.getElem?_eq_getElem]
    have hnew := MarkerLayout.isOld_eq_false_iff.1 (hreach.unknown _ hmem) _ rfl
    rw [timestamp_placed rs 0 i hi (by omega)] at hnew
    omega
  have hlower : rs.length - 1 - i ≤ n := by
    rcases hend with hn | ⟨d, hd, hold, -⟩ | ⟨-, hstop⟩
    · rw [List.length_reverse, hlen] at hn
      omega
    · by_contra hlt
      rw [hat n (by omega), List.getElem?_eq_getElem (by omega), Option.some.injEq] at hd
      obtain ⟨t, ht, hts⟩ := MarkerLayout.isOld_eq_true_iff.1 hold
      cases ht
      rw [← hd, timestamp_placed rs 0 _ (by omega) (by omega)] at hts
      have := List.pairwise_iff_getElem.1 hsorted i (rs.length - 1 - n) hi (by omega) (by omega)
      rw [UInt32.lt_iff_toNat_lt] at this
      omega
    · exact absurd hstop (by simp)
  have hn : n = rs.length - 1 - i := by omega
  rw [List.take_reverse, hn, hlen, show rs.length - (rs.length - 1 - i) = i + 1 by omega]

/-- **Extraction undoes laying out records.**  Each dive that is handed out has the bytes of its
record, from where it stands, and the bytes of its timestamp; they come newest first, in good order,
up to the first one that is not newer than the cutoff or to the one at which the caller stops.

Without either these are all records; with timestamps in the order of the records, the timestamp of
one of them as the cutoff leaves those behind it. -/
theorem divesIn_image (rs : List (Bytes × Record)) (tail : Bytes)
    (h : Unambiguous (image rs tail) (placed 0 rs)) :
    (∀ d ∈ placed 0 rs, Stands (image rs tail) d) ∧
      (∀ cutoff keep, ∃ n,
        divesIn cutoff keep (image rs tail) = ⟨(placed 0 rs).reverse.take n, none⟩ ∧
          Walk.Reaches (MarkerLayout.isOld cutoff) keep (placed 0 rs).reverse n ∧
          (n = rs.length ∨ Walk.Leaves (MarkerLayout.isOld cutoff) keep (placed 0 rs).reverse n)) ∧
      divesIn none (fun _ => true) (image rs tail) = ⟨(placed 0 rs).reverse, none⟩ ∧
      (rs.Pairwise (fun x y => x.2.timestamp < y.2.timestamp) → ∀ i, (hi : i < rs.length) →
        divesIn (some rs[i].2.timestamp.toNat) (fun _ => true) (image rs tail) =
          ⟨((placed 0 rs).drop (i + 1)).reverse, none⟩) := by
  refine ⟨fun d hd => ((placed_spec rs [] tail).1 d hd).1, fun cutoff keep => ?_, ?_,
    fun hsorted i hi => divesIn_cutoff h hsorted hi⟩
  · -- how far the walk goes is decided by the cutoff and the caller alone
    obtain ⟨n, hreach, hcut, hend⟩ := Walk.cut_finished (MarkerLayout.isOld cutoff) keep
      (placed 0 rs).reverse
    rw [List.length_reverse, length_placed] at hend
    exact ⟨n, by rw [divesIn, walk_image rs tail h, hcut], hreach, hend⟩
  · rw [divesIn, walk_image rs tail h]
    exact Walk.cut_none _

/-- Two records, the older one behind zeros that run into it: with the older one known, the newer
one is handed out. -/
theorem divesIn_image_two_records :
    let older : Record := ⟨(0x3C, 1), 100, [17]⟩
    let newer : Record := ⟨(0x3C, 1), 200, []⟩
    let rs : List (Bytes × Record) := [([0x55, 0, 0], older), ([], newer)]
    let tail : Bytes := [0x55, 0, 0, 0]
    Unambiguous (image rs tail) (placed 0 rs) ∧
      rs.Pairwise (fun x y => x.2.timestamp < y.2.timestamp) ∧
      divesIn (some 100) (fun _ => true) (image rs tail) = ⟨[newer.dive 16], none⟩ := by
  intro older newer rs tail
  -- where a header or a footer may stand is decided for the bytes of the image
  have hheader : ∀ p, p < 32 → layout.header <+: (image rs tail).drop p →
      ∃ d ∈ placed 0 rs, p ≤ d.start ∧ d.start ≤ p + 4 := by decide +kernel
  have hfooter : ∀ o, o < 32 → ∀ d ∈ placed 0 rs, d.start + 10 ≤ o →
      layout.footer <+: (image rs tail).drop o → d.start + d.bytes.length ≤ o + 2 := by
    decide +kernel
  -- behind the image there is nothing that a marker could be a prefix of
  have hend : ∀ p, 32 ≤ p → (image rs tail).drop p = [] := fun p hp =>
    List.drop_eq_nil_of_le (le_trans (by decide) hp)
  have h : Unambiguous (image rs tail) (placed 0 rs) := by
    refine ⟨fun p hp => ?_, fun d hd o ho hat => ?_⟩
    · by_cases hlt : p < 32
      · exact hheader p hlt hp
      · rw [hend p (by omega)] at hp
        exact absurd hp (by decide)
    · by_cases hlt : o < 32
      · exact hfooter o hlt d hd ho hat
      · rw [hend o (by omega)] at hat
        exact absurd hat (by decide)
  have hsorted : rs.Pairwise fun x y => x.2.timestamp < y.2.timestamp := by decide
  exact ⟨h, hsorted, (divesIn_image rs tail h).2.2.2 hsorted 0 (by decide)⟩

end SensusPro
end DiveLink
