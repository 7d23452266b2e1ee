import DiveLink.Device
import DiveLink.Proofs.Vyper2.Download
import DiveLink.Proofs.Walk

/-!
# A later download is the beginning of a full one

Whoever knows some of the dives on a device, or stops when enough of them were handed out, makes the
same calls as one who wants them all.  What is handed out are the dives of the full download up to
the first known one, or up to the one at which the caller stops; the download then ends well, and
otherwise it ends as the full one does.  This holds of any link, whatever it delivers.

## Main definitions

* `StopsAt keep ds n` — the caller stops at the `n`th of the dives `ds`.
* `CutShort known keep all full part result` — what is left of a full download.
* `Device.forget`, `Device.knows` — a device without known dives, and the dives it knows.
* `Device.Incremental` — an operation that hands out a part of what it hands out in full.

## Main results

* `Walk.cutShort` — the cut of a walk is what is left of the walk.
* `Session.incremental_of_blind` — programs that look at what is known only at their end.
* `Device.incremental` — **a later download is the beginning of a full one**, and so is a later
  search through a memory image.
-/

namespace DiveLink

/-! ### Dives that are left -/

/-- The caller stops when the `n`th of the dives `ds` is handed out. -/
structure StopsAt (keep : List Dive → Bool) (ds : List Dive) (n : Nat) : Prop where
  pos : 0 < n
  le : n ≤ ds.length
  refused : keep (ds.take n).reverse = false
  kept : ∀ i, 0 < i → i < n → keep (ds.take i).reverse = true

/-- A caller stops at one dive only. -/
theorem StopsAt.unique {keep : List Dive → Bool} {ds : List Dive} {m n : Nat}
    (hm : StopsAt keep ds m) (hn : StopsAt keep ds n) : m = n := by
  rcases Nat.lt_trichotomy m n with hlt | heq | hgt
  · exact absurd (hn.kept m hm.pos hlt) (by simp [hm.refused])
  · exact heq
  · exact absurd (hm.kept n hn.pos hgt) (by simp [hn.refused])

/-- A full download hands out the dives `all` and ends with `full`.  A caller who knows some of the
dives, and who stops when `keep` says so, is handed the dives `part`, and `result` is the end. -/
structure CutShort (known : Dive → Bool) (keep : List Dive → Bool)
    (all : List Dive) (full : Except DeviceError (List Dive))
    (part : List Dive) (result : Except DeviceError (List Dive)) : Prop where
  /-- A caller who stops at one of the dives in front of the first known one has those up to it. -/
  stopped : ∀ n, StopsAt keep (all.takeWhile fun d => !known d) n →
    part = (all.takeWhile fun d => !known d).take n ∧ result = .ok part
  /-- A caller who does not has all the dives in front of the first known one. -/
  unstopped : (∀ n, ¬ StopsAt keep (all.takeWhile fun d => !known d) n) →
    part = all.takeWhile fun d => !known d
  /-- With a known dive all is well, -/
  met : (∀ n, ¬ StopsAt keep (all.takeWhile fun d => !known d) n) →
    (∃ d ∈ all, known d = true) → result = .ok part
  /-- and without one the end is that of the full download. -/
  whole : (∀ n, ¬ StopsAt keep (all.takeWhile fun d => !known d) n) →
    (∀ d ∈ all, known d = false) → result = full

variable {known : Dive → Bool} {keep : List Dive → Bool}

/-- Where there are no dives nothing is cut short. -/
theorem CutShort.nothing (r : Except DeviceError (List Dive)) : CutShort known keep [] r [] r where
  stopped := fun n hn => absurd (Nat.lt_of_lt_of_le hn.pos hn.le) (Nat.not_lt_zero 0)
  unstopped := fun _ => rfl
  met := fun _ ⟨d, hd, _⟩ => absurd hd (by simp)
  whole := fun _ _ => rfl

namespace Walk

/-- How an operation that reports a walk ends. -/
def ending (w : Walk) : Except DeviceError (List Dive) :=
  w.fault.elim (.ok w.dives) fun f => .error (.dataFormat f)

/-- The dives handed out are the first of those in front of the first known one. -/
theorem Reaches.takeWhile_eq {ds : List Dive} {n : Nat} (h : Reaches known keep ds n) :
    ds.takeWhile (fun d => !known d) = ds.take n ++ (ds.drop n).takeWhile fun d => !known d := by
  conv_lhs => rw [← List.take_append_drop n ds]
  refine List.takeWhile_append_of_pos fun d hd => ?_
  rw [h.unknown d hd]
  rfl

/-- A caller who went on behind the first `n` dives has stopped at none of them. -/
theorem Reaches.not_stopsAt {ds : List Dive} {n : Nat} (h : Reaches known keep ds n)
    (hkept : 0 < n → keep (ds.take n).reverse = true) (m : Nat) :
    ¬ StopsAt keep (ds.take n) m := by
  intro hm
  have hle := hm.le
  have hrefused := hm.refused
  rw [List.length_take] at hle
  rw [List.take_take, Nat.min_eq_left (by omega)] at hrefused
  rcases Nat.lt_or_ge m n with hlt | hge
  · rw [h.kept m hm.pos hlt] at hrefused
    exact absurd hrefused (by decide)
  · obtain rfl : m = n := by omega
    rw [hkept hm.pos] at hrefused
    exact absurd hrefused (by decide)

/-- A caller who stops behind the first `n` dives stops there also among those in front of the first
known one. -/
theorem Reaches.stopsAt {ds : List Dive} {n : Nat} (h : Reaches known keep ds n) (hpos : 0 < n)
    (hstop : keep (ds.take n).reverse = false) :
    StopsAt keep (ds.takeWhile fun d => !known d) n ∧
      (ds.takeWhile fun d => !known d).take n = ds.take n := by
  have hle := h.le
  -- the first dives up to the stop are all unknown
  have htake : ∀ i, i ≤ n → (ds.takeWhile fun d => !known d).take i = ds.take i := by
    intro i hi
    rw [h.takeWhile_eq, List.take_append_of_le_length (by rw [List.length_take]; omega),
      List.take_take, Nat.min_eq_left hi]
  refine ⟨⟨hpos, ?_, ?_, ?_⟩, htake n (Nat.le_refl n)⟩
  · rw [h.takeWhile_eq, List.length_append, List.length_take]
    omega
  · rwa [htake n (Nat.le_refl n)]
  · intro i hi hlt
    rw [htake i (by omega)]
    exact h.kept i hi hlt

/-- **The cut of a walk is what is left of the walk.** -/
theorem cutShort (known : Dive → Bool) (keep : List Dive → Bool) (w : Walk) :
    CutShort known keep w.dives w.ending (w.cut known keep).dives (w.cut known keep).ending := by
  obtain ⟨n, hreach, hcases⟩ := cut_cases known keep w
  have hnew := hreach.takeWhile_eq
  rcases hcases with ⟨hn, hcut, hkept⟩ | ⟨hcut, ⟨d, hd, hknown, hkept⟩ | ⟨hpos, hstop⟩⟩
  · -- the walk is handed out whole: no dive is known, and the caller never stops
    have hall : w.dives.take n = w.dives := by rw [hn, List.take_length]
    have hunknown : ∀ d ∈ w.dives, known d = false := by
      intro d hd
      exact hreach.unknown d (by rwa [hall])
    rw [hn, List.drop_length, List.takeWhile_nil, List.append_nil, List.take_length] at hnew
    have hnever : ∀ m, ¬ StopsAt keep (w.dives.takeWhile fun d => !known d) m := by
      intro m hm
      rw [hnew, ← hall] at hm
      exact hreach.not_stopsAt (by rwa [hall]) m hm
    rw [hcut]
    refine ⟨fun m hm => absurd hm (hnever m), fun _ => hnew.symm, ?_, fun _ _ => rfl⟩
    rintro - ⟨d, hd, hk⟩
    rw [hunknown d hd] at hk
    exact absurd hk (by decide)
  · -- the next dive is known, and the caller has not stopped before
    obtain ⟨hlt, rfl⟩ := List.getElem?_eq_some_iff.1 hd
    rw [List.drop_eq_getElem_cons hlt, List.takeWhile_cons_of_neg (by simp [hknown]),
      List.append_nil] at hnew
    have hnever : ∀ m, ¬ StopsAt keep (w.dives.takeWhile fun d => !known d) m := by
      intro m hm
      rw [hnew] at hm
      exact hreach.not_stopsAt hkept m hm
    rw [hcut]
    refine ⟨fun m hm => absurd hm (hnever m), fun _ => hnew.symm, fun _ _ => rfl, ?_⟩
    intro _ hunknown
    rw [hunknown _ (List.getElem_mem hlt)] at hknown
    exact absurd hknown (by decide)
  · -- the caller stops, which happens at one dive only
    obtain ⟨hstops, htake⟩ := hreach.stopsAt hpos hstop
    rw [hcut]
    refine ⟨?_, fun h => absurd hstops (h n), fun h => absurd hstops (h n),
      fun h => absurd hstops (h n)⟩
    intro m hm
    rw [hm.unique hstops, htake]
    exact ⟨rfl, rfl⟩

end Walk

/-! ### Programs that look at what is known at their end -/

namespace Session

variable {σ δ α : Type}

/-- A program that does not look at the known dives, then reports a walk up to the first of them:
with nothing known it makes the same calls, and the walk is reported in full. -/
theorem incremental_of_blind {x : Op σ δ α} {f : δ → δ} (w : α → Walk) (knows : δ → Dive → Bool)
    (hblind : Blind f x) (hhanded : ∀ s, (run x s).2.handed = s.handed)
    (hsame : ∀ s, knows (run x s).2.device = knows s.device)
    (hforget : ∀ d, knows (f d) = fun _ => false) (go : (List Dive → Bool) → Op σ δ (List Dive))
    (hgo : ∀ keep, go keep = x >>= fun a => get >>= fun r =>
      report ((w a).cut (knows r.device) keep))
    (keep : List Dive → Bool) (s : Session σ δ) :
    (run (go keep) s).2.calls = (run (go fun _ => true) (s.mapDevice f)).2.calls ∧
      ∃ all part, (run (go fun _ => true) (s.mapDevice f)).2.handed = s.handed ++ all ∧
        (run (go keep) s).2.handed = s.handed ++ part ∧
        CutShort (knows s.device) keep all (run (go fun _ => true) (s.mapDevice f)).1
          part (run (go keep) s).1 := by
  have hs := hsame s
  have hdives := hhanded s
  rw [hgo, hgo, run_bind, run_bind, hblind s]
  rcases hrun : run x s with ⟨e | a, t⟩ <;> rw [hrun] at hs hdives
  · -- both fail before anything is handed out
    refine ⟨rfl, [], [], ?_, ?_, .nothing _⟩ <;> rw [List.append_nil] <;> exact hdives
  · simp only [run_bind_ok (run_get _)]
    have hfull : (w a).cut (knows (t.mapDevice f).device) (fun _ => true) = w a := by
      rw [show (t.mapDevice f).device = f t.device from rfl, hforget]
      exact Walk.cut_none _
    rw [hfull, handed_report, handed_report, calls_report, calls_report, (run_report _ _).1,
      (run_report _ _).1, show knows t.device = knows s.device from hs,
      show t.handed = s.handed from hdives]
    refine ⟨rfl, _, _, ?_, rfl, Walk.cutShort _ _ (w a)⟩
    rw [show (t.mapDevice f).handed = s.handed from hdives]

end Session

/-! ### The two families -/

namespace SensusPro

open Session

variable {σ : Type} [Link σ]

/-- A device with another newest dive known. -/
def withTimestamp (timestamp : Option Nat) (d : SensusPro) : SensusPro := { d with timestamp }

/-- What is kept where programs are put together holds of the download of the memory, if it holds of
remembering a handshake. -/
theorem compositional_dump {Q : ∀ {α : Type}, Op σ SensusPro α → Prop} (hQ : Compositional Q)
    (hremember : ∀ frame clock, Q (modify fun s =>
      { s with device := { s.device with frame := frame, clock := clock } } :
        Op σ SensusPro Unit)) :
    Q (dump : Op σ SensusPro Bytes) := by
  -- waking is composed of steps that are kept, but for what it remembers
  have hwake : Q (wake : Op σ SensusPro Unit) :=
    hQ.bind (hQ.handshake _) fun _ => hQ.bind hQ.now fun _ => hQ.bind (hremember _ _) fun _ =>
      hQ.bind (hQ.emit _) fun _ => hQ.bind (hQ.emit _) fun _ => hQ.pause _
  -- the chunks are received one after the other
  have hstream : ∀ (bs : List Block) (progress : Progress),
      Q (receiveStream progress bs : Op σ SensusPro Bytes) := by
    intro bs
    induction bs with
    | nil => intro progress; exact hQ.pure _
    | cons b bs ih =>
      intro progress
      rw [receiveStream]
      refine hQ.bind (hQ.receive _) fun chunk => ?_
      split
      · exact hQ.bind (hQ.warn _) fun _ => hQ.throw _
      · exact hQ.bind (hQ.emit _) fun _ => hQ.bind (ih _) fun _ => hQ.pure _
  refine hQ.bind (hQ.emit _) fun _ =>
    hQ.bind (hQ.bind hwake fun _ => hQ.warning _ (hQ.transmit _)) fun _ =>
      hQ.bind (hstream _ _) fun stream => ?_
  -- whether the check of the stream fits decides between the image and a failure
  cases Checksum.stripCrc16? stream with
  | some image => exact hQ.pure _
  | none => exact hQ.bind (hQ.warn _) fun _ => hQ.throw _

theorem blind_dump (timestamp : Option Nat) :
    Blind (withTimestamp timestamp) (dump : Op σ SensusPro Bytes) :=
  compositional_dump (compositional_blind _) fun frame clock =>
    .modify (g := fun d : SensusPro => { d with frame := frame, clock := clock }) fun _ => rfl

/-- A download of the memory leaves the newest dive known as it is. -/
theorem timestamp_dump (s : Session σ SensusPro) :
    (run dump s).2.device.timestamp = s.device.timestamp := by
  -- remembering what is remembered already changes nothing, also behind the download
  have hsame : s.mapDevice (withTimestamp s.device.timestamp) = s := rfl
  have hrun := blind_dump s.device.timestamp s
  rw [hsame] at hrun
  exact congrArg (fun r => r.2.device.timestamp) hrun

theorem foreach_eq (keep : List Dive → Bool) :
    (foreach keep : Op σ SensusPro (List Dive)) =
      dump >>= fun image => get >>= fun r =>
        report ((layout.walk image).cut (MarkerLayout.isOld r.device.timestamp) keep) := rfl

theorem handed_dump (s : Session σ SensusPro) : (run dump s).2.handed = s.handed :=
  compositional_dump compositional_handed (fun _ _ _ => rfl) s

end SensusPro

namespace Device

variable {σ : Type}

theorem run_sensusPro {α : Type} (x : Op σ SensusPro α) (y : Op σ Vyper2 α)
    (s : Session σ SensusPro) :
    run x y (sensusPro s) = ((Session.run x s).1, sensusPro (Session.run x s).2) := rfl

theorem run_vyper2 {α : Type} (x : Op σ SensusPro α) (y : Op σ Vyper2 α) (s : Session σ Vyper2) :
    run x y (vyper2 s) = ((Session.run y s).1, vyper2 (Session.run y s).2) := rfl

/-- The device without any known dive. -/
def forget : Device σ → Device σ
  | sensusPro s => sensusPro (s.mapDevice (SensusPro.withTimestamp none))
  | vyper2 s => vyper2 (s.mapDevice fun d => { d with fingerprint := none })

/-- The dives that a device knows: for a Sensus Pro those not newer than the timestamp, and for a
Vyper2 those with the fingerprint. -/
def knows : Device σ → Dive → Bool
  | sensusPro s => MarkerLayout.isOld s.device.timestamp
  | vyper2 s => Vyper2.isKnown s.device.fingerprint

/-- The calls that were made to the link of a device, with their replies. -/
def calls : Device σ → List (Call × Reply)
  | sensusPro s => s.calls
  | vyper2 s => s.calls

/-- The dives of a device that were handed to the caller. -/
def handed : Device σ → List Dive
  | sensusPro s => s.handed
  | vyper2 s => s.handed

/-- The operation `op` makes the same calls as on the device without any known dive and for a caller
who never stops, and hands out what is left of the dives. -/
def Incremental (op : (List Dive → Bool) → Device σ → Except DeviceError (List Dive) × Device σ)
    (keep : List Dive → Bool) (d : Device σ) : Prop :=
  (op keep d).2.calls = (op (fun _ => true) d.forget).2.calls ∧
    ∃ all part, (op (fun _ => true) d.forget).2.handed = d.handed ++ all ∧
      (op keep d).2.handed = d.handed ++ part ∧
      CutShort d.knows keep all (op (fun _ => true) d.forget).1 part (op keep d).1

/-- **A later download is the beginning of a full one**, whatever the link delivers, and the same
holds of the dives in a memory image. -/
theorem incremental [Link σ] (keep : List Dive → Bool) (d : Device σ) :
    Incremental foreach keep d ∧ ∀ image, Incremental (extract image) keep d := by
  simp only [Incremental, foreach, extract]
  cases d with
  | sensusPro s =>
    simp only [forget, run_sensusPro]
    have hforeach := Session.incremental_of_blind (x := SensusPro.dump (σ := σ))
      SensusPro.layout.walk (fun d : SensusPro => MarkerLayout.isOld d.timestamp)
      (SensusPro.blind_dump none) SensusPro.handed_dump
      (fun s => congrArg MarkerLayout.isOld (SensusPro.timestamp_dump s)) (fun _ => rfl)
      _ SensusPro.foreach_eq keep s
    refine ⟨hforeach, fun image => ?_⟩
    have hextract := Session.incremental_of_blind (x := (pure image : Op σ SensusPro Bytes))
      SensusPro.layout.walk (fun d : SensusPro => MarkerLayout.isOld d.timestamp)
      (f := SensusPro.withTimestamp none) (fun _ => rfl) (fun _ => rfl) (fun _ => rfl)
      (fun _ => rfl) (SensusPro.extract image) (fun _ => rfl) keep s
    exact hextract
  | vyper2 s =>
    simp only [forget, run_vyper2]
    have hforeach := Session.incremental_of_blind (x := Vyper2.download (σ := σ))
      (f := fun d : Vyper2 => { d with fingerprint := none })
      (fun x => x.2.1.walk (Vyper2.fingerprintOffset x.1) x.2.2)
      (fun d : Vyper2 => Vyper2.isKnown d.fingerprint)
      (Vyper2.compositional_download (Session.compositional_blind _))
      (fun s => (Vyper2.handed_download s).1)
      (fun s => congrArg (fun d : Vyper2 => Vyper2.isKnown d.fingerprint)
        (Vyper2.handed_download s).2)
      (fun _ => rfl) _ Vyper2.foreach_eq keep s
    refine ⟨hforeach, fun image => ?_⟩
    -- a Vyper2 has no memory image to search through
    have hrefused : ∀ t : Session σ Vyper2,
        Session.run (wrongFamily .vyper2 : Op σ Vyper2 (List Dive)) t =
          (.error (.invalidArgument (.wrongFamily .vyper2)), t) := fun _ => rfl
    rw [hrefused, hrefused]
    exact ⟨rfl, [], [], (List.append_nil _).symm, (List.append_nil _).symm, .nothing _⟩

end Device
end DiveLink
