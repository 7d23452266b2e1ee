import DiveLink.Proofs.Dump
import DiveLink.Proofs.Vyper2.Requests

/-!
# No dive is handed out before the download is verified

A caller keeps the dives that it is handed, and asks for newer ones the next time.  So none is
handed out before the last call was made and all that was received was checked.  Whoever is told
that something other than the memory is at fault has not been handed any.

## Main definitions

* `Session.HandedLast` — dives that were handed out behind all calls, and for good reason.
* `Device.history` — what happened on a device, first things first.
* `Device.Verified` — the calls of a download of which everything was checked.

## Main results

* `Session.handedLast_of_report` — a walk that is reported is handed out behind all calls.
* `Device.foreach_verified` — **dives are handed out behind a verified download only.**
-/

namespace DiveLink

/-! ### Reports -/

namespace Session

variable {σ δ α : Type}

/-- The dives `ds` were handed out behind the entries `es` of an operation with the result
`result`. -/
structure HandedLast (good : Transcript → Prop) (es : List Entry) (ds : List Dive)
    (result : Except DeviceError (List Dive)) : Prop where
  /-- None was handed out before. -/
  undived : ∀ e ∈ es, e.dive? = none
  /-- Where dives are handed out, the calls before were good. -/
  good : ds ≠ [] → good (es.filterMap Entry.call?)
  /-- Where something other than the memory is at fault, no dive is handed out. -/
  fails : ∀ e, result = .error e → (∀ f, e ≠ .dataFormat f) → ds = []

/-- **A walk that is reported behind a program is handed out behind all of its calls.** -/
theorem handedLast_of_report [Link σ] {D : Discipline} {P : α → Transcript → Prop}
    {B : Transcript → Prop} {x : Op σ δ α}
    (hadds : Adds (fun e => e.dive? = none) x) (hx : Conducts D P B x) (w : α → δ → Walk)
    (s : Session σ δ) :
    let y := x >>= fun a => get >>= fun r => report (w a r.device)
    ∃ (es : List Entry) (ds : List Dive) (ws : List Warning),
      (run y s).2.history = s.history ++ (es ++ (ds.map .dive ++ ws.map .warning)) ∧
        HandedLast (fun cs => ∃ a, P a cs) es ds (run y s).1 := by
  intro y
  obtain ⟨es, hhistory, hes⟩ := hadds s
  obtain ⟨cs, hmade, hP⟩ := hx.of_ok s
  -- the calls of the program are those among its entries
  have hcalls : cs = es.filterMap Entry.call? := by
    have h := hmade.calls
    rw [calls, calls, hhistory, List.filterMap_append] at h
    exact (List.append_cancel_left h).symm
  rw [run_bind]
  rcases hrun : run x s with ⟨e | a, t⟩ <;> rw [hrun] at hhistory hP
  · exact ⟨es, [], [], by simpa using hhistory, hes, fun h => absurd rfl h, fun _ _ _ => rfl⟩
  · obtain ⟨walk, hwalk⟩ : ∃ walk, walk = w a t.device := ⟨_, rfl⟩
    obtain ⟨hresult, hgrows⟩ := run_report walk t
    dsimp only
    rw [run_bind_ok (run_get t), ← hwalk]
    refine ⟨es, walk.dives, (walk.fault.bind DataFault.warning).toList, ?_, hes,
      fun _ => ⟨a, hcalls ▸ hP a rfl⟩, fun e he hother => ?_⟩
    · rw [hgrows.history, show t.history = s.history ++ es from hhistory, List.append_assoc]
    · rw [hresult] at he
      cases hfault : walk.fault with
      | none =>
        rw [hfault] at he
        exact absurd he (by simp)
      | some f =>
        rw [hfault] at he
        cases he
        exact absurd rfl (hother f)

end Session

/-! ### Downloads of both families -/

namespace Device

open Session

variable {σ : Type}

/-- What happened on a device, first things first. -/
def history (d : Device σ) : List Entry := d.past.reverse

/-- The calls `cs` are those of a download of which everything was checked. -/
def Verified : Family → Transcript → Prop
  -- version, serial number, header and all bytes of the ring in use came with answers that fit
  | .vyper2, cs => ∃ version serial raw chunks h blocks,
      Vyper2.Asked (.version :: .block Vyper2.serialBlock :: .block Vyper2.headerBlock ::
        blocks.map .block) (version :: serial :: raw :: chunks) cs ∧
      RingHeader.parse raw = .ok h ∧ Vyper2.Covers blocks h
  -- the frame of the handshake and the stream of the memory ended in their checks
  | .sensusPro, cs => ∃ image, Brought .sensusPro image cs

variable [Link σ]

/-- **Dives are handed out behind a verified download only**: when the first is handed out, the last
call was made and all that was received was checked.  If the operation ends in an error other than
that the memory makes no sense, none was handed out. -/
theorem foreach_verified (keep : List Dive → Bool) (d : Device σ) :
    ∃ (es : List Entry) (ds : List Dive) (ws : List Warning),
      (d.foreach keep).2.history = d.history ++ (es ++ (ds.map .dive ++ ws.map .warning)) ∧
        HandedLast (Verified d.family) es ds (d.foreach keep).1 := by
  -- whatever goes in front of the report hands out no dive
  have hadds : ∀ {δ : Type}, Compositional (σ := σ) (δ := δ) fun x =>
      Adds (fun e => e.dive? = none) x :=
    compositional_adds (fun _ _ => rfl) (fun _ => rfl) fun _ => rfl
  cases d with
  -- the stream was brought as a whole before its image is walked
  | sensusPro s =>
    obtain ⟨es, ds, ws, hhistory, hlast⟩ := handedLast_of_report
      (SensusPro.compositional_dump hadds fun _ _ _ => ⟨[], (List.append_nil _).symm, by simp⟩)
      (SensusPro.conducts_dump (B := fun _ => False))
      (fun image d => (SensusPro.layout.walk image).cut (MarkerLayout.isOld d.timestamp) keep) s
    rw [foreach, run_sensusPro, SensusPro.foreach_eq]
    refine ⟨es, ds, ws, hhistory, hlast.undived, fun h => ?_, hlast.fails⟩
    obtain ⟨image, himage⟩ := hlast.good h
    exact ⟨image, brought_sensusPro himage⟩
  -- the blocks cover the used part of the ring before it is walked
  | vyper2 s =>
    obtain ⟨es, ds, ws, hhistory, hlast⟩ := handedLast_of_report
      (Vyper2.compositional_download hadds) Vyper2.conducts_download
      (fun x d => (x.2.1.walk (Vyper2.fingerprintOffset x.1) x.2.2).cut
        (Vyper2.isKnown d.fingerprint) keep) s
    rw [foreach, run_vyper2, Vyper2.foreach_eq]
    refine ⟨es, ds, ws, hhistory, hlast.undived, fun h => ?_, hlast.fails⟩
    obtain ⟨⟨version, h, data⟩, serial, raw, chunks, hasked, hparse, -⟩ := hlast.good h
    exact ⟨version, serial, raw, chunks, h, _, hasked, hparse, Vyper2.covers_blocksBefore h⟩

end Device
end DiveLink
