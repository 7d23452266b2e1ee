import DiveLink.Proofs.Recollection
import DiveLink.Proofs.Session.Pattern

/-!
# The calls made on a handle

A handle on a device makes calls only in its operations; all else that is done with it is done
without the link.  So what is additive and holds of the calls of each operation holds of those of a
run of actions.

## Main definitions

* `Device.Operation.sensusProgram` — the program of an operation on a Sensus Pro.

## Main results

* `Device.Operation.deliver_sensusPro` — an operation on a Sensus Pro delivers what its program
  does.
* `Device.calls_openSession` — the calls by which a device is opened.
* `Device.calls_after` — **what holds of the calls of each operation holds of those of a run.**
-/

namespace DiveLink
namespace Device

open Session Transcript

variable {σ α : Type} {G : Transcript → Prop} {d : Device σ}

/-! ### One action -/

/-- What only one family offers, or both do, without a property that the calls lack. -/
theorem calls_run {x : Op σ SensusPro α} {y : Op σ Vyper2 α} (hx : Makes G x) (hy : Makes G y)
    (d : Device σ) : ∃ cs, (run x y d).2.calls = d.calls ++ cs ∧ G cs := by
  cases d with
  | sensusPro s =>
    obtain ⟨cs, hmade, hcs⟩ := hx s
    exact ⟨cs, hmade.calls, hcs⟩
  | vyper2 s =>
    obtain ⟨cs, hmade, hcs⟩ := hy s
    exact ⟨cs, hmade.calls, hcs⟩

theorem calls_setFingerprint (hnil : G []) (data : Bytes) (d : Device σ) :
    ∃ cs, (d.setFingerprint data).2.calls = d.calls ++ cs ∧ G cs := by
  apply calls_run
  · apply Makes.choice (.remember hnil fun r : SensusPro => { r with timestamp := none })
    exact .choice (.remember hnil fun r : SensusPro => { r with timestamp := some data.le32 })
      (.throw hnil _)
  · apply Makes.choice (.remember hnil fun r : Vyper2 => { r with fingerprint := none })
    exact .choice (.remember hnil fun r : Vyper2 => { r with fingerprint := some data })
      (.throw hnil _)

theorem calls_handshake (hG : Additive G) (room : Nat) (d : Device σ) :
    ∃ cs, (d.handshake room).2.calls = d.calls ++ cs ∧ G cs := by
  have hlast : Makes G (ending (SensusPro.lastHandshake room) : Op σ SensusPro Unit) := by
    unfold SensusPro.lastHandshake
    by_cases h : room < SensusPro.handshakeSize
    · rw [if_pos h]
      exact (Makes.bind hG (.record hG.nil [.insufficientBuffer]) fun _ => .throw hG.nil _).congr
        fun _ => rfl
    · rw [if_neg h]
      exact (Makes.pure hG.nil ()).congr fun _ => rfl
  have hdenied : Makes G (ending (wrongFamily .vyper2) : Op σ Vyper2 Unit) :=
    (Makes.throw hG.nil (.invalidArgument (.wrongFamily .vyper2))).congr fun _ => rfl
  have hcalls := calls_run hlast hdenied d
  rwa [← map_fill] at hcalls

theorem calls_note (text : String) (d : Device σ) : (d.note text).calls = d.calls := by
  cases d <;> simp [note, setPast, past, calls, Session.calls, Session.history, Entry.call?]

variable [Link σ]

namespace Operation

/-- The program of an operation on a Sensus Pro. -/
def sensusProgram : Operation → Op σ SensusPro Receipt
  | version _ | read .. | write .. => unsupported
  | dump _ => Receipt.whole <$> SensusPro.dump
  | foreach keep => (fun _ => .whole []) <$> SensusPro.foreach keep
  | resetMaxDepth => wrongFamily .sensusPro
  | writeInterval seconds => (fun _ => .whole []) <$> SensusPro.writeInterval seconds
  | close => (fun _ => .whole []) <$> SensusPro.close

/-- **An operation on a Sensus Pro delivers what its program does.** -/
theorem deliver_sensusPro (op : Operation) (s : Session σ SensusPro) :
    op.deliver (sensusPro s) = (.ofRun (Session.run op.sensusProgram s).1,
      sensusPro (Session.run op.sensusProgram s).2) := by
  have hunit : ∀ x : Op σ SensusPro Unit,
      ((Session.run x s).1, sensusPro (Session.run x s).2).map (Receipt.mk []) id =
        (Receipt.ofRun (Session.run ((fun _ => Receipt.whole []) <$> x) s).1,
          sensusPro (Session.run ((fun _ => Receipt.whole []) <$> x) s).2) := by
    intro x
    rw [run_map]
    rcases Session.run x s with ⟨e | ⟨⟩, t⟩ <;> rfl
  cases op with
  | dump vector =>
    rw [deliver, dumpInto_eq, dump_sensusPro, sensusProgram, run_map]
    rcases Session.run SensusPro.dump s with ⟨e | image, t⟩ <;> rfl
  | foreach keep =>
    rw [sensusProgram, run_map]
    show ((Device.foreach keep (sensusPro s)).map (Except.map fun _ => ()) id).map _ _ = _
    rw [Device.foreach, run_sensusPro]
    rcases Session.run (SensusPro.foreach keep) s with ⟨e | ds, t⟩ <;> rfl
  | writeInterval seconds => exact hunit (SensusPro.writeInterval seconds)
  | close => exact hunit SensusPro.close
  -- nothing else is offered
  | _ => rfl

end Operation

/-- Only operations make calls. -/
theorem calls_act (hG : Additive G)
    (hop : ∀ op : Operation, ∃ cs, (op.perform d).2.calls = d.calls ++ cs ∧ G cs) (a : Action σ) :
    ∃ cs, (a.act d).2.calls = d.calls ++ cs ∧ G cs := by
  -- what only sets a field of the handle makes no call
  have hsame : ∀ e : Device σ, e.calls = d.calls → ∃ cs, e.calls = d.calls ++ cs ∧ G cs :=
    fun e he => ⟨[], by rw [he, List.append_nil], hG.nil⟩
  cases a with
  | operate op => exact hop op
  | setFingerprint data => exact calls_setFingerprint hG.nil data d
  | setTimestamp t =>
    exact calls_run (.remember hG.nil fun r : SensusPro => { r with timestamp := some t })
      (.throw hG.nil _) d
  | extract image keep =>
    have hextract : Makes G (SensusPro.extract image keep : Op σ SensusPro (List Dive)) :=
      .bind hG (.get hG.nil) fun _ => .report hG.nil _
    exact calls_run hextract (.throw hG.nil _) d
  | handshake room => exact calls_handshake hG room d
  | clock =>
    have hclock : Makes G (SensusPro.lastClock : Op σ SensusPro (Option Clock)) :=
      .bind hG (.get hG.nil) fun _ => .pure hG.nil _
    exact calls_run hclock (.throw hG.nil _) d
  | setLink link => exact hsame _ (by cases d <;> rfl)
  | setToken token => exact hsame _ (by cases d <;> rfl)
  | listen listening => exact hsame _ (by cases d <;> rfl)
  | note text => exact hsame _ (calls_note text d)

/-! ### Runs -/

omit [Link σ] in
theorem family_run (x : Op σ SensusPro α) (y : Op σ Vyper2 α) (d : Device σ) :
    (run x y d).2.family = d.family := by
  cases d <;> rfl

omit [Link σ] in
theorem family_fill (x : Op σ SensusPro Receipt) (y : Op σ Vyper2 Receipt) (d : Device σ) :
    (fill x y d).2.family = d.family := by
  have h : (fill x y d).2 = (run x y d).2 := by
    unfold fill
    rcases run x y d with ⟨_ | _, _⟩ <;> rfl
  rw [h, family_run]

/-- A handle stays one on a device of its family. -/
theorem family_act (a : Action σ) (d : Device σ) : (a.act d).2.family = d.family := by
  cases a with
  | operate op =>
    cases op with
    | version room => exact family_fill _ _ d
    | read address length => exact family_fill _ _ d
    | dump vector => exact family_fill _ _ d
    | foreach keep => exact family_run (SensusPro.foreach keep) (Vyper2.foreach keep) d
    | _ => exact family_run _ _ d
  | extract image keep => exact family_run (SensusPro.extract image keep) (wrongFamily .vyper2) d
  | handshake room => exact family_fill _ _ d
  | clock => exact family_run SensusPro.lastClock (wrongFamily .vyper2) d
  | setLink link => cases d <;> rfl
  | setToken token => cases d <;> rfl
  | listen listening => cases d <;> rfl
  | note text => cases d <;> rfl
  | _ => exact family_run _ _ d

/-- **What holds of the calls of each operation on a family holds of those of a run.** -/
theorem calls_after (hG : Additive G) {family : Family}
    (hop : ∀ (op : Operation) (d : Device σ), d.family = family →
      ∃ cs, (op.perform d).2.calls = d.calls ++ cs ∧ G cs) :
    ∀ (as : List (Action σ)) (d : Device σ), d.family = family →
      ∃ cs, (after as d).calls = d.calls ++ cs ∧ G cs := by
  intro as
  induction as with
  | nil => exact fun d _ => ⟨[], (List.append_nil _).symm, hG.nil⟩
  | cons a as ih =>
    intro d hd
    obtain ⟨cs, hcalls, hcs⟩ := calls_act hG (fun op => hop op d hd) a
    obtain ⟨cs', hcalls', hcs'⟩ := ih (a.act d).2 ((family_act a d).trans hd)
    refine ⟨cs ++ cs', ?_, hG.append hcs hcs'⟩
    rw [after, hcalls', hcalls, List.append_assoc]

/-! ### Opening -/

omit [Link σ] in
/-- The calls by which a device is opened are those of its set-up. -/
theorem calls_openSession {δ : Type} {wrap : Session σ δ → Device σ} {setUp : Op σ δ Unit}
    (hcalls : ∀ s, (wrap s).calls = s.calls) (hmakes : Makes G setUp) (link : σ) (device : δ)
    (token : CancelToken) : G (openSession wrap setUp (.start link device token)).calls := by
  obtain ⟨cs, hmade, hcs⟩ := hmakes (.start link device token)
  -- no call was made before
  obtain rfl : (Session.run setUp (.start link device token)).2.calls = cs := hmade.calls
  unfold openSession
  rcases hrun : Session.run setUp (.start link device token) with ⟨e | ⟨⟩, t⟩ <;> rw [hrun] at hcs
  · exact hcs
  · show G (wrap t).calls
    rwa [hcalls t]

end Device
end DiveLink
