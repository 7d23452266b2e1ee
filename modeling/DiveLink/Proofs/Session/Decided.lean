import DiveLink.Proofs.Session.Discipline

/-!
# Calls that decide a result

An operation learns about the device only from the replies to its calls.  So if the calls that it
made are known, with their replies, then so is its result.

## Main definitions

* `Session.Still x` — the program `x` makes no call and does not fail.
* `Session.Decided P x` — where the calls of the program `x` are those that go with a result by `P`,
  it gives that result.

## Main results

* `Session.Decided.bind` — the calls of two programs decide the result of both.
* `Session.Decided.result` — **the calls that were made decide the result.**
-/

namespace DiveLink.Session

open Transcript

variable {σ δ α β : Type} [Link σ] {s t : Session σ δ}

/-- The program `x` makes no call and does not fail. -/
def Still (x : Op σ δ α) : Prop :=
  ∀ s, ∃ a, run x s = (.ok a, (run x s).2) ∧ Made s (run x s).2 []

theorem still_now : Still (now : Op σ δ Int) := fun s => ⟨_, rfl, .refl s⟩

omit [Link σ] in
/-- What is remembered about the device makes no call. -/
theorem still_remember (f : δ → δ) :
    Still (modify fun s => { s with device := f s.device } : Op σ δ Unit) :=
  fun _ => ⟨(), rfl, by simp [calls, history], rfl⟩

omit [Link σ] in
theorem still_emit (e : Event) : Still (emit e : Op σ δ Unit) := by
  intro s
  rw [run_emit]
  refine ⟨(), rfl, ?_⟩
  split
  · exact (grows_record [.event e] s).made
  · exact .refl s

/-- The calls that go with a result by `P` decide the program `x`: where neither its calls nor these
are other than the first calls of the list `all`, they are the same, and the result is the one that
goes with them. -/
def Decided (P : Except DeviceError α → Transcript → Prop) (x : Op σ δ α) : Prop :=
  ∀ s, ∃ made, Made s (run x s).2 made ∧ ∀ r cs all, P r cs → cs <+: all → made <+: all →
    made = cs ∧ (run x s).1 = r

namespace Decided

variable {P P' : Except DeviceError α → Transcript → Prop}
  {R : Except DeviceError β → Transcript → Prop} {x : Op σ δ α}

omit [Link σ] in
/-- **The calls that were made decide the result.** -/
theorem result (h : Decided P x) {r : Except DeviceError α} {cs : Transcript}
    (hcalls : (run x s).2.calls = s.calls ++ cs) (hP : P r cs) : (run x s).1 = r := by
  obtain ⟨made, hmade, hdecided⟩ := h s
  have hsame : made = cs := List.append_cancel_left (hmade.calls.symm.trans hcalls)
  exact (hdecided r cs cs hP List.prefix_rfl (hsame ▸ List.prefix_rfl)).2

omit [Link σ] in
/-- There is nothing to decide where no call is made and the end is always the same. -/
theorem constant {r₀ : Except DeviceError α}
    (h : ∀ s, Made s (run x s).2 [] ∧ (run x s).1 = r₀) :
    Decided (fun r cs => cs = [] ∧ r = r₀) x := by
  intro s
  refine ⟨[], (h s).1, ?_⟩
  rintro r cs all ⟨rfl, rfl⟩ - -
  exact ⟨rfl, (h s).2⟩

/-- The reply to a single call decides. -/
theorem call {c : Call} {f : Reply → Except DeviceError α}
    (h : ∀ s, Made s (run x s).2 [(c, reply c s)] ∧ (run x s).1 = f (reply c s)) :
    Decided (fun r cs => ∃ got, cs = [(c, got)] ∧ r = f got) x := by
  intro s
  refine ⟨_, (h s).1, ?_⟩
  rintro r cs all ⟨got, rfl, rfl⟩ ⟨more, rfl⟩ hmade
  -- both lists begin with the first call of `all`
  have hfirst : reply c s = got := by
    obtain ⟨rest, hrest⟩ := hmade
    cases hrest
    rfl
  rw [hfirst]
  exact ⟨rfl, hfirst ▸ (h s).2⟩

omit [Link σ] in
/-- **The calls of two programs decide the result of both**, where those of the first go with a
result. -/
theorem bind {f : α → Op σ δ β} {F : α → Except DeviceError β → Transcript → Prop}
    (hx : Decided P x) (hf : ∀ a, Decided (F a) (f a))
    (h : ∀ r cs, R r cs → ∃ a c₁ c₂, cs = c₁ ++ c₂ ∧ P (.ok a) c₁ ∧ F a r c₂) :
    Decided R (x >>= f) := by
  intro s
  obtain ⟨made, hmade, hdecided⟩ := hx s
  rw [run_bind]
  rcases hrun : run x s with ⟨e | a, t⟩ <;> rw [hrun] at hmade hdecided
  · refine ⟨made, hmade, fun r cs all hR hcs hmade => ?_⟩
    obtain ⟨a, c₁, c₂, rfl, hP, -⟩ := h r cs hR
    exact absurd (hdecided _ c₁ all hP ((List.prefix_append _ _).trans hcs) hmade).2 (by simp)
  · obtain ⟨made', hmade', hdecided'⟩ := hf a t
    refine ⟨made ++ made', hmade.trans hmade', fun r cs all hR hcs hall => ?_⟩
    obtain ⟨b, c₁, c₂, rfl, hP, hF⟩ := h r cs hR
    obtain ⟨rfl, hb⟩ := hdecided _ c₁ all hP ((List.prefix_append _ _).trans hcs)
      ((List.prefix_append _ _).trans hall)
    cases hb
    -- behind the calls of the first program the same holds of the second
    obtain ⟨rest, rfl⟩ := (List.prefix_append made _).trans hcs
    rw [List.prefix_append_right_inj] at hcs hall
    obtain ⟨rfl, hr⟩ := hdecided' r c₂ rest hF hcs hall
    exact ⟨rfl, hr⟩

omit [Link σ] in
/-- What makes no call and does not fail decides nothing. -/
theorem behind {f : α → Op σ δ β} (hx : Still x) (hf : ∀ a, Decided R (f a)) :
    Decided R (x >>= f) := by
  intro s
  obtain ⟨a, hrun, hmade⟩ := hx s
  obtain ⟨made, hmade', hdecided⟩ := hf a (run x s).2
  rw [run_bind_ok hrun]
  exact ⟨made, by simpa using hmade.trans hmade', hdecided⟩

omit [Link σ] in
/-- Results may be put in other words. -/
theorem imp (hx : Decided P x) (h : ∀ r cs, P' r cs → P r cs) : Decided P' x := by
  intro s
  obtain ⟨made, hmade, hdecided⟩ := hx s
  exact ⟨made, hmade, fun r cs all hP => hdecided r cs all (h r cs hP)⟩

omit [Link σ] in
theorem congr {y : Op σ δ α} (hy : Decided P y) (h : ∀ s, run x s = run y s) : Decided P x := by
  intro s
  rw [h s]
  exact hy s

omit [Link σ] in
/-- What is told the user about a failure decides nothing. -/
theorem warning {w : Warning} (hx : Decided P x) : Decided P (Session.warning w x) := by
  intro s
  obtain ⟨made, hmade, hdecided⟩ := hx s
  rw [run_warning]
  rcases hrun : run x s with ⟨e | a, t⟩ <;> rw [hrun] at hmade hdecided
  · exact ⟨made, hmade.quiet (made_warned [w] t), hdecided⟩
  · exact ⟨made, hmade, hdecided⟩

/-! ### Single calls -/

theorem attempt (c : Call) :
    Decided (fun r cs => ∃ got, cs = [(c, got)] ∧
      r = got.failure.elim (.ok ()) fun e => .error (.io e)) (Session.attempt c : Op σ δ Unit) :=
  call fun s => by
    rw [run_attempt_eq]
    exact ⟨made_called c s, rfl⟩

theorem pause (ms : Nat) :
    Decided (fun r cs => ∃ got, cs = [(.sleep ms, got)] ∧ r = .ok ())
      (Session.pause ms : Op σ δ Unit) :=
  call (f := fun _ => .ok ()) fun s => by
    rw [run_pause_eq]
    exact ⟨made_called (.sleep ms) s, rfl⟩

theorem transmit (data : Bytes) :
    Decided (fun r cs => ∃ got : Reply, cs = [(.write data, got)] ∧
      r = (got.fault got.accepted data.length).elim (.ok ()) .error)
        (Session.transmit data : Op σ δ Unit) :=
  call fun s => by
    rw [run_transmit]
    exact ⟨made_called (.write data) s, rfl⟩

theorem receive (n : Nat) :
    Decided (fun r cs => ∃ got : Reply, cs = [(.read n, got)] ∧
      r = .ok (Receipt.mk (got.received.take n)
        ((got.fault got.received.length n).elim (.ok ()) .error)))
        (Session.receive n : Op σ δ Receipt) :=
  call (f := fun got => .ok (Receipt.mk (got.received.take n)
      ((got.fault got.received.length n).elim (.ok ()) .error))) fun s => by
    rw [run_receive]
    exact ⟨made_called (.read n) s, rfl⟩

end Decided
end DiveLink.Session
