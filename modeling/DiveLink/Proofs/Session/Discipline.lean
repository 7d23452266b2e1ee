import DiveLink.Proofs.Session.Transcript

/-!
# Operations that keep a discipline

What an operation makes at a time, a whole exchange or a single call, is laid down by a discipline,
and so are the ways in which such a step may break off.  Whoever keeps to it makes whole steps only,
up to the one that breaks off, or up to where the operation is given up.  So it is known of every
operation which calls it made when it succeeds, and how they ended when it fails.

## Main definitions

* `Session.Made s t cs` — the calls that lead from one session to another.
* `Session.Discipline` — what is a whole step, and how a step may break off.
* `Session.Course` — calls that are whole steps up to the one that breaks off.
* `Session.Conducts` — a program that keeps a discipline.

## Main results

* `Session.Course.failsFast` — **whoever keeps a discipline fails fast.**
* `Session.Conducts.bind` — **programs one behind the other keep the discipline.**
-/

namespace DiveLink

/-- The error is neither of the link nor of the device: the request, the memory or the host is at
fault. -/
def DeviceError.isRefusal : DeviceError → Bool
  | invalidArgument _ | outOfMemory | dataFormat _ | unsupported => true
  | io _ | timeout | protocol _ | cancelled => false

/-- Nothing is gained from a second attempt at what is refused. -/
theorem DeviceError.isRetryable_of_refusal {e : DeviceError} (h : e.isRefusal = true) :
    e.isRetryable = false := by
  cases e with
  | io _ => exact absurd h Bool.false_ne_true
  | timeout => exact absurd h Bool.false_ne_true
  | _ => rfl

namespace Session

open Transcript

variable {σ δ α β : Type} {s t u : Session σ δ} {cs cs' : Transcript}

/-! ### Calls that were made -/

/-- From the session `s` to the session `t` the calls `cs` were made, under the same token. -/
structure Made (s t : Session σ δ) (cs : Transcript) : Prop where
  calls : t.calls = s.calls ++ cs
  token : t.token = s.token

theorem Made.refl (s : Session σ δ) : Made s s [] := ⟨by simp, rfl⟩

theorem Made.trans (h : Made s t cs) (h' : Made t u cs') : Made s u (cs ++ cs') where
  calls := by rw [h'.calls, h.calls, List.append_assoc]
  token := h'.token.trans h.token

/-- What makes no call may follow. -/
theorem Made.quiet (h : Made s t cs) (h' : Made t u []) : Made s u cs := by
  simpa using h.trans h'

theorem Grows.made {es : List Entry} (h : Grows s t es) : Made s t (es.filterMap Entry.call?) :=
  ⟨h.calls_eq, h.token⟩

theorem made_called [Link σ] (c : Call) (s : Session σ δ) :
    Made s (called c s) [(c, reply c s)] := (grows_called c s).made

theorem made_warned (ws : List Warning) (s : Session σ δ) : Made s (warned ws s) [] := by
  have h := (grows_warned ws s).made
  have hnone : (ws.map Entry.warning).filterMap Entry.call? = [] := by
    rw [List.filterMap_map]
    exact List.filterMap_eq_nil_iff.2 fun _ _ => rfl
  rwa [hnone] at h

/-! ### Disciplines -/

/-- What is a whole step of an operation, and with which calls and which error a step may break
off. -/
structure Discipline where
  whole : Transcript → Prop
  breaksOff : Transcript → DeviceError → Prop
  nil : whole []
  append : ∀ {cs cs'}, whole cs → whole cs' → whole (cs ++ cs')
  refuse : ∀ {e}, e.isRefusal = true → breaksOff [] e
  settled : ∀ {cs}, whole cs → Settled cs
  broken : ∀ {cs e}, breaksOff cs e → Broken cs e
  /-- An operation is given up between two steps, and not in one. -/
  kept : ∀ {cs}, ¬ breaksOff cs .cancelled

/-- The calls `cs` are whole steps up to the one that breaks off, if one does.  A result goes with
the calls by `P`.  If the token is cancelled the operation may be given up, behind calls with
`B`. -/
inductive Course [Link σ] (D : Discipline) (P : α → Transcript → Prop) (B : Transcript → Prop)
    (token : CancelToken) (link : σ) : Transcript → Except DeviceError α → Prop
  | done {cs : Transcript} {a : α} (hcs : D.whole cs) (h : P a cs) :
      Course D P B token link cs (.ok a)
  | broken {cs part : Transcript} {e : DeviceError} (hcs : D.whole cs)
      (h : D.breaksOff part e) : Course D P B token link (cs ++ part) (.error e)
  | givenUp {cs : Transcript} (hcs : D.whole cs) (h : Link.cancelled token link = true)
      (hB : B cs) : Course D P B token link cs (.error .cancelled)

variable [Link σ] {D : Discipline} {P P' : α → Transcript → Prop} {R : β → Transcript → Prop}
  {B : Transcript → Prop}

section Course

variable {token : CancelToken} {link : σ}

/-- The first step breaks off. -/
theorem Course.first {part : Transcript} {e : DeviceError} (h : D.breaksOff part e) :
    Course D P B token link part (.error e) := .broken D.nil h

/-- **Whoever keeps a discipline fails fast.** -/
theorem Course.failsFast {r : Except DeviceError α} (h : Course D P B token link cs r) :
    FailsFast cs r := by
  cases h with
  | done hcs _ => exact .of_clean (D.settled hcs).clean (by simp)
  | broken hcs h => exact (D.broken h).failsFast (D.settled hcs)
  | givenUp hcs =>
    refine .of_clean (D.settled hcs).clean fun e he => ?_
    cases he
    rfl

/-- Where an operation fails, there is no result for the calls to go with. -/
theorem Course.of_error {e : DeviceError}
    (h : Course D P B token link cs (.error e : Except DeviceError α)) :
    Course D R B token link cs (.error e : Except DeviceError β) := by
  cases h with
  | broken hcs hb => exact .broken hcs hb
  | givenUp hcs hc hB => exact .givenUp hcs hc hB

/-- More calls behind whole steps. -/
theorem Course.prepend {r : Except DeviceError β} (hcs : D.whole cs)
    (h : Course D (fun b cs' => R b (cs ++ cs')) (fun cs' => B (cs ++ cs')) token link cs' r) :
    Course D R B token link (cs ++ cs') r := by
  cases h with
  | done hcs' hR => exact .done (D.append hcs hcs') hR
  | broken hcs' hb =>
    rw [← List.append_assoc]
    exact .broken (D.append hcs hcs') hb
  | givenUp hcs' hc hB => exact .givenUp (D.append hcs hcs') hc hB

/-- An operation that is given up has made whole steps. -/
theorem Course.of_cancelled (h : Course D P B token link cs (.error .cancelled)) :
    Link.cancelled token link = true ∧ B cs := by
  cases h with
  | broken _ h => exact absurd h D.kept
  | givenUp _ h hB => exact ⟨h, hB⟩

end Course

/-- The program `x` keeps a discipline, a result goes with the calls by `P`, and it is given up only
behind calls with `B`. -/
def Conducts (D : Discipline) (P : α → Transcript → Prop) (B : Transcript → Prop)
    (x : Op σ δ α) : Prop :=
  ∀ s, ∃ cs, Made s (run x s).2 cs ∧
    Course D P B (run x s).2.token (run x s).2.link cs (run x s).1

namespace Conducts

variable {x : Op σ δ α}

/-- What is known about the calls of a program that succeeds. -/
theorem of_ok (hx : Conducts D P B x) (s : Session σ δ) :
    ∃ cs, Made s (run x s).2 cs ∧ ∀ a, (run x s).1 = .ok a → P a cs := by
  obtain ⟨cs, hmade, hcourse⟩ := hx s
  refine ⟨cs, hmade, fun a ha => ?_⟩
  rw [ha] at hcourse
  cases hcourse with
  | done _ hP => exact hP

/-- What is known about the calls may be put in other words. -/
theorem imp (hx : Conducts D P B x) (h : ∀ a cs, P a cs → P' a cs) : Conducts D P' B x := by
  intro s
  obtain ⟨cs, hmade, hcourse⟩ := hx s
  refine ⟨cs, hmade, ?_⟩
  generalize (run x s).1 = r at hcourse ⊢
  cases r with
  | error e => exact hcourse.of_error
  | ok a =>
    cases hcourse with
    | done hcs hP => exact .done hcs (h _ _ hP)

/-- Programs that run alike keep the same discipline. -/
theorem congr {y : Op σ δ α} (hy : Conducts D P B y) (h : ∀ s, run x s = run y s) :
    Conducts D P B x := by
  intro s
  rw [h s]
  exact hy s

/-! ### Programs put together -/

theorem pure {a : α} (h : P a []) : Conducts D P B (pure a : Op σ δ α) :=
  fun s => ⟨[], .refl s, .done D.nil h⟩

theorem refuse {e : DeviceError} (h : e.isRefusal = true) : Conducts D P B (throw e : Op σ δ α) :=
  fun s => ⟨[], .refl s, .first (D.refuse h)⟩

/-- **Programs one behind the other keep the discipline.**  What is to be known of the calls of both
is shown for the second with those of the first in front. -/
theorem bind {f : α → Op σ δ β} (hx : Conducts D P B x)
    (hf : ∀ a cs, P a cs →
      Conducts D (fun b cs' => R b (cs ++ cs')) (fun cs' => B (cs ++ cs')) (f a)) :
    Conducts D R B (x >>= f) := by
  intro s
  obtain ⟨cs, hmade, hcourse⟩ := hx s
  rw [run_bind]
  rcases hrun : run x s with ⟨e | a, t⟩ <;> rw [hrun] at hmade hcourse
  · exact ⟨cs, hmade, hcourse.of_error⟩
  · cases hcourse with
    | done hcs hP =>
      obtain ⟨cs', hmade', hcourse'⟩ := hf a cs hP t
      exact ⟨cs ++ cs', hmade.trans hmade', hcourse'.prepend hcs⟩

/-- A result that is put in another form. -/
theorem returning {f : α → β} (hx : Conducts D P B x) (h : ∀ a cs, P a cs → R (f a) cs) :
    Conducts D R B (x >>= fun a => Pure.pure (f a)) :=
  hx.bind fun a cs hP => .pure (by rw [List.append_nil]; exact h a cs hP)

theorem map {f : α → β} (hx : Conducts D P B x) (h : ∀ a cs, P a cs → R (f a) cs) :
    Conducts D R B (f <$> x) := by
  rw [← bind_pure_comp]
  exact hx.returning h

/-- A program behind one that makes no call. -/
theorem behind {f : α → Op σ δ β} (hx : Conducts D (fun _ cs => cs = []) B x)
    (hf : ∀ a, Conducts D R B (f a)) : Conducts D R B (x >>= f) := by
  refine hx.bind ?_
  rintro a cs rfl
  exact hf a

/-- What is told the user about a failure is no call. -/
theorem warning {w : Warning} (hx : Conducts D P B x) : Conducts D P B (Session.warning w x) := by
  intro s
  obtain ⟨cs, hmade, hcourse⟩ := hx s
  rw [run_warning]
  rcases hrun : run x s with ⟨e | a, t⟩ <;> rw [hrun] at hmade hcourse
  · exact ⟨cs, hmade.quiet (made_warned [w] t), hcourse⟩
  · exact ⟨cs, hmade, hcourse⟩

/-- A program that makes no call may look at what came of another, and fail over it. -/
theorem judge {f : α → Op σ δ β} (hx : Conducts D P B x)
    (hf : ∀ a s, Made s (run (f a) s).2 [] ∧
      ((∃ b, (run (f a) s).1 = .ok b ∧ ∀ cs, P a cs → R b cs) ∨
        ∃ e, (run (f a) s).1 = .error e ∧ ∀ cs, P a cs → D.breaksOff cs e)) :
    Conducts D R B (x >>= f) := by
  intro s
  obtain ⟨cs, hmade, hcourse⟩ := hx s
  rw [run_bind]
  rcases hrun : run x s with ⟨e | a, t⟩ <;> rw [hrun] at hmade hcourse
  · exact ⟨cs, hmade, hcourse.of_error⟩
  · cases hcourse with
    | done hcs hP =>
      obtain ⟨hmade', ⟨b, hb, hR⟩ | ⟨e, he, hR⟩⟩ := hf a t
      · refine ⟨cs, hmade.quiet hmade', ?_⟩
        dsimp only
        rw [hb]
        exact .done hcs (hR cs hP)
      · refine ⟨cs, hmade.quiet hmade', ?_⟩
        dsimp only
        rw [he]
        exact .broken D.nil (hR cs hP)

/-! ### Steps that make no call -/

/-- A program that makes no call, and fails at most for a reason of its own. -/
theorem still (h : ∀ s, Made s (run x s).2 [] ∧ ∀ e, (run x s).1 = .error e → e.isRefusal = true) :
    Conducts D (fun _ cs => cs = []) B x := by
  intro s
  obtain ⟨hmade, hrefuse⟩ := h s
  refine ⟨[], hmade, ?_⟩
  generalize (run x s).1 = r at hrefuse ⊢
  cases r with
  | error e => exact .first (D.refuse (hrefuse e rfl))
  | ok a => exact .done D.nil rfl

theorem get : Conducts D (fun _ cs => cs = []) B (get : Op σ δ (Session σ δ)) :=
  still fun s => ⟨.refl s, by simp⟩

theorem now : Conducts D (fun _ cs => cs = []) B (now : Op σ δ Int) :=
  get.returning fun _ _ h => h

/-- What is remembered about the device makes no call. -/
theorem remember (f : δ → δ) : Conducts D (fun _ cs => cs = []) B
    (modify fun s => { s with device := f s.device } : Op σ δ Unit) :=
  still fun s => ⟨⟨by simp [calls, history], rfl⟩, by simp⟩

theorem record (ws : List Warning) :
    Conducts D (fun _ cs => cs = []) B (record (ws.map .warning) : Op σ δ Unit) :=
  still fun s => ⟨made_warned ws s, by simp⟩

theorem emit (e : Event) : Conducts D (fun _ cs => cs = []) B (emit e : Op σ δ Unit) := by
  refine still fun s => ?_
  rw [run_emit]
  refine ⟨?_, by simp⟩
  split
  · exact (grows_record [.event e] s).made
  · exact .refl s

theorem reject (f : DataFault) : Conducts D P B (reject f : Op σ δ α) :=
  (record f.warning.toList).behind fun _ => .refuse rfl

/-- Dives that are handed out make no call; a walk may end in a fault of the memory. -/
theorem report (w : Walk) :
    Conducts D (fun _ cs => cs = []) B (report w : Op σ δ (List Dive)) := by
  refine still fun s => ⟨⟨?_, (run_report w s).2.token⟩, ?_⟩
  · rw [calls_report, List.append_nil]
  · rw [(run_report w s).1]
    cases w.fault with
    | none => simp
    | some f =>
      rintro e he
      cases he
      rfl

end Conducts

/-! ### Transfers into a buffer -/

/-- A transfer into a buffer of the caller, of which only matters how it ends. -/
def ending (x : Op σ δ Receipt) : Op σ δ Unit := do
  lift (← x).outcome

/-- A transfer that delivers all or nothing ends as the program does that brings the bytes. -/
theorem Conducts.ending_whole {x : Op σ δ Bytes} {P : Bytes → Transcript → Prop}
    (hx : Conducts D P B x) :
    Conducts D (fun _ _ => True) B (ending (Receipt.whole <$> x)) := by
  refine (hx.map (f := fun _ => ()) fun _ _ _ => trivial).congr fun s => ?_
  rw [ending, run_bind, run_map, run_map]
  rcases run x s with ⟨e | a, t⟩ <;> rfl

end Session
end DiveLink
