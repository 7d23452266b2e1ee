import DiveLink.Session

/-!
# How programs run in a session

One equation for each step of a program says what comes of it in a given session and which session
it leaves behind, so that what a whole program does is read off step by step.

## Main statements

* `Session.run_bind_ok`, `Session.run_bind_error` — a program goes on behind a step that succeeds,
  and ends at one that fails.
* `Session.run_outcome`, `Session.run_warning` — what is done about a failure.
* `Session.run_perform`, `Session.run_attempt` — calls to the link.
-/

namespace DiveLink.Session

variable {σ δ α β : Type}

/-! ### Steps one after the other -/

@[simp] theorem run_pure (a : α) (s : Session σ δ) : run (pure a) s = (.ok a, s) := rfl

@[simp] theorem run_throw (e : DeviceError) (s : Session σ δ) :
    run (throw e : Op σ δ α) s = (.error e, s) := rfl

theorem run_bind (x : Op σ δ α) (f : α → Op σ δ β) (s : Session σ δ) :
    run (x >>= f) s =
      match run x s with
      | (.ok a, s) => run (f a) s
      | (.error e, s) => (.error e, s) := by
  simp only [run, bind, EStateM.bind]
  cases x s <;> rfl

theorem run_bind_ok {x : Op σ δ α} {s t : Session σ δ} {a : α} (h : run x s = (.ok a, t))
    (f : α → Op σ δ β) : run (x >>= f) s = run (f a) t := by
  rw [run_bind, h]

theorem run_bind_error {x : Op σ δ α} {s t : Session σ δ} {e : DeviceError}
    (h : run x s = (.error e, t)) (f : α → Op σ δ β) : run (x >>= f) s = (.error e, t) := by
  rw [run_bind, h]

/-! ### The session itself -/

@[simp] theorem run_get (s : Session σ δ) : run get s = (.ok s, s) := rfl

@[simp] theorem run_set (t s : Session σ δ) : run (set t) s = (.ok (), t) := rfl

@[simp] theorem run_modify (f : Session σ δ → Session σ δ) (s : Session σ δ) :
    run (modify f) s = (.ok (), f s) := rfl

/-! ### Failures -/

@[simp] theorem run_map (g : α → β) (x : Op σ δ α) (s : Session σ δ) :
    run (g <$> x) s = ((run x s).1.map g, (run x s).2) := by
  simp only [run, Functor.map, EStateM.map]
  cases x s <;> rfl

theorem run_tryCatch (x : Op σ δ α) (handle : DeviceError → Op σ δ α) (s : Session σ δ) :
    run (tryCatch x handle) s =
      match run x s with
      | (.ok a, t) => (.ok a, t)
      | (.error e, t) => run (handle e) t := by
  have h : (tryCatch x handle : Op σ δ α) s = EStateM.tryCatch x handle s := rfl
  unfold run
  rw [h]
  delta EStateM.tryCatch
  cases x s <;> rfl

@[simp] theorem run_outcome (x : Op σ δ α) (s : Session σ δ) :
    run (outcome x) s = (.ok (run x s).1, (run x s).2) := by
  rw [outcome, run_tryCatch, run_map]
  rcases run x s with ⟨_ | _, _⟩ <;> rfl

/-! ### What is noted -/

@[simp] theorem run_record (es : List Entry) (s : Session σ δ) :
    run (record es) s = (.ok (), { s with past := es.reverse ++ s.past }) := rfl

@[simp] theorem run_warn (w : Warning) (s : Session σ δ) :
    run (warn w) s = (.ok (), { s with past := .warning w :: s.past }) := rfl

theorem run_emit (e : Event) (s : Session σ δ) :
    run (emit e) s =
      (.ok (), if s.listening then { s with past := .event e :: s.past } else s) := by
  unfold emit
  rw [run_bind_ok (run_get s)]
  split <;> rfl

theorem run_warning (w : Warning) (x : Op σ δ α) (s : Session σ δ) :
    run (warning w x) s =
      match run x s with
      | (.ok a, t) => (.ok a, t)
      | (.error e, t) => (.error e, { t with past := .warning w :: t.past }) := by
  rw [warning, run_tryCatch]
  rcases run x s with ⟨_ | _, _⟩ <;> rfl

@[simp] theorem run_lift (r : Except DeviceError α) (s : Session σ δ) :
    run (lift r) s = (r, s) := by
  cases r <;> rfl

@[simp] theorem run_reject (f : DataFault) (s : Session σ δ) :
    run (reject f : Op σ δ α) s =
      (.error (.dataFormat f),
        { s with past := (f.warning.toList.map .warning).reverse ++ s.past }) := rfl

/-! ### Calls -/

variable [Link σ]

@[simp] theorem run_perform (c : Call) (s : Session σ δ) :
    run (perform c) s =
      (.ok (Link.call c s.link).1,
        { s with
          link := (Link.call c s.link).2
          past := .call c (Link.call c s.link).1 :: s.past }) := rfl

theorem run_attempt (c : Call) (s : Session σ δ) :
    run (attempt c) s =
      ((Link.call c s.link).1.failure.elim (.ok ()) fun e => .error (.io e),
        { s with
          link := (Link.call c s.link).2
          past := .call c (Link.call c s.link).1 :: s.past }) := by
  unfold attempt
  rw [run_bind_ok (run_perform c s)]
  cases (Link.call c s.link).1.failure <;> rfl

@[simp] theorem run_isCancelled (s : Session σ δ) :
    run isCancelled s = (.ok (Link.cancelled s.token s.link), s) := rfl

end DiveLink.Session
