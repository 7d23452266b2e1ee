/-!
# Programs side by side

Two programs run on two states that are alike in some way.  If whatever they do leaves the states
alike and comes to the same end on both, then so do the programs that are put together from them.

## Main definitions

* `EndsAlike S V` — two ends of programs: values that `V` relates or the same error, and states that
  `S` relates.
* `Parallel S V x y` — the programs `x` and `y` end alike on all states that are alike.

## Main results

* `Parallel.bind`, `Parallel.tryCatch` — **what is put together from programs that run in parallel
  runs in parallel.**
-/

namespace DiveLink

variable {ε σ ρ α β α' β' : Type} {S : σ → ρ → Prop}

/-- Two programs ended alike. -/
inductive EndsAlike (S : σ → ρ → Prop) (V : α → β → Prop) :
    EStateM.Result ε σ α → EStateM.Result ε ρ β → Prop
  | ok {a b s t} (value : V a b) (state : S s t) : EndsAlike S V (.ok a s) (.ok b t)
  | error (e : ε) {s t} (state : S s t) : EndsAlike S V (.error e s) (.error e t)

/-- Two programs end alike wherever they begin on states that are alike. -/
def Parallel (S : σ → ρ → Prop) (V : α → β → Prop) (x : EStateM ε σ α) (y : EStateM ε ρ β) : Prop :=
  ∀ s t, S s t → EndsAlike S V (x s) (y t)

namespace Parallel

variable {V : α → β → Prop} {W : α' → β' → Prop} {x : EStateM ε σ α} {y : EStateM ε ρ β}

theorem pure {a : α} {b : β} (h : V a b) :
    Parallel S V (pure a : EStateM ε σ α) (pure b : EStateM ε ρ β) := fun _ _ hs => .ok h hs

theorem throw (e : ε) : Parallel S V (throw e : EStateM ε σ α) (throw e : EStateM ε ρ β) :=
  fun _ _ hs => .error e hs

theorem get : Parallel S S (get : EStateM ε σ σ) (get : EStateM ε ρ ρ) := fun _ _ hs => .ok hs hs

theorem modify {f : σ → σ} {g : ρ → ρ} (h : ∀ {s t}, S s t → S (f s) (g t)) :
    Parallel S Eq (modify f : EStateM ε σ PUnit) (modify g : EStateM ε ρ PUnit) :=
  fun _ _ hs => .ok rfl (h hs)

theorem bind {f : α → EStateM ε σ α'} {g : β → EStateM ε ρ β'} (h : Parallel S V x y)
    (hf : ∀ {a b}, V a b → Parallel S W (f a) (g b)) : Parallel S W (x >>= f) (y >>= g) := by
  intro s t hs
  have hends := h s t hs
  simp only [Bind.bind, EStateM.bind]
  generalize x s = r at hends
  generalize y t = r' at hends
  cases hends with
  | ok value state => exact hf value _ _ state
  | error e state => exact .error e state

/-- A program whose value is of no matter. -/
theorem andThen {f : α → EStateM ε σ α'} {g : α → EStateM ε ρ β'} {y : EStateM ε ρ α}
    (h : Parallel S Eq x y) (hf : ∀ a, Parallel S W (f a) (g a)) :
    Parallel S W (x >>= f) (y >>= g) :=
  h.bind fun h => h ▸ hf _

theorem map {f : α → α'} {g : β → β'} (h : Parallel S V x y) (hf : ∀ {a b}, V a b → W (f a) (g b)) :
    Parallel S W (f <$> x) (g <$> y) := by
  rw [← bind_pure_comp, ← bind_pure_comp]
  exact h.bind fun hv => .pure (hf hv)

theorem tryCatch {f : ε → EStateM ε σ α} {g : ε → EStateM ε ρ β} (h : Parallel S V x y)
    (hf : ∀ e, Parallel S V (f e) (g e)) : Parallel S V (tryCatch x f) (tryCatch y g) := by
  intro s t hs
  have hends := h s t hs
  show EndsAlike S V (EStateM.tryCatch x f s) (EStateM.tryCatch y g t)
  delta EStateM.tryCatch
  generalize x s = r at hends
  generalize y t = r' at hends
  cases hends with
  | ok value state => exact .ok value state
  | error e state => exact hf e _ _ state

end Parallel

end DiveLink
