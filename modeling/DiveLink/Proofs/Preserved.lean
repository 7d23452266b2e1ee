/-!
# What a program leaves alone

A program may fail on the way, and what it has done until then stays.  So a part of the state is
preserved if it is the same behind the program, whichever way that ends.

## Main definitions

* `stateBehind` — the state behind a program.
* `Preserves` — programs that leave a part of the state as it was.

## Main results

* `Preserves.view_bind` — of two programs in a row, the second one makes no difference to what it
  preserves.
* `Preserves.bind` — what both preserve is preserved.
-/

namespace DiveLink

variable {ε τ ν α β : Type}

/-- The state behind a program, whichever way it ends. -/
def stateBehind (x : EStateM ε τ α) (s : τ) : τ :=
  match x s with
  | .ok _ t | .error _ t => t

theorem stateBehind_bind (x : EStateM ε τ α) (f : α → EStateM ε τ β) (s : τ) :
    stateBehind (x >>= f) s =
      match x s with
      | .ok a t => stateBehind (f a) t
      | .error _ t => t := by
  simp only [stateBehind, Bind.bind, EStateM.bind]
  cases x s <;> rfl

/-- The program leaves what `view` sees of the state as it was, whichever way it ends. -/
def Preserves (view : τ → ν) (x : EStateM ε τ α) : Prop := ∀ s, view (stateBehind x s) = view s

namespace Preserves

variable {view : τ → ν}

theorem pure (a : α) : Preserves view (pure a : EStateM ε τ α) := fun _ => rfl

theorem throw (e : ε) : Preserves view (throw e : EStateM ε τ α) := fun _ => rfl

theorem get : Preserves view (get : EStateM ε τ τ) := fun _ => rfl

theorem modify {f : τ → τ} (hf : ∀ s, view (f s) = view s) :
    Preserves view (modify f : EStateM ε τ PUnit) := hf

/-- A program that preserves something makes no difference to it at the end. -/
theorem view_bind {f : α → EStateM ε τ β} (hf : ∀ a, Preserves view (f a)) (x : EStateM ε τ α)
    (s : τ) : view (stateBehind (x >>= f) s) = view (stateBehind x s) := by
  rw [stateBehind_bind]
  unfold stateBehind
  cases x s with
  | ok a t => exact hf a t
  | error e t => rfl

theorem bind {x : EStateM ε τ α} {f : α → EStateM ε τ β} (hx : Preserves view x)
    (hf : ∀ a, Preserves view (f a)) : Preserves view (x >>= f) :=
  fun s => (view_bind hf x s).trans (hx s)

end Preserves
end DiveLink
