import DiveLink.Packet
import DiveLink.Proofs.Session.Exchange

/-!
# Programs under guard

On a machine a number that is taken from a smaller one, a sum that leaves its word, and bytes that
are taken from beyond a buffer stop a program.  Here a program is written out with a guard in front
of each such step.  If no guard ever stops it, then it runs as the program without them.

## Main definitions

* `Guarded.sub?`, `add?`, `mul?`, `part?`, `put?`, `word?` — steps that a machine does not do in all
  cases.
* `Session.Passes x y` — no guard stops the program `x`, which runs as `y`.
* `Packet.check?`, `Packet.ask?` — the check of an answer, and an exchange, under guard.

## Main results

* `Session.Passes.bind` — programs that no guard stops, one behind the other.
* `Packet.check?_eq` — **no guard stops the check of an answer**, whatever the command and the
  answer are.
* `Packet.passes_ask` — no guard stops an exchange.
-/

namespace DiveLink

/-! ### Steps under guard -/

namespace Guarded

/-- A difference that is not below zero. -/
def sub? (a b : Nat) : Option Nat := if b ≤ a then some (a - b) else none

/-- A sum that fits a word of thirty-two bits. -/
def add? (a b : Nat) : Option Nat := if a + b < 4294967296 then some (a + b) else none

/-- A product that fits a word of sixty-four bits. -/
def mul? (a b : Nat) : Option Nat :=
  if a * b < 18446744073709551616 then some (a * b) else none

/-- The bytes from `i` on and in front of `j`, if that is a range of the bytes. -/
def part? (b : Bytes) (i j : Nat) : Option Bytes :=
  if i ≤ j ∧ j ≤ b.length then some (b.slice i (j - i)) else none

/-- The bytes with `x` in place of those from `i` on, if these are as many. -/
def put? (b : Bytes) (i : Nat) (x : Bytes) : Option Bytes :=
  if i + x.length ≤ b.length then some (b.take i ++ x ++ b.drop (i + x.length)) else none

/-- The number in the two bytes from `i` on, least significant byte first. -/
def word? (b : Bytes) (i : Nat) : Option Nat := (part? b i b.length).bind Bytes.le16?

variable {a b i j : Nat} {data x : Bytes}

theorem sub?_eq (h : b ≤ a) : sub? a b = some (a - b) := if_pos h

theorem add?_eq (h : a + b < 4294967296) : add? a b = some (a + b) := if_pos h

theorem mul?_eq (h : a * b < 18446744073709551616) : mul? a b = some (a * b) := if_pos h

theorem part?_eq (h : i ≤ j) (h' : j ≤ data.length) :
    part? data i j = some (data.slice i (j - i)) := if_pos ⟨h, h'⟩

/-- The bytes from `i` on. -/
theorem part?_drop (h : i ≤ data.length) : part? data i data.length = some (data.drop i) := by
  rw [part?_eq h (Nat.le_refl _), Bytes.slice, List.take_of_length_le]
  exact Nat.le_of_eq List.length_drop

/-- The bytes in front of `j`. -/
theorem part?_take (h : j ≤ data.length) : part? data 0 j = some (data.take j) := by
  rw [part?_eq (Nat.zero_le _) h, Bytes.slice, List.drop_zero, Nat.sub_zero]

theorem put?_eq (h : i + x.length ≤ data.length) :
    put? data i x = some (data.take i ++ x ++ data.drop (i + x.length)) := if_pos h

theorem word?_eq (h : i + 2 ≤ data.length) : word? data i = some (Bytes.le16 (data.drop i)) := by
  have hbytes : 2 ≤ (data.drop i).length := by rw [List.length_drop]; omega
  rw [word?, part?_drop (by omega), Option.bind_some]
  exact if_pos hbytes

theorem be16?_eq (h : 2 ≤ data.length) : data.be16? = some data.be16 := if_pos h

theorem be24?_eq (h : 3 ≤ data.length) : data.be24? = some data.be24 := if_pos h

/-- Programs with a guard and without go the same way at a decision if they do where it is not
taken. -/
theorem ite_eq_some {α β : Type} {p : Prop} [Decidable p] {x : Option β} {a b : α} {a' : β}
    (f : α → β) (ha : a' = f a) (h : ¬ p → x = some (f b)) :
    (if p then some a' else x) = some (f (if p then a else b)) := by
  by_cases hp : p
  · rw [if_pos hp, if_pos hp, ha]
  · rw [if_neg hp, if_neg hp, h hp]

end Guarded

/-! ### Programs that no guard stops -/

namespace Session

variable {σ δ α β : Type}

/-- What a guard lets through. -/
def sure (x : Option α) : OptionT (Op σ δ) α := OptionT.mk (pure x)

/-- A program without guards runs in front of one under guard as it does by itself. -/
theorem run_lift_bind (y : Op σ δ α) (f : α → OptionT (Op σ δ) β) (s : Session σ δ) :
    run (OptionT.lift y >>= f).run s = run (y >>= fun a => (f a).run) s := by
  rw [OptionT.run_bind, OptionT.run_lift, Option.elimM, bind_assoc]
  simp only [pure_bind, Option.elim_some]

/-- No guard stops the program `x`, which runs as `y`. -/
def Passes (x : OptionT (Op σ δ) α) (y : Op σ δ α) : Prop :=
  ∀ s, run x.run s = ((run y s).1.map some, (run y s).2)

namespace Passes

theorem pure (a : α) : Passes (pure a : OptionT (Op σ δ) α) (pure a) := fun _ => rfl

/-- A program without guards. -/
theorem lift (y : Op σ δ α) : Passes (OptionT.lift y) y := by
  intro s
  show run (some <$> y) s = _
  rw [run_map]

theorem congr {x : OptionT (Op σ δ) α} {y y' : Op σ δ α} (h : Passes x y')
    (heq : ∀ s, run y s = run y' s) : Passes x y := by
  intro s
  rw [heq s]
  exact h s

/-- A guard that lets its step through. -/
theorem sure {r : Option α} {a : α} {f : α → OptionT (Op σ δ) β} {y : Op σ δ β} (h : r = some a)
    (hf : Passes (f a) y) : Passes (Session.sure r >>= f) y := by
  subst h
  exact hf

/-- **Programs that no guard stops, one behind the other.**  Of what the first one gives may be used
all that is known of it. -/
theorem bind {x : OptionT (Op σ δ) α} {y : Op σ δ α} {f : α → OptionT (Op σ δ) β}
    {g : α → Op σ δ β} (hx : Passes x y)
    (hf : ∀ a, (∃ s t, run y s = (.ok a, t)) → Passes (f a) (g a)) :
    Passes (x >>= f) (y >>= g) := by
  intro s
  have hbind : (x >>= f).run = x.run >>= fun r => r.elim (Pure.pure none) fun a => (f a).run := by
    rw [OptionT.run_bind]
    refine bind_congr fun r => ?_
    cases r <;> rfl
  rw [hbind, run_bind, hx s, run_bind]
  rcases hrun : run y s with ⟨e | a, t⟩
  · rfl
  · exact hf a ⟨s, t, hrun⟩ t

/-- A program without guards in front of one that no guard stops. -/
theorem behind (y : Op σ δ α) {f : α → OptionT (Op σ δ) β} {g : α → Op σ δ β}
    (hf : ∀ a, Passes (f a) (g a)) : Passes (OptionT.lift y >>= f) (y >>= g) :=
  (lift y).bind fun a _ => hf a

end Passes
end Session

/-! ### Exchanges under guard -/

namespace Packet

open Guarded Session

/-- `check` with a guard in front of each step. -/
def check? (command answer : Bytes) (size : Nat) : Option (Except AnswerFault Unit) :=
  if command = [] ∨ answer.length < overhead + size then some (.error .tooShort)
  else do
    let header ← answer[0]?
    let expected ← command[0]?
    if header ≠ expected then return .error .header
    let length := (← (← part? answer 1 answer.length).be16?) + overhead
    if length ≠ answer.length then return .error .size
    let n ← sub? (← sub? answer.length size) overhead
    if command.length < 3 + n then return .error .parameters
    if (← part? command 3 (3 + n)) ≠ (← part? answer 3 (3 + n)) then return .error .parameters
    let last ← sub? answer.length 1
    let checksum ← answer[last]?
    if checksum ≠ Checksum.xorSum 0 (← part? answer 0 last) then return .error .checksum
    return .ok ()

/-- **No guard stops the check of an answer.** -/
theorem check?_eq (command answer : Bytes) (size : Nat) :
    check? command answer size = some (check command answer size) := by
  unfold check? check
  refine ite_eq_some id rfl fun hshort => ?_
  obtain ⟨hcommand, hlength⟩ := not_or.1 hshort
  unfold overhead at hlength ⊢
  obtain ⟨c, cs, rfl⟩ := List.exists_cons_of_ne_nil hcommand
  obtain ⟨a, as, rfl⟩ := List.exists_cons_of_length_pos (show 0 < answer.length by omega)
  -- each number is one that the guards let through
  have hbytes : 3 ≤ as.length := by
    rw [List.length_cons] at hlength
    omega
  have hsize := part?_drop (show 1 ≤ (a :: as).length by simp)
  have hnumber : Bytes.be16? ((a :: as).drop 1) = some (Bytes.be16 ((a :: as).drop 1)) :=
    be16?_eq (by simp; omega)
  have hrest := sub?_eq (show size ≤ (a :: as).length by omega)
  have hn := sub?_eq (show 4 ≤ (a :: as).length - size by omega)
  have hlast := sub?_eq (show 1 ≤ (a :: as).length by simp)
  have hsum : (a :: as)[(a :: as).length - 1]? = (a :: as).getLast? := by
    rw [List.getLast?_eq_getElem?]
  have hbody := part?_take (show (a :: as).length - 1 ≤ (a :: as).length by omega)
  rw [← List.dropLast_eq_take] at hbody
  obtain ⟨n, hn'⟩ : ∃ n, n = (a :: as).length - size - 4 := ⟨_, rfl⟩
  have hechoed := part?_eq (show 3 ≤ 3 + n by omega) (show 3 + n ≤ (a :: as).length by omega)
  rw [Nat.add_sub_cancel_left] at hechoed
  simp only [List.getElem?_cons_zero, Option.bind_eq_bind, Option.bind_some, hsize, hnumber, hrest,
    hn, hlast, hsum, hbody, List.head?_cons, ← hn', hechoed, Option.pure_def, ne_eq,
    Option.some.injEq]
  -- the two go the same way at each step of the check
  refine ite_eq_some id rfl fun _ => ite_eq_some id rfl fun _ => ?_
  by_cases hlong : (c :: cs).length < 3 + n
  · rw [if_pos hlong, if_pos (.inl hlong)]
    rfl
  have hsent := part?_eq (show 3 ≤ 3 + n by omega) (Nat.not_lt.1 hlong)
  rw [if_neg hlong, hsent, Option.bind_some, Nat.add_sub_cancel_left]
  simp only [hlong, false_or, List.getLast?_eq_some_getLast (List.cons_ne_nil a as),
    Option.bind_some, Option.some.injEq]
  exact ite_eq_some id rfl fun _ => ite_eq_some id rfl fun _ => rfl

variable {σ δ : Type} [Link σ]

/-- `ask` with the check of the answer under guard. -/
def ask? (settle : Nat) (command : Bytes) (parameters size : Nat) : OptionT (Op σ δ) Bytes := do
  match ← OptionT.lift (outcome (send settle command)) with
  | .error e => OptionT.lift (throw e)
  | .ok () =>
    let answer ← OptionT.lift (receive (overhead + parameters + size))
    match answer.outcome with
    | .error e => OptionT.lift (warn .receive >>= fun _ => throw e)
    | .ok () =>
      match ← sure (check? command answer.bytes size) with
      | .ok () => return answer.bytes
      | .error f =>
        OptionT.lift (record (f.warning.toList.map .warning) >>= fun _ => throw (.protocol f.error))

/-- **No guard stops an exchange.** -/
theorem passes_ask (settle : Nat) (command : Bytes) (parameters size : Nat) :
    Passes (ask? settle command parameters size : OptionT (Op σ δ) Bytes)
      (ask settle command parameters size) := by
  unfold ask? ask exchange
  rw [bind_assoc]
  apply Passes.behind
  intro sent
  cases sent with
  | error e => exact (Passes.lift _).congr fun _ => rfl
  | ok =>
    dsimp only
    rw [bind_assoc]
    apply Passes.behind
    rintro ⟨bytes, _ | _⟩
    · exact (Passes.lift _).congr fun _ => rfl
    · apply Passes.sure (check?_eq command bytes size)
      dsimp only
      cases check command bytes size with
      | ok => exact (Passes.pure bytes).congr fun _ => rfl
      | error f => exact (Passes.lift _).congr fun _ => rfl

end Packet
end DiveLink
