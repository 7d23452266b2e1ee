import DiveLink.Text.Digits
import Mathlib.Data.List.Forall2
import Mathlib.Data.Nat.Digits.Defs
import Mathlib.Tactic.Ring

/-!
# Numerals

A numeral stands for the sum of its digits, each times a power of the radix.  A reader that keeps
the number in a machine word has to give up as soon as the number does not fit any more; as numbers
only grow from digit to digit, that is the same as to look at the size at the end.

## Main definitions

* `Digits.IsDigit`, `Digits.Numeral` — the digits of a radix, and what a row of them stands for.
* `Digits.word?` — reads a numeral into a word.

## Main results

* `Digits.ofChar?_eq_some_iff` — which characters are the digit of a value.
* `Digits.value?_eq_some_iff` — **numerals are read as what they stand for**, and nothing else is
  read.
* `Digits.word?_eq` — a word takes the numbers that fit into it.
* `Digits.value?_write` — a number is read back from its digits.
-/

namespace DiveLink.Digits

/-! ### Characters -/

/-- What holds of the first 128 characters and of those behind them holds of all. -/
theorem forall_char {p : Char → Prop} (hfirst : ∀ n < 128, p (Char.ofNat n))
    (hlater : ∀ c : Char, 128 ≤ c.toNat → p c) (c : Char) : p c := by
  rcases Nat.lt_or_ge c.toNat 128 with h | h
  · have hc := hfirst c.toNat h
    rwa [Char.ofNat_toNat] at hc
  · exact hlater c h

theorem toNat_toChar_lt {d : Nat} (hd : d < 36) : (toChar d).toNat < 128 := by
  have all : ∀ d < 36, (toChar d).toNat < 128 := by decide +kernel
  exact all d hd

/-- A digit is a character that leaves ink. -/
theorem blank_lt_toChar {d : Nat} (hd : d < 36) : ' ' < toChar d := by
  have all : ∀ d < 36, ' ' < toChar d := by decide +kernel
  exact all d hd

theorem ofChar?_of_ge {c : Char} (hc : 128 ≤ c.toNat) : ofChar? c = none := by
  have hbehind : ∀ {b : Char}, b.toNat < 128 → ¬ c ≤ b := by
    intro b hb hle
    exact absurd (Nat.lt_of_le_of_lt hle hb) (Nat.not_lt.2 hc)
  rw [ofChar?, if_neg fun h => hbehind (by decide) h.2, if_neg fun h => hbehind (by decide) h.2,
    if_neg fun h => hbehind (by decide) h.2]

theorem toLower_of_ge {c : Char} (hc : 128 ≤ c.toNat) : c.toLower = c := by
  have hbehind : ¬ c.val ≤ 'Z'.val := by
    intro hle
    exact absurd (Nat.lt_of_le_of_lt hle (by decide : 'Z'.toNat < 128)) (Nat.not_lt.2 hc)
  exact dif_neg fun h => hbehind h.2

/-- The digits of a value are a character and its capital. -/
theorem ofChar?_eq_some_iff {c : Char} {d : Nat} (hd : d < 36) :
    ofChar? c = some d ↔ c.toLower = toChar d := by
  refine forall_char (p := fun c => ofChar? c = some d ↔ c.toLower = toChar d) ?_ ?_ c
  · have all : ∀ n < 128, ∀ d < 36,
        ofChar? (Char.ofNat n) = some d ↔ (Char.ofNat n).toLower = toChar d := by decide +kernel
    exact fun n hn => all n hn d hd
  · intro c hc
    have hother : c ≠ toChar d := by
      rintro rfl
      exact absurd (toNat_toChar_lt hd) (Nat.not_lt.2 hc)
    simp [ofChar?_of_ge hc, toLower_of_ge hc, hother]

/-! ### What digits stand for -/

/-- A character is the digit of a value in a radix. -/
def IsDigit (radix : Nat) (c : Char) (d : Nat) : Prop := ofChar? c = some d ∧ d < radix

/-- Some characters are the numeral of a number: they are digits, at least one of them, and the
number is the sum of what they stand for at their places. -/
def Numeral (radix : Nat) (cs : List Char) (n : Nat) : Prop :=
  cs ≠ [] ∧ ∃ ds, List.Forall₂ (IsDigit radix) cs ds ∧ n = Nat.ofDigits radix ds.reverse

variable {radix : Nat} {cs : List Char} {n m : Nat}

theorem valueFrom?_cons_eq_some_iff {c : Char} :
    valueFrom? radix n (c :: cs) = some m ↔
      ∃ d, IsDigit radix c d ∧ valueFrom? radix (n * radix + d) cs = some m := by
  simp only [valueFrom?, IsDigit]
  cases ofChar? c with
  | none => simp
  | some d => by_cases hd : d < radix <;> simp [hd]

/-- The digits behind a number move it up by their places and fill these. -/
theorem valueFrom?_eq_some_iff :
    valueFrom? radix n cs = some m ↔
      ∃ ds, List.Forall₂ (IsDigit radix) cs ds ∧
        m = n * radix ^ cs.length + Nat.ofDigits radix ds.reverse := by
  induction cs generalizing n with
  | nil => simp [valueFrom?, eq_comm]
  | cons c cs ih =>
    have hplace : ∀ {d : Nat} {ds : List Nat}, cs.length = ds.length →
        (n * radix + d) * radix ^ cs.length + Nat.ofDigits radix ds.reverse =
          n * radix ^ (c :: cs).length + Nat.ofDigits radix (d :: ds).reverse := by
      intro d ds hlength
      rw [List.reverse_cons, Nat.ofDigits_append, Nat.ofDigits_singleton, List.length_reverse,
        List.length_cons, hlength]
      ring
    simp only [valueFrom?_cons_eq_some_iff, ih]
    constructor
    · rintro ⟨d, hd, ds, hds, rfl⟩
      exact ⟨d :: ds, .cons hd hds, hplace hds.length_eq⟩
    · rintro ⟨_, hdigits, rfl⟩
      cases hdigits with
      | cons hd hds => exact ⟨_, hd, _, hds, (hplace hds.length_eq).symm⟩

theorem value?_of_ne_nil (h : cs ≠ []) : value? radix cs = valueFrom? radix 0 cs := by
  cases cs with
  | nil => exact absurd rfl h
  | cons c cs => rfl

/-- **Numerals are read as what they stand for**, and nothing else is read. -/
theorem value?_eq_some_iff : value? radix cs = some n ↔ Numeral radix cs n := by
  by_cases h : cs = []
  · subst h
    simp [value?, Numeral]
  · rw [value?_of_ne_nil h, valueFrom?_eq_some_iff, Numeral]
    simp [h]

theorem le_of_valueFrom? (hradix : 0 < radix) (h : valueFrom? radix n cs = some m) : n ≤ m := by
  obtain ⟨ds, -, rfl⟩ := valueFrom?_eq_some_iff.1 h
  have hplace : n * 1 ≤ n * radix ^ cs.length := Nat.mul_le_mul_left n (Nat.pow_pos hradix)
  omega

/-! ### Words -/

/-- The number written by `cs` behind a number `n` already read, given up as soon as it is not below
`limit`. -/
def wordFrom? (limit radix : Nat) : Nat → List Char → Option Nat
  | n, [] => some n
  | n, c :: cs =>
    match ofChar? c with
    | some d =>
      if d < radix ∧ n * radix + d < limit then wordFrom? limit radix (n * radix + d) cs else none
    | none => none

/-- The number written by `cs` in a radix, if there is at least one digit and the number is below
`limit` at each of them. -/
def word? (limit radix : Nat) : List Char → Option Nat
  | [] => none
  | c :: cs => wordFrom? limit radix 0 (c :: cs)

theorem wordFrom?_cons (limit : Nat) (hradix : 0 < radix) (n : Nat) (c : Char) (cs : List Char) :
    wordFrom? limit radix n (c :: cs) = (valueFrom? radix n (c :: cs)).filter (· < limit) := by
  induction cs generalizing n c with
  | nil =>
    simp only [wordFrom?, valueFrom?]
    cases ofChar? c with
    | none => rfl
    | some d =>
      by_cases hd : d < radix <;> by_cases hfits : n * radix + d < limit <;>
        simp [Option.filter_some, hd, hfits]
  | cons c' cs ih =>
    rw [wordFrom?, valueFrom?]
    cases ofChar? c with
    | none => rfl
    | some d =>
      by_cases hd : d < radix
      · by_cases hfits : n * radix + d < limit
        · simp only [hd, hfits, and_self, if_true]
          exact ih _ _
        · -- what does not fit any more does not fit at the end either
          have hlarge : (valueFrom? radix (n * radix + d) (c' :: cs)).filter (· < limit) = none := by
            refine Option.filter_eq_none_iff.2 fun m hm => ?_
            have hle := le_of_valueFrom? hradix hm
            simpa using Nat.le_trans (Nat.not_lt.1 hfits) hle
          simp only [hd, hfits, and_false, if_false, if_true]
          exact hlarge.symm
      · simp [hd]

/-- **A word takes the numbers that fit into it.** -/
theorem word?_eq (limit : Nat) (hradix : 0 < radix) (cs : List Char) :
    word? limit radix cs = (value? radix cs).filter (· < limit) := by
  cases cs with
  | nil => rfl
  | cons c cs => exact wordFrom?_cons limit hradix 0 c cs

/-! ### Writing -/

theorem valueFrom?_toChar {d : Nat} (hd : d < radix) (hradix : radix ≤ 36) :
    valueFrom? radix n (toChar d :: cs) = valueFrom? radix (n * radix + d) cs := by
  rw [valueFrom?, ofChar?_toChar (Nat.lt_of_lt_of_le hd hradix)]
  simp [hd]

/-- Enough digits in front of some characters are read as their number before these. -/
theorem valueFrom?_writeBefore (htwo : 2 ≤ radix) (hradix : radix ≤ 36) :
    ∀ {fuel n : Nat} {rest : List Char}, n < fuel →
      valueFrom? radix 0 (writeBefore radix fuel n rest) = valueFrom? radix n rest := by
  intro fuel
  induction fuel with
  | zero =>
    intro n rest hfuel
    exact absurd hfuel (Nat.not_lt_zero n)
  | succ fuel ih =>
    intro n rest hfuel
    rw [writeBefore]
    by_cases hn : n < radix
    · rw [if_pos hn, valueFrom?_toChar hn hradix]
      simp
    · have hpos : 0 < n := by omega
      have hless : n / radix < n := Nat.div_lt_self hpos htwo
      rw [if_neg hn, ih (by omega), valueFrom?_toChar (Nat.mod_lt n (by omega)) hradix,
        Nat.div_add_mod']

theorem writeBefore_ne_nil {fuel : Nat} {rest : List Char} (h : fuel ≠ 0 ∨ rest ≠ []) :
    writeBefore radix fuel n rest ≠ [] := by
  induction fuel generalizing n rest with
  | zero => exact h.resolve_left fun hzero => hzero rfl
  | succ fuel ih =>
    rw [writeBefore]
    split
    · exact List.cons_ne_nil _ _
    · exact ih (.inr (List.cons_ne_nil _ _))

theorem write_ne_nil (radix n : Nat) : write radix n ≠ [] :=
  writeBefore_ne_nil (.inl (Nat.succ_ne_zero n))

/-- What is written consists of digits. -/
theorem exists_of_mem_writeBefore (htwo : 2 ≤ radix) {c : Char} :
    ∀ {fuel n : Nat} {rest : List Char}, c ∈ writeBefore radix fuel n rest →
      c ∈ rest ∨ ∃ d < radix, c = toChar d := by
  intro fuel
  induction fuel with
  | zero => exact fun h => .inl h
  | succ fuel ih =>
    intro n rest h
    rw [writeBefore] at h
    split at h
    · rename_i hn
      rcases List.mem_cons.1 h with rfl | hrest
      · exact .inr ⟨n, hn, rfl⟩
      · exact .inl hrest
    · rcases ih h with hmem | hdigit
      · rcases List.mem_cons.1 hmem with rfl | hrest
        · exact .inr ⟨n % radix, Nat.mod_lt n (by omega), rfl⟩
        · exact .inl hrest
      · exact .inr hdigit

theorem blank_lt_of_mem_write (htwo : 2 ≤ radix) (hradix : radix ≤ 36) {c : Char}
    (h : c ∈ write radix n) : ' ' < c := by
  rcases exists_of_mem_writeBefore htwo h with hnil | ⟨d, hd, rfl⟩
  · exact absurd hnil List.not_mem_nil
  · exact blank_lt_toChar (Nat.lt_of_lt_of_le hd hradix)

theorem valueFrom?_zeros (hradix : 0 < radix) (k : Nat) (cs : List Char) :
    valueFrom? radix 0 (List.replicate k '0' ++ cs) = valueFrom? radix 0 cs := by
  induction k with
  | zero => rfl
  | succ k ih =>
    have hzero : ofChar? '0' = some 0 := by decide
    rw [List.replicate_succ, List.cons_append, valueFrom?, hzero]
    simpa [hradix] using ih

/-- **A number is read back from its digits**, with any number of zeros in front of them. -/
theorem value?_write (htwo : 2 ≤ radix) (hradix : radix ≤ 36) (k n : Nat) :
    value? radix (List.replicate k '0' ++ write radix n) = some n := by
  have hne : List.replicate k '0' ++ write radix n ≠ [] := by simp [write_ne_nil]
  rw [value?_of_ne_nil hne, valueFrom?_zeros (by omega), write,
    valueFrom?_writeBefore htwo hradix (Nat.lt_succ_self n), valueFrom?]

end DiveLink.Digits
