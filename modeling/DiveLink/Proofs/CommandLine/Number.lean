import DiveLink.CommandLine.Invocation
import DiveLink.Proofs.Text.Digits

/-!
# Which numbers the command line takes

A number that is not written in decimal has a mark in front, `0x` or `0b`.  All marks of that kind
are taken off before the digits are read, so that a mark too many is not noticed.  That is the only
liberty: no mark is made of digits of its own radix or of decimal ones, so each text can be read in
one way only, and what is left behind the marks has to be a numeral that fits into a word.

## Main definitions

* `Number.Mark` — the marks, and `Number.Mark.times`, a mark repeated.
* `Number.word?` — reads digits, a plus sign in front of them or not, into a word.
* `Number.Written` — what such digits stand for.

## Main results

* `Number.parse?_times` — behind its marks a text is read in their radix.
* `Number.parse?_eq_some_iff` — which texts are read, and as what.
* `Number.parse?_text_eq_iff` — when one mark and what follows are read like what follows.
* `Number.reads_marked` — **a text is read as the one numeral in it, behind any number of equal
  marks**.
-/

namespace DiveLink.Number

/-! ### Marks -/

/-- What stands in front of a number that is not written in decimal. -/
inductive Mark
  | hexadecimal | binary
  deriving DecidableEq, Repr, Inhabited

namespace Mark

/-- The radix that a mark announces. -/
def radix : Mark → Nat
  | hexadecimal => 16
  | binary => 2

/-- The letter behind the zero of a mark. -/
def letter : Mark → Char
  | hexadecimal => 'x'
  | binary => 'b'

/-- A mark as a text. -/
def text (m : Mark) : String := String.ofList ['0', m.letter]

/-- A mark so many times. -/
def times (m : Mark) : Nat → List Char
  | 0 => []
  | k + 1 => '0' :: m.letter :: m.times k

theorem toList_text_append (m : Mark) (t : String) :
    (m.text ++ t).toList = '0' :: m.letter :: t.toList := by
  simp [text]

end Mark

variable {m : Mark} {cs rest : List Char} {limit radix k n : Nat} {s t : String}

/-- A text that does not begin with a mark loses none. -/
theorem dropMarks_of_unmarked (h : ¬ m.times 1 <+: cs) : dropMarks m.letter cs = cs := by
  unfold dropMarks
  split
  · rename_i c rest
    rw [if_neg]
    rintro rfl
    exact h ⟨rest, rfl⟩
  · rfl

/-- All marks are taken off the front. -/
theorem dropMarks_times (h : ¬ m.times 1 <+: rest) (k : Nat) :
    dropMarks m.letter (m.times k ++ rest) = rest := by
  induction k with
  | zero => exact dropMarks_of_unmarked h
  | succ k ih =>
    rw [Mark.times, List.cons_append, List.cons_append, dropMarks, if_pos rfl]
    exact ih

/-- A text consists of marks and of what does not begin with one. -/
theorem exists_times (m : Mark) (cs : List Char) :
    ∃ k rest, cs = m.times k ++ rest ∧ ¬ m.times 1 <+: rest := by
  fun_induction dropMarks m.letter cs with
  | case1 cs ih =>
    obtain ⟨k, rest, rfl, hrest⟩ := ih
    exact ⟨k + 1, rest, rfl, hrest⟩
  | case2 c cs hc =>
    refine ⟨0, '0' :: c :: cs, rfl, ?_⟩
    rintro ⟨rest, hrest⟩
    have hsame : m.letter = c ∧ rest = cs := by simpa [Mark.times] using hrest
    exact hc hsame.1.symm
  | case3 cs hshort =>
    refine ⟨0, cs, rfl, ?_⟩
    rintro ⟨rest, rfl⟩
    exact hshort _ _ rfl

/-! ### Signs -/

/-- What stands behind an optional plus sign. -/
def behindPlus : List Char → List Char
  | '+' :: rest => rest
  | cs => cs

/-- The number that digits of a radix stand for, a plus sign in front of them or not, if it stays
below `limit`. -/
def word? (limit radix : Nat) (cs : List Char) : Option Nat :=
  Digits.word? limit radix (behindPlus cs)

/-- Some characters are the numeral of a number, a plus sign in front of it or not. -/
def Written (radix : Nat) (cs : List Char) (n : Nat) : Prop :=
  Digits.Numeral radix (behindPlus cs) n

theorem behindPlus_of_ne (h : ∀ rest, cs ≠ '+' :: rest) : behindPlus cs = cs := by
  unfold behindPlus
  split
  · exact absurd rfl (h _)
  · rfl

theorem signed?_eq (radix : Nat) (cs : List Char) :
    signed? radix cs = Digits.value? radix (behindPlus cs) := by
  unfold signed?
  split
  · rfl
  · rename_i hplus
    rw [behindPlus_of_ne fun rest h => hplus rest h]

theorem filter_signed? (limit : Nat) (hradix : 0 < radix) (cs : List Char) :
    (signed? radix cs).filter (· < limit) = word? limit radix cs := by
  rw [signed?_eq, word?, Digits.word?_eq limit hradix]

theorem word?_eq_some_iff (hradix : 0 < radix) :
    word? limit radix cs = some n ↔ n < limit ∧ Written radix cs n := by
  rw [word?, Digits.word?_eq limit hradix, Option.filter_eq_some_iff, Digits.value?_eq_some_iff,
    Written, and_comm]
  simp

/-- A numeral is one with an optional sign too, as a sign is no digit. -/
theorem written_of_value? (h : Digits.value? radix cs = some n) : Written radix cs n := by
  have hplus : ∀ rest, cs ≠ '+' :: rest := by
    rintro rest rfl
    exact absurd h (by simp [Digits.value?, Digits.valueFrom?, Digits.ofChar?])
  rw [Written, behindPlus_of_ne hplus]
  exact Digits.value?_eq_some_iff.1 h

theorem Mark.radix_pos (m : Mark) : 0 < m.radix := by
  cases m <;> decide

/-- A mark is no numeral, neither of its own radix nor a decimal one. -/
theorem word?_mark (m : Mark) (hradix : radix = m.radix ∨ radix = 10) (cs : List Char) :
    word? limit radix ('0' :: m.letter :: cs) = none := by
  have hpos : 0 < radix := by
    rcases hradix with rfl | rfl
    · exact m.radix_pos
    · decide
  have hletter : ∀ d, Digits.ofChar? m.letter = some d → ¬ d < radix := by
    rcases hradix with rfl | rfl <;> cases m <;> simp [Mark.letter, Mark.radix, Digits.ofChar?]
  refine Option.eq_none_iff_forall_ne_some.2 fun n hn => ?_
  obtain ⟨-, -, ds, hds, -⟩ := (word?_eq_some_iff hpos).1 hn
  cases hds with
  | cons _ hds =>
    cases hds with
    | cons hd _ => exact hletter _ hd.1 hd.2

theorem unmarked_of_word? (hradix : radix = m.radix ∨ radix = 10)
    (h : word? limit radix cs = some n) : ¬ m.times 1 <+: cs := by
  rintro ⟨rest, rfl⟩
  exact absurd (h.symm.trans (word?_mark m hradix rest)) (Option.some_ne_none n)

/-! ### Reading -/

theorem value?_marked (m : Mark) (cs : List Char) :
    value? ('0' :: m.letter :: cs) = signed? m.radix (dropMarks m.letter cs) := by
  cases m <;> rfl

theorem value?_unmarked (h : ∀ m : Mark, ¬ m.times 1 <+: cs) : value? cs = signed? 10 cs := by
  unfold value?
  split
  · exact absurd ⟨_, rfl⟩ (h .hexadecimal)
  · exact absurd ⟨_, rfl⟩ (h .binary)
  · rfl

/-- Behind its marks a text is read in their radix. -/
theorem parse?_times (hrest : ¬ m.times 1 <+: rest) (hs : s.toList = m.times (k + 1) ++ rest) :
    parse? limit s = word? limit m.radix rest := by
  rw [parse?, hs, Mark.times, List.cons_append, List.cons_append, value?_marked,
    dropMarks_times hrest, filter_signed? limit m.radix_pos]

/-- A text without a mark in front is read as a decimal number. -/
theorem parse?_unmarked (h : ∀ m : Mark, ¬ m.times 1 <+: s.toList) :
    parse? limit s = word? limit 10 s.toList := by
  rw [parse?, value?_unmarked h, filter_signed? limit (by decide)]

/-- A text is read as a number if it is a decimal numeral of it, or another one behind marks. -/
theorem parse?_eq_some_iff_word? :
    parse? limit s = some n ↔
      word? limit 10 s.toList = some n ∨
        ∃ (m : Mark) (k : Nat) (rest : List Char),
          s.toList = m.times (k + 1) ++ rest ∧ word? limit m.radix rest = some n := by
  constructor
  · intro h
    by_cases hmark : ∃ m : Mark, m.times 1 <+: s.toList
    · obtain ⟨m, cs, hcs⟩ := hmark
      obtain ⟨k, rest, rfl, hrest⟩ := exists_times m cs
      exact .inr ⟨m, k, rest, hcs.symm, (parse?_times hrest hcs.symm).symm.trans h⟩
    · exact .inl ((parse?_unmarked (not_exists.1 hmark)).symm.trans h)
  · rintro (h | ⟨m, k, rest, hs, h⟩)
    · exact (parse?_unmarked fun m => unmarked_of_word? (.inr rfl) h).trans h
    · exact (parse?_times (unmarked_of_word? (.inl rfl) h) hs).trans h

theorem parse?_eq_some_iff :
    parse? limit s = some n ↔
      n < limit ∧
        (Written 10 s.toList n ∨
          ∃ (m : Mark) (k : Nat) (rest : List Char),
            s.toList = m.times (k + 1) ++ rest ∧ Written m.radix rest n) := by
  have hten : 0 < 10 := by decide
  simp only [parse?_eq_some_iff_word?, word?_eq_some_iff hten, word?_eq_some_iff (Mark.radix_pos _)]
  constructor
  · rintro (⟨hn, h⟩ | ⟨m, k, rest, hs, hn, h⟩)
    · exact ⟨hn, .inl h⟩
    · exact ⟨hn, .inr ⟨m, k, rest, hs, h⟩⟩
  · rintro ⟨hn, h | ⟨m, k, rest, hs, h⟩⟩
    · exact .inl ⟨hn, h⟩
    · exact .inr ⟨m, k, rest, hs, hn, h⟩

/-- One mark and what follows are read like what follows, unless that begins with further marks in
front of a numeral. -/
theorem parse?_text_eq_iff :
    parse? limit (m.text ++ t) = word? limit m.radix t.toList ↔
      ¬ ∃ (k : Nat) (rest : List Char) (n : Nat),
        t.toList = m.times (k + 1) ++ rest ∧ word? limit m.radix rest = some n := by
  have htext : ∀ {k : Nat} {rest : List Char}, t.toList = m.times k ++ rest →
      (m.text ++ t).toList = m.times (k + 1) ++ rest := by
    intro k rest ht
    rw [m.toList_text_append, ht]
    rfl
  -- a text that begins with a mark is no numeral
  have hnone : ∀ {k : Nat} {rest : List Char}, t.toList = m.times (k + 1) ++ rest →
      word? limit m.radix t.toList = none := by
    intro k rest ht
    rw [ht]
    exact word?_mark m (.inl rfl) _
  constructor
  · rintro h ⟨k, rest, n, ht, hn⟩
    have hread : parse? limit (m.text ++ t) = word? limit m.radix rest :=
      parse?_times (unmarked_of_word? (.inl rfl) hn) (htext ht)
    rw [h, hnone ht, hn] at hread
    exact absurd hread.symm (Option.some_ne_none n)
  · intro h
    obtain ⟨k, rest, ht, hrest⟩ := exists_times m t.toList
    rw [parse?_times hrest (htext ht)]
    cases k with
    | zero => rw [ht, Mark.times, List.nil_append]
    | succ k =>
      rw [hnone ht, Option.eq_none_iff_forall_ne_some]
      exact fun n hn => h ⟨k, rest, n, ht, hn⟩

/-! ### Writing -/

/-- A number is read from its decimal digits. -/
theorem parse?_decimal (hn : n < limit) : parse? limit (Digits.decimal n) = some n := by
  have hwritten := Digits.value?_write (by decide : 2 ≤ 10) (by decide) 0 n
  refine parse?_eq_some_iff.2 ⟨hn, .inl ?_⟩
  rw [Digits.decimal, String.toList_ofList]
  exact written_of_value? hwritten

/-- A number is read from its digits behind a mark, with any number of zeros in front of them. -/
theorem parse?_text_write (hn : n < limit) (m : Mark) (k : Nat) :
    parse? limit (m.text ++ String.ofList (List.replicate k '0' ++ Digits.write m.radix n)) =
      some n := by
  have hwritten := Digits.value?_write (by cases m <;> decide : 2 ≤ m.radix)
    (by cases m <;> decide) k n
  refine parse?_eq_some_iff.2 ⟨hn, .inr ⟨m, 0, _, ?_, written_of_value? hwritten⟩⟩
  rw [m.toList_text_append, String.toList_ofList]
  rfl

/-- **A text is read as the one numeral in it, behind any number of equal marks.**  Behind one mark
a text is read in the radix of the mark, unless more such marks stand in front of a numeral there; a
text without a mark is read in decimal.  So the texts that are read are the numerals that fit, a
decimal one as it is and the others behind one mark or more.  A number is read back from each way of
writing it. -/
theorem reads_marked (limit : Nat) :
    (∀ (m : Mark) (t : String),
      parse? limit (m.text ++ t) = word? limit m.radix t.toList ↔
        ¬ ∃ (k : Nat) (rest : List Char) (n : Nat),
          t.toList = m.times (k + 1) ++ rest ∧ word? limit m.radix rest = some n) ∧
      (∀ s : String, (∀ m : Mark, ¬ m.times 1 <+: s.toList) →
        parse? limit s = word? limit 10 s.toList) ∧
      (∀ (s : String) (n : Nat),
        parse? limit s = some n ↔
          n < limit ∧
            (Written 10 s.toList n ∨
              ∃ (m : Mark) (k : Nat) (rest : List Char),
                s.toList = m.times (k + 1) ++ rest ∧ Written m.radix rest n)) ∧
      ∀ n < limit, parse? limit (Digits.decimal n) = some n ∧
        ∀ (m : Mark) (k : Nat),
          parse? limit (m.text ++ String.ofList (List.replicate k '0' ++ Digits.write m.radix n)) =
            some n :=
  ⟨fun _ _ => parse?_text_eq_iff, fun _ h => parse?_unmarked h, fun _ _ => parse?_eq_some_iff,
    fun _ hn => ⟨parse?_decimal hn, parse?_text_write hn⟩⟩

/-- A mark that is typed twice is not noticed: though a mark is no digit, an address and a byte are
read behind two of them. -/
theorem reads_repeated_mark :
    (parse? Command.wordLimit (Mark.hexadecimal.text ++ "0x10") = some 16 ∧
        word? Command.wordLimit 16 "0x10".toList = none) ∧
      (parse? Command.byteLimit (Mark.binary.text ++ "0b1") = some 1 ∧
        word? Command.byteLimit 2 "0b1".toList = none) ∧
      Command.parseWrite ["0x0x10", "0b0b1"] = .ok (.write 16 [1]) := by
  refine ⟨⟨?_, ?_⟩, ⟨?_, ?_⟩, ?_⟩
  · decide +kernel
  · decide +kernel
  · decide +kernel
  · decide +kernel
  · rfl

end DiveLink.Number
