import DiveLink.CommandLine.Invocation
import DiveLink.CommandLine.Output
import DiveLink.Proofs.Text.Digits
import Mathlib.Algebra.Group.Nat.Even

/-!
# Fingerprints, out of the tool and back into it

A list of dives is headed by fingerprints, and a fingerprint given on the command line makes the
next download stop where the last one began.  So what is printed must be understood: both are pairs
of hexadecimal digits, and a pair is the only spelling of its byte but for the case of letters.  As
`x` is no digit, there is no doubt either whether a text has the mark `0x` in front of its digits.

## Main definitions

* `HexArgument.Spells` — a text holds the digits of some bytes, in either case.
* `HexArgument.WellFormed` — a text holds pairs of digits, behind a mark or without one.

## Main results

* `Bytes.ofHexDigits?_eq_some_iff` — **digits are read as the bytes whose digits they are**.
* `HexArgument.parse?_eq_some_iff_spells`, `HexArgument.exists_parse?_iff` — which texts are read,
  and as what.
* `HexArgument.lines_dives` — what the lines of a list of dives hold.
* `HexArgument.fingerprints_fed_back` — **what the tool prints as a fingerprint can be given back to
  it**.
-/

namespace DiveLink

namespace Bytes

open Digits

variable {b : Bytes} {cs : List Char}

theorem value?_pair_eq_some_iff {c d : Char} {n : Nat} :
    value? 16 [c, d] = some n ↔
      ∃ high low, IsDigit 16 c high ∧ IsDigit 16 d low ∧ n = 16 * high + low := by
  rw [value?_eq_some_iff, Numeral]
  simp [List.forall₂_cons_left_iff, Nat.ofDigits_cons, and_assoc, Nat.add_comm]

/-- Two characters are read as a byte if they are its digits, in either case. -/
theorem value?_pair_iff {c d : Char} {x : UInt8} :
    value? 16 [c, d] = some x.toNat ↔ [c.toLower, d.toLower] = hexPair x := by
  have hx := x.toNat_lt
  have hhigh : x.toNat / 16 < 36 := by omega
  have hlow : x.toNat % 16 < 36 := by omega
  rw [value?_pair_eq_some_iff, hexPair, List.cons.injEq, List.cons.injEq,
    ← ofChar?_eq_some_iff hhigh, ← ofChar?_eq_some_iff hlow]
  constructor
  · rintro ⟨high, low, ⟨hc, hhi⟩, ⟨hd, hlo⟩, hvalue⟩
    obtain rfl : high = x.toNat / 16 := by omega
    obtain rfl : low = x.toNat % 16 := by omega
    exact ⟨hc, hd, rfl⟩
  · rintro ⟨hc, hd, -⟩
    exact ⟨_, _, ⟨hc, by omega⟩, ⟨hd, by omega⟩, by omega⟩

theorem value?_pair_lt {c d : Char} {n : Nat} (h : value? 16 [c, d] = some n) : n < 256 := by
  obtain ⟨high, low, ⟨-, hhigh⟩, ⟨-, hlow⟩, rfl⟩ := value?_pair_eq_some_iff.1 h
  omega

/-- A pair of characters and those behind it are read one after the other. -/
theorem ofHexDigits?_cons_eq_some_iff {c d : Char} :
    ofHexDigits? (c :: d :: cs) = some b ↔
      ∃ x rest, b = x :: rest ∧ value? 16 [c, d] = some x.toNat ∧ ofHexDigits? cs = some rest := by
  rw [ofHexDigits?]
  cases hvalue : value? 16 [c, d] with
  | none => simp
  | some n =>
    have hsame : ∀ x : UInt8, n = x.toNat ↔ UInt8.ofNat n = x := by
      intro x
      constructor
      · rintro rfl
        exact UInt8.ofNat_toNat
      · rintro rfl
        exact (Nat.mod_eq_of_lt (value?_pair_lt hvalue)).symm
    cases ofHexDigits? cs <;> simp [hsame, eq_comm]

/-- **Digits are read as bytes if they are the digits of these**, in either case. -/
theorem ofHexDigits?_eq_some_iff :
    ∀ {cs : List Char} {b : Bytes}, ofHexDigits? cs = some b ↔ cs.map Char.toLower = b.hexDigits
  | [], b => by cases b <;> simp [ofHexDigits?, hexPair]
  | [c], b => by cases b <;> simp [ofHexDigits?, hexPair]
  | c :: d :: cs, [] => by simp [ofHexDigits?_cons_eq_some_iff]
  | c :: d :: cs, x :: b => by
    have ih := @ofHexDigits?_eq_some_iff cs b
    simp [ofHexDigits?_cons_eq_some_iff, value?_pair_iff, ih, hexPair, and_assoc]

theorem exists_byte_iff {c d : Char} :
    (∃ x : UInt8, value? 16 [c, d] = some x.toNat) ↔
      (∃ high, IsDigit 16 c high) ∧ ∃ low, IsDigit 16 d low := by
  simp only [value?_pair_eq_some_iff]
  constructor
  · rintro ⟨x, high, low, hhigh, hlow, -⟩
    exact ⟨⟨high, hhigh⟩, low, hlow⟩
  · rintro ⟨⟨high, hhigh⟩, low, hlow⟩
    have hfits : 16 * high + low < 256 := by have := hhigh.2; have := hlow.2; omega
    exact ⟨UInt8.ofNat (16 * high + low), high, low, hhigh, hlow, Nat.mod_eq_of_lt hfits⟩

/-- An even number of digits is read, and nothing else. -/
theorem exists_ofHexDigits?_iff : ∀ {cs : List Char},
    (∃ b, ofHexDigits? cs = some b) ↔ Even cs.length ∧ ∀ c ∈ cs, ∃ d, IsDigit 16 c d
  | [] => by simp [ofHexDigits?]
  | [c] => by simp [ofHexDigits?]
  | c :: d :: cs => by
    have ih := @exists_ofHexDigits?_iff cs
    have hpairs : (∃ b, ofHexDigits? (c :: d :: cs) = some b) ↔
        (∃ x : UInt8, value? 16 [c, d] = some x.toNat) ∧ ∃ b, ofHexDigits? cs = some b := by
      simp only [ofHexDigits?_cons_eq_some_iff]
      constructor
      · rintro ⟨_, x, rest, rfl, hx, hrest⟩
        exact ⟨⟨x, hx⟩, rest, hrest⟩
      · rintro ⟨⟨x, hx⟩, rest, hrest⟩
        exact ⟨_, x, rest, rfl, hx, hrest⟩
    have heven : Even (c :: d :: cs).length ↔ Even cs.length := by simp [Nat.even_add_one]
    rw [hpairs, exists_byte_iff, ih, heven]
    simp only [List.forall_mem_cons]
    tauto

end Bytes

namespace HexArgument

variable {s : String} {b : Bytes}

/-! ### Texts -/

/-- A text spells some bytes: behind an optional `0x` stand their digits, in either case. -/
def Spells (s : String) (b : Bytes) : Prop :=
  ∃ digits : String, (s = digits ∨ s = "0x" ++ digits) ∧ digits.toLower = Bytes.toHex b

/-- A text is a row of pairs of digits behind an optional `0x`. -/
def WellFormed (s : String) : Prop :=
  ∃ digits : String, (s = digits ∨ s = "0x" ++ digits) ∧ Even digits.length ∧
    ∀ c ∈ digits.toList, c ∈ "0123456789abcdefABCDEF".toList

/-- The digits of sixteen values, in either case. -/
theorem isDigit_iff (c : Char) :
    (∃ d, Digits.IsDigit 16 c d) ↔ c ∈ "0123456789abcdefABCDEF".toList := by
  have hdigit : ∀ c, (∃ d, Digits.IsDigit 16 c d) ↔ (Digits.ofChar? c).any (· < 16) := by
    intro c
    simp [Digits.IsDigit, Option.any_eq_true]
  refine Digits.forall_char
    (p := fun c => (∃ d, Digits.IsDigit 16 c d) ↔ c ∈ "0123456789abcdefABCDEF".toList) ?_ ?_ c
  · have all : ∀ n < 128, (Digits.ofChar? (Char.ofNat n)).any (· < 16) ↔
        Char.ofNat n ∈ "0123456789abcdefABCDEF".toList := by decide +kernel
    exact fun n hn => (hdigit _).trans (all n hn)
  · intro c hc
    have hlisted : ∀ c ∈ "0123456789abcdefABCDEF".toList, c.toNat < 128 := by simp
    rw [hdigit, Digits.ofChar?_of_ge hc]
    exact ⟨fun h => absurd h Bool.false_ne_true,
      fun hmem => absurd (hlisted c hmem) (Nat.not_lt.2 hc)⟩

theorem body_of_ne {cs : List Char} (h : ∀ rest, cs ≠ '0' :: 'x' :: rest) : body cs = cs := by
  unfold body
  split
  · exact absurd rfl (h _)
  · rfl

/-- The mark is no digit, so that a text cannot be read with it and without it. -/
theorem ofHexDigits?_body_eq_some_iff {cs : List Char} :
    Bytes.ofHexDigits? (body cs) = some b ↔
      ∃ digits, (cs = digits ∨ cs = '0' :: 'x' :: digits) ∧ Bytes.ofHexDigits? digits = some b := by
  by_cases hmark : ∃ rest, cs = '0' :: 'x' :: rest
  · obtain ⟨rest, rfl⟩ := hmark
    constructor
    · exact fun h => ⟨rest, .inr rfl, h⟩
    · rintro ⟨digits, rfl | hsame, h⟩
      · obtain ⟨x, -, -, hpair, -⟩ := Bytes.ofHexDigits?_cons_eq_some_iff.1 h
        exact absurd hpair (by simp [Digits.value?, Digits.valueFrom?, Digits.ofChar?])
      · obtain rfl : rest = digits := by simpa using hsame
        exact h
  · rw [body_of_ne fun rest h => hmark ⟨rest, h⟩]
    constructor
    · exact fun h => ⟨cs, .inl rfl, h⟩
    · rintro ⟨digits, rfl | hsame, h⟩
      · exact h
      · exact absurd ⟨digits, hsame⟩ hmark

theorem parse?_eq_some_iff :
    parse? s = some b ↔
      ∃ digits : String, (s = digits ∨ s = "0x" ++ digits) ∧
        Bytes.ofHexDigits? digits.toList = some b := by
  rw [parse?, ofHexDigits?_body_eq_some_iff]
  constructor
  · rintro ⟨digits, hs, h⟩
    refine ⟨String.ofList digits, hs.imp (fun h => ?_) fun h => ?_, by rwa [String.toList_ofList]⟩
    · rw [← h, String.ofList_toList]
    · exact String.ext (by simp [h])
  · rintro ⟨digits, rfl | rfl, h⟩
    · exact ⟨_, .inl rfl, h⟩
    · exact ⟨_, .inr (String.toList_append), h⟩

/-- **A text is read as the bytes that it spells.** -/
theorem parse?_eq_some_iff_spells : parse? s = some b ↔ Spells s b := by
  have hlower : ∀ digits : String, digits.toLower.toList = digits.toList.map Char.toLower :=
    fun _ => String.toList_map
  simp only [parse?_eq_some_iff, Spells, Bytes.ofHexDigits?_eq_some_iff, String.ext_iff, hlower,
    Bytes.toHex, String.toList_ofList]

/-- **A text is read if it is well formed**, and no other is. -/
theorem exists_parse?_iff : (∃ b, parse? s = some b) ↔ WellFormed s := by
  have hread : ∀ digits : String, (∃ b, Bytes.ofHexDigits? digits.toList = some b) ↔
      Even digits.length ∧ ∀ c ∈ digits.toList, c ∈ "0123456789abcdefABCDEF".toList := by
    intro digits
    simp only [Bytes.exists_ofHexDigits?_iff, isDigit_iff, String.length_toList]
  simp only [parse?_eq_some_iff, WellFormed, ← hread]
  constructor
  · rintro ⟨b, digits, hs, h⟩
    exact ⟨digits, hs, b, h⟩
  · rintro ⟨digits, hs, b, h⟩
    exact ⟨b, digits, hs, h⟩

theorem parse_eq_ok_iff : parse s = .ok b ↔ parse? s = some b := by
  unfold parse
  cases parse? s <;> simp

theorem parse_eq_error_iff {e : BadHex} : parse s = .error e ↔ parse? s = none ∧ e = ⟨s⟩ := by
  unfold parse
  cases parse? s <;> simp [eq_comm]

/-! ### Fingerprints given to the tool -/

theorem Spells.head_ne (h : Spells s b) : s.toList.head? ≠ some '-' := by
  have hwell := exists_parse?_iff.1 ⟨b, parse?_eq_some_iff_spells.2 h⟩
  obtain ⟨digits, hs, -, hdigits⟩ := hwell
  intro hhead
  rcases hs with rfl | rfl
  · exact absurd (hdigits '-' (List.mem_of_head? hhead)) (by decide)
  · simp at hhead

theorem word_supply {l : Level} {scan : Scan} (hs : s.toList.head? ≠ some '-')
    (hliteral : scan.literal = false) (hawaiting : scan.awaiting = true) :
    l.word scan s = .ok (scan.supply s) := by
  unfold Level.word
  rw [hliteral, hawaiting]
  cases h : s.toList with
  | nil => rfl
  | cons c cs =>
    have hc : c ≠ '-' := by
      rintro rfl
      exact hs (by rw [h]; rfl)
    simp [hc]

/-- A text that spells some bytes is taken as the fingerprint of a dive. -/
theorem parseDives_of_spells (h : Spells s b) :
    Command.parseDives ["--fingerprint", s] = .ok (.dives (some b)) := by
  have hparse := parse?_eq_some_iff_spells.2 h
  have hfirst : Level.word { switches := [Command.fingerprintSwitch, Command.helpSwitch] } {}
      "--fingerprint" = .ok (({} : Scan).await Command.fingerprintSwitch) := rfl
  have hsecond : Level.word { switches := [Command.fingerprintSwitch, Command.helpSwitch] }
      (({} : Scan).await Command.fingerprintSwitch) s =
        .ok ((({} : Scan).await Command.fingerprintSwitch).supply s) :=
    word_supply h.head_ne rfl rfl
  have hscan : Level.scan { switches := [Command.fingerprintSwitch, Command.helpSwitch] }
      ["--fingerprint", s] = .ok ⟨[⟨Command.fingerprintSwitch, some s⟩], [], none⟩ := by
    unfold Level.scan
    simp only [Level.scanFrom, hfirst, hsecond]
    rfl
  have hcheck : Scanned.check ⟨[⟨Command.fingerprintSwitch, some s⟩], [], none⟩
      (fun _ v => (parse? v).isSome) = .ok () := by
    simp [Scanned.check, Scanned.fault, Scanned.values, hparse]
  unfold Command.parseDives
  simp only [hscan, bind, Except.bind]
  rw [hcheck]
  simp [Scanned.values, hparse, pure, Except.pure]

/-! ### Fingerprints printed by the tool -/

theorem blank_lt_of_mem_hexDigits {c : Char} (h : c ∈ b.hexDigits) : ' ' < c := by
  obtain ⟨x, -, hc⟩ := List.mem_flatMap.1 h
  have hx := x.toNat_lt
  rcases List.mem_cons.1 hc with rfl | hc
  · exact Digits.blank_lt_toChar (by omega)
  · obtain rfl := List.mem_singleton.1 hc
    exact Digits.blank_lt_toChar (by omega)

/-- A list of dives has a line for each: its fingerprint, a blank, and its size. -/
theorem lines_dives {ds : List Dive} (hds : ds ≠ []) :
    (Output.dives false ds).toList.splitOn '\n' =
      ds.map fun d => d.fingerprint.hexDigits ++ ' ' :: Digits.write 10 d.bytes.length := by
  have hlines : (Output.dives false ds).toList = ['\n'].intercalate
      (ds.map fun d => d.fingerprint.hexDigits ++ ' ' :: Digits.write 10 d.bytes.length) := by
    simp [Output.dives, String.toList_intercalate, Bytes.toHex, Digits.decimal, Function.comp_def]
  rw [hlines, List.splitOn_intercalate '\n' ?_ (by simpa using hds)]
  -- a line break stands in front of the blank, behind which all characters of a line lie
  have hbreak : ¬ ' ' < '\n' := by decide
  intro line hline hmem
  obtain ⟨d, -, rfl⟩ := List.mem_map.1 hline
  rcases List.mem_append.1 hmem with h | h
  · exact hbreak (blank_lt_of_mem_hexDigits h)
  · rcases List.mem_cons.1 h with h | h
    · exact absurd h (by decide)
    · exact hbreak (Digits.blank_lt_of_mem_write (by decide) (by decide) h)

/-- The first column of a line is the fingerprint of its dive. -/
theorem takeWhile_line (b : Bytes) (rest : List Char) :
    (b.hexDigits ++ ' ' :: rest).takeWhile (· != ' ') = b.hexDigits := by
  have hdigits : ∀ c ∈ b.hexDigits, (c != ' ') = true := by
    intro c hc
    have hlt := blank_lt_of_mem_hexDigits hc
    simp only [bne_iff_ne, ne_eq]
    rintro rfl
    exact absurd hlt (by decide)
  rw [List.takeWhile_append_of_pos hdigits]
  simp

/-- **What the tool prints as a fingerprint can be given back to it.**  A text is read as the bytes
whose digits it holds, in either case and with the mark or without; it is read if and only if it is
well formed, and is handed back otherwise.  Each such text is taken as a fingerprint on the command
line, and the first column of a list of dives consists of such texts. -/
theorem fingerprints_fed_back :
    (∀ s b, parse s = .ok b ↔ Spells s b) ∧
      (∀ s, (∃ b, parse s = .ok b) ↔ WellFormed s) ∧
      (∀ s e, parse s = .error e ↔ e = ⟨s⟩ ∧ ¬ WellFormed s) ∧
      (∀ (b : Bytes) (digits : String), digits.toLower = Bytes.toHex b →
        ∀ s, s = digits ∨ s = "0x" ++ digits →
          parse s = .ok b ∧ Command.parseDives ["--fingerprint", s] = .ok (.dives (some b))) ∧
      ∀ ds : List Dive, ds ≠ [] →
        ((Output.dives false ds).toList.splitOn '\n').map
            (fun line => parse (String.ofList (line.takeWhile (· != ' ')))) =
          ds.map fun d => .ok d.fingerprint := by
  have hread : ∀ s b, parse s = .ok b ↔ Spells s b := fun s b =>
    parse_eq_ok_iff.trans parse?_eq_some_iff_spells
  refine ⟨hread, fun s => ?_, fun s e => ?_, fun b digits hdigits s hs => ?_, fun ds hds => ?_⟩
  · simp only [parse_eq_ok_iff, exists_parse?_iff]
  · rw [parse_eq_error_iff, ← exists_parse?_iff, Option.eq_none_iff_forall_ne_some]
    simp only [not_exists, ne_eq, and_comm]
  · have hspells : Spells s b := ⟨digits, hs, hdigits⟩
    exact ⟨(hread s b).2 hspells, parseDives_of_spells hspells⟩
  · rw [lines_dives hds, List.map_map]
    refine List.map_congr_left fun d _ => ?_
    have hprinted : parse? (Bytes.toHex d.fingerprint) = some d.fingerprint :=
      parse?_eq_some_iff.2 ⟨_, .inl rfl, by simp [Bytes.toHex]⟩
    rw [Function.comp_apply, takeWhile_line]
    exact parse_eq_ok_iff.2 hprinted

-- one mark, and no more than one
example : parse "0xFf0a" = .ok [0xFF, 0x0A] ∧ parse "0x0xFf" = .error ⟨"0x0xFf"⟩ := ⟨rfl, rfl⟩

end HexArgument
end DiveLink
