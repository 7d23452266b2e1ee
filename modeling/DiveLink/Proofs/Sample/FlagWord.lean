import DiveLink.Sample.EventFlags

/-!
# Words of event flags

A word of flags has one bit each for the beginning and the end of an event, and three bits each for
its severity and its remark.  There are more words than flags: bits above the eighth, three of the
severities and one of the remarks stand for nothing, and a word that has any of them is refused.
The words that are left and the flags stand for each other.

## Main definitions

* `Coded.Complete` — an enumeration that lists each of its variants once.
* `EventFlags.Refused` — the first thing that is wrong with a word, in the order of its bits from
  the top.

## Main results

* `Coded.ofCode?_eq_some_iff` — a number stands for the variant that has it.
* `EventFlags.ofBits_eq_ok_iff`, `EventFlags.ofBits_eq_error_iff` — which flags a word holds, and
  why it holds none.
* `SampleEvent.flag_words_exact` — **words and flags are in bijection, and so are plain numbers and
  events.**
-/

namespace DiveLink

/-! ### Numbers of variants -/

namespace Coded

/-- Every variant is listed, and none of them twice. -/
class Complete (α : Type) [Coded α] : Prop where
  nodup : (variants (α := α)).Nodup
  mem : ∀ a : α, a ∈ variants (α := α)

instance : Complete EventKind where
  nodup := by decide
  mem a := by cases a <;> decide

instance : Complete Severity where
  nodup := by decide
  mem a := by cases a <;> decide

instance : Complete Remark where
  nodup := by decide
  mem a := by cases a <;> decide

variable {α : Type} [Coded α] [DecidableEq α] [Complete α]

/-- A number stands for the variant that has it. -/
theorem ofCode?_eq_some_iff {n : Nat} {a : α} : ofCode? n = some a ↔ n = code a := by
  constructor
  · intro h
    obtain ⟨hn, rfl⟩ := List.getElem?_eq_some_iff.1 h
    exact (Complete.nodup.idxOf_getElem n hn).symm
  · rintro rfl
    exact ofCode?_code (Complete.mem a)

omit [DecidableEq α] [Complete α] in
theorem ofCode?_eq_none_iff {n : Nat} :
    (ofCode? n : Option α) = none ↔ (variants (α := α)).length ≤ n :=
  List.getElem?_eq_none_iff

omit [DecidableEq α] [Complete α] in
theorem exists_of_lt {n : Nat} (hn : n < (variants (α := α)).length) :
    ∃ a : α, ofCode? n = some a :=
  ⟨_, List.getElem?_eq_getElem hn⟩

theorem code_lt (a : α) : code a < (variants (α := α)).length :=
  List.idxOf_lt_length_of_mem (Complete.mem a)

end Coded

namespace EventFlags

/-! ### Words -/

/-- A word holds the flags that are packed into it: nothing stands above its eight bits, and each
part of it is what the flags say. -/
theorem eq_bits_iff {w : Nat} {f : EventFlags} :
    w = f.bits ↔ w < 256 ∧ w % 2 = f.starts.toNat ∧ w / 2 % 2 = f.ends.toNat ∧
      w / 4 % 8 = Coded.code f.severity ∧ w / 32 % 8 = Coded.code f.remark := by
  have hstarts : f.starts.toNat < 2 := Bool.toNat_lt _
  have hends : f.ends.toNat < 2 := Bool.toNat_lt _
  have hseverity : Coded.code f.severity < 5 := Coded.code_lt f.severity
  have hremark : Coded.code f.remark < 7 := Coded.code_lt f.remark
  rw [bits]
  omega

/-- The parts of a word lie side by side. -/
theorem bits_eq_lor (f : EventFlags) :
    f.bits = f.starts.toNat ||| f.ends.toNat <<< 1 ||| Coded.code f.severity <<< 2 |||
      Coded.code f.remark <<< 5 := by
  obtain ⟨starts, ends, severity, remark⟩ := f
  cases starts <;> cases ends <;> cases severity <;> cases remark <;> rfl

/-- The first thing that is wrong with a word: bits that mean nothing, then a severity that is none,
then a remark that is none. -/
inductive Refused : Nat → InvalidArgument → Prop
  | bits {w : Nat} (habove : 256 ≤ w) : Refused w (.flagBits (w - w % 256))
  | severity {w : Nat} (hw : w < 256) (hseverity : 5 ≤ w / 4 % 8) :
      Refused w (.severity (w / 4 % 8))
  | remark {w : Nat} (hw : w < 256) (hseverity : w / 4 % 8 < 5) (hremark : w / 32 % 8 = 7) :
      Refused w (.remark 7)

variable {w : Nat} {f : EventFlags} {x : InvalidArgument}

/-- What is read from a word of eight bits: each of its parts on its own. -/
theorem ofBits_of_lt (hw : w < 256) :
    ofBits w =
      match Coded.ofCode? (w / 4 % 8), Coded.ofCode? (w / 32 % 8) with
      | none, _ => .error (.severity (w / 4 % 8))
      | some _, none => .error (.remark (w / 32 % 8))
      | some s, some r => .ok ⟨w % 2 == 1, w / 2 % 2 == 1, s, r⟩ := by
  have hknown : ¬ 256 * (w / 256) ≠ 0 := by omega
  unfold ofBits
  exact if_neg hknown

theorem ofBits_of_ge (hw : 256 ≤ w) : ofBits w = .error (.flagBits (w - w % 256)) := by
  have hunknown : 256 * (w / 256) ≠ 0 := by omega
  have hsame : 256 * (w / 256) = w - w % 256 := by omega
  rw [ofBits, if_pos hunknown, hsame]

/-- **A word is read as the flags that are packed into it**, and as no others. -/
theorem ofBits_eq_ok_iff : ofBits w = .ok f ↔ w = f.bits := by
  rw [eq_bits_iff, ← Coded.ofCode?_eq_some_iff, ← Coded.ofCode?_eq_some_iff]
  rcases Nat.lt_or_ge w 256 with hw | hw
  · have hbit : ∀ {n : Nat} {b : Bool}, n % 2 = b.toNat ↔ (n % 2 == 1) = b := by
      intro n b
      rcases Nat.mod_two_eq_zero_or_one n with h | h <;> cases b <;> simp [h]
    obtain ⟨starts, ends, severity, remark⟩ := f
    rw [ofBits_of_lt hw, hbit, hbit]
    cases Coded.ofCode? (α := Severity) (w / 4 % 8) with
    | none => simp
    | some s =>
      cases Coded.ofCode? (α := Remark) (w / 32 % 8) with
      | none => simp
      | some r => simp [hw]
  · rw [ofBits_of_ge hw]
    simp [Nat.not_lt.2 hw]

theorem ofBits_of_refused (h : Refused w x) : ofBits w = .error x := by
  cases h with
  | bits habove => exact ofBits_of_ge habove
  | severity hw hseverity =>
    have hnone : (Coded.ofCode? (w / 4 % 8) : Option Severity) = none :=
      Coded.ofCode?_eq_none_iff.2 hseverity
    rw [ofBits_of_lt hw, hnone]
  | remark hw hseverity hremark =>
    obtain ⟨s, hs⟩ := Coded.exists_of_lt (α := Severity) hseverity
    have hnone : (Coded.ofCode? (w / 32 % 8) : Option Remark) = none :=
      Coded.ofCode?_eq_none_iff.2 (Nat.le_of_eq hremark.symm)
    rw [ofBits_of_lt hw, hs, hnone, hremark]

/-- There is something wrong with every word that holds no flags. -/
theorem eq_bits_or_refused (w : Nat) : (∃ f : EventFlags, w = f.bits) ∨ ∃ x, Refused w x := by
  rcases Nat.lt_or_ge w 256 with hw | hw
  · rcases Nat.lt_or_ge (w / 4 % 8) 5 with hseverity | hseverity
    · rcases Nat.lt_or_ge (w / 32 % 8) 7 with hremark | hremark
      · obtain ⟨s, hs⟩ := Coded.exists_of_lt (α := Severity) hseverity
        obtain ⟨r, hr⟩ := Coded.exists_of_lt (α := Remark) hremark
        exact .inl ⟨_, ofBits_eq_ok_iff.1 (by rw [ofBits_of_lt hw, hs, hr])⟩
      · exact .inr ⟨_, .remark hw hseverity (by omega)⟩
    · exact .inr ⟨_, .severity hw hseverity⟩
  · exact .inr ⟨_, .bits hw⟩

/-- **A word that holds no flags is refused for the first thing that is wrong with it.** -/
theorem ofBits_eq_error_iff : ofBits w = .error x ↔ Refused w x := by
  refine ⟨fun h => ?_, ofBits_of_refused⟩
  rcases eq_bits_or_refused w with ⟨f, hf⟩ | ⟨y, hy⟩
  · cases h.symm.trans (ofBits_eq_ok_iff.2 hf)
  · obtain rfl := Except.error.inj (h.symm.trans (ofBits_of_refused hy))
    exact hy

/-- What may be wrong with a word, whatever is told of it. -/
theorem refused_iff : (∃ x, Refused w x) ↔ 256 ≤ w ∨ 5 ≤ w / 4 % 8 ∨ w / 32 % 8 = 7 := by
  constructor
  · rintro ⟨x, h⟩
    cases h with
    | bits habove => exact .inl habove
    | severity hw hseverity => exact .inr (.inl hseverity)
    | remark hw hseverity hremark => exact .inr (.inr hremark)
  · intro h
    -- flags that are packed into a word leave none of these places
    rcases eq_bits_or_refused w with ⟨f, hf⟩ | hrefused
    · obtain ⟨hw, -, -, hseverity, hremark⟩ := eq_bits_iff.1 hf
      have hs : Coded.code f.severity < 5 := Coded.code_lt f.severity
      have hr : Coded.code f.remark < 7 := Coded.code_lt f.remark
      omega
    · exact hrefused

/-- The word of some flags holds no others. -/
theorem bits_inj {g : EventFlags} (h : f.bits = g.bits) : f = g := by
  have hf : ofBits f.bits = .ok f := ofBits_eq_ok_iff.2 rfl
  exact Except.ok.inj (hf.symm.trans (ofBits_eq_ok_iff.2 h))

theorem bits_lt (f : EventFlags) : f.bits < 256 := (eq_bits_iff.1 (rfl : f.bits = f.bits)).1

end EventFlags

/-! ### Events -/

namespace SampleEvent

variable {kind time flags value : Nat} {e : SampleEvent} {x : InvalidArgument}

/-- **An event is read from the plain numbers that it consists of**, and has no name. -/
theorem ofRaw_eq_ok_iff :
    ofRaw kind time flags value = .ok e ↔
      kind = Coded.code e.kind ∧ time = e.time ∧ flags = e.flags.bits ∧ value = e.value ∧
        e.name = none := by
  obtain ⟨k, t, f, v, name⟩ := e
  rw [← Coded.ofCode?_eq_some_iff, ← EventFlags.ofBits_eq_ok_iff, ofRaw]
  cases Coded.ofCode? (α := EventKind) kind with
  | none => simp
  | some k' => cases EventFlags.ofBits flags <;> simp [Except.map, eq_comm]

/-- **Plain numbers that are no event are refused**, for the kind before the flags. -/
theorem ofRaw_eq_error_iff :
    ofRaw kind time flags value = .error x ↔
      ((∀ k : EventKind, kind ≠ Coded.code k) ∧ x = .eventKind kind) ∨
        ((∃ k : EventKind, kind = Coded.code k) ∧ EventFlags.Refused flags x) := by
  rw [← EventFlags.ofBits_eq_error_iff, ofRaw]
  simp only [ne_eq, ← Coded.ofCode?_eq_some_iff]
  cases Coded.ofCode? (α := EventKind) kind with
  | none => simp [eq_comm]
  | some k => cases EventFlags.ofBits flags <;> simp [Except.map]

/-- **Words and flags are in bijection, and so are plain numbers and events.**  The parts of a word
lie side by side in its eight bits; a word is read if and only if it is the word of some flags, and
then as these and no others; every other word is refused for the first thing that is wrong with it.
An event is read if and only if its kind is the number of one and its flags are such a word, and
then from just these numbers. -/
theorem flag_words_exact :
    (∀ f : EventFlags, f.bits < 256 ∧
      f.bits = f.starts.toNat ||| f.ends.toNat <<< 1 ||| Coded.code f.severity <<< 2 |||
        Coded.code f.remark <<< 5) ∧
      (∀ w f, EventFlags.ofBits w = .ok f ↔ w = f.bits) ∧
      (∀ f g : EventFlags, f.bits = g.bits ↔ f = g) ∧
      (∀ w x, EventFlags.ofBits w = .error x ↔ EventFlags.Refused w x) ∧
      (∀ w, ((∃ x, EventFlags.ofBits w = .error x) ↔ ¬ ∃ f : EventFlags, w = f.bits) ∧
        ((∃ x, EventFlags.ofBits w = .error x) ↔ 256 ≤ w ∨ 5 ≤ w / 4 % 8 ∨ w / 32 % 8 = 7)) ∧
      ∀ kind time flags value,
        ((∃ e, ofRaw kind time flags value = .ok e) ↔
          (∃ k : EventKind, kind = Coded.code k) ∧ ∃ f : EventFlags, flags = f.bits) ∧
        (∀ e, ofRaw kind time flags value = .ok e ↔
          kind = Coded.code e.kind ∧ time = e.time ∧ flags = e.flags.bits ∧ value = e.value ∧
            e.name = none) ∧
        ∀ x, ofRaw kind time flags value = .error x ↔
          ((∀ k : EventKind, kind ≠ Coded.code k) ∧ x = .eventKind kind) ∨
            ((∃ k : EventKind, kind = Coded.code k) ∧ EventFlags.Refused flags x) := by
  refine ⟨fun f => ⟨f.bits_lt, f.bits_eq_lor⟩, fun w f => EventFlags.ofBits_eq_ok_iff,
    fun f g => ⟨EventFlags.bits_inj, congrArg _⟩, fun w x => EventFlags.ofBits_eq_error_iff,
    fun w => ⟨?_, ?_⟩, fun kind time flags value =>
      ⟨?_, fun e => ofRaw_eq_ok_iff, fun x => ofRaw_eq_error_iff⟩⟩
  · constructor
    · rintro ⟨x, hx⟩ ⟨f, hf⟩
      cases hx.symm.trans (EventFlags.ofBits_eq_ok_iff.2 hf)
    · intro hnone
      obtain ⟨x, hx⟩ := (EventFlags.eq_bits_or_refused w).resolve_left hnone
      exact ⟨x, EventFlags.ofBits_eq_error_iff.2 hx⟩
  · simp only [EventFlags.ofBits_eq_error_iff, EventFlags.refused_iff]
  · constructor
    · rintro ⟨e, he⟩
      obtain ⟨hkind, -, hflags, -⟩ := ofRaw_eq_ok_iff.1 he
      exact ⟨⟨_, hkind⟩, _, hflags⟩
    · rintro ⟨⟨k, hkind⟩, f, hflags⟩
      exact ⟨⟨k, time, f, value, none⟩, ofRaw_eq_ok_iff.2 ⟨hkind, rfl, hflags, rfl, rfl⟩⟩

-- an alarm of an injury that begins, and the next severity, which is none
example : EventFlags.ofBits 0xD1 = .ok ⟨true, false, .alarm, .injury⟩ ∧
    EventFlags.ofBits 0xD5 = .error (.severity 5) := ⟨rfl, rfl⟩

end SampleEvent
end DiveLink
