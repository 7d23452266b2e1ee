import DiveLink.Proofs.Session.Growth

/-!
# The calls of an operation

An operation makes one call after the other, and goes on for as long as they go well.  The exception
is a frame behind a break condition: if it does not arrive, the break condition is ended first.

## Main definitions

* `Call.fault` — what is wrong with a call: it failed, or a transfer is not of the size asked for.
* `Transcript` — calls with their replies; `Transcript.Settled` if each of them went well.
* `Transcript.Broken` — the calls of a step that fails.
* `Transcript.FailsFast` — an operation that makes no call behind one that goes wrong.

## Main results

* `Transcript.Broken.failsFast` — **a step that breaks off behind calls that went well fails fast.**
-/

namespace DiveLink

/-- What is wrong with a call that brought a reply. -/
def Call.fault : Call → Reply → Option DeviceError
  | .read n, r => r.fault r.received.length n
  | .write data, r => r.fault r.accepted data.length
  | .sleep _, _ => none
  | _, r => r.failure.map .io

@[simp] theorem Call.fault_read (n : Nat) (r : Reply) :
    (Call.read n).fault r = r.fault r.received.length n := rfl

@[simp] theorem Call.fault_write (data : Bytes) (r : Reply) :
    (Call.write data).fault r = r.fault r.accepted data.length := rfl

@[simp] theorem Call.fault_sleep (ms : Nat) (r : Reply) : (Call.sleep ms).fault r = none := rfl

@[simp] theorem Call.fault_rts (level : Bool) (r : Reply) :
    (Call.rts level).fault r = r.failure.map .io := rfl

@[simp] theorem Call.fault_breakLine (level : Bool) (r : Reply) :
    (Call.breakLine level).fault r = r.failure.map .io := rfl

/-- Whatever is wrong with a call is a failure of the link or a silence. -/
theorem Call.isRetryable_fault {c : Call} {r : Reply} {e : DeviceError} (h : c.fault r = some e) :
    e.isRetryable = true := by
  have hreply : ∀ moved wanted, r.fault moved wanted = some e → e.isRetryable = true := by
    intro moved wanted h
    unfold Reply.fault at h
    split at h
    · cases h
      rfl
    · split at h
      · exact absurd h (by simp)
      · cases h
        rfl
  have hlink : r.failure.map .io = some e → e.isRetryable = true := by
    intro h
    obtain ⟨_, -, rfl⟩ := Option.map_eq_some_iff.1 h
    rfl
  cases c with
  | read n => exact hreply _ _ h
  | write data => exact hreply _ _ h
  | sleep ms => exact absurd h (by simp [Call.fault])
  | _ => exact hlink h

/-- Calls with their replies. -/
abbrev Transcript := List (Call × Reply)

namespace Transcript

variable {cs cs' part : Transcript} {c : Call} {r : Reply} {e : DeviceError}

/-! ### Calls that go well -/

/-- Nothing is wrong with any of the calls. -/
def Clean (cs : Transcript) : Prop := ∀ x ∈ cs, x.1.fault x.2 = none

theorem Clean.nil : Clean [] := by simp [Clean]

theorem clean_cons {x : Call × Reply} : Clean (x :: cs) ↔ x.1.fault x.2 = none ∧ Clean cs := by
  simp [Clean]

theorem clean_append : Clean (cs ++ cs') ↔ Clean cs ∧ Clean cs' := by
  simp only [Clean, List.mem_append]
  exact ⟨fun h => ⟨fun x hx => h x (.inl hx), fun x hx => h x (.inr hx)⟩,
    fun h x hx => hx.elim (h.1 x) (h.2 x)⟩

/-- A call that goes wrong stands behind those that go well. -/
theorem Clean.split {pre post : Transcript} (h : Clean cs) (hf : c.fault r = some e)
    (heq : cs ++ cs' = pre ++ (c, r) :: post) :
    ∃ mid, pre = cs ++ mid ∧ cs' = mid ++ (c, r) :: post := by
  rcases List.append_eq_append_iff.1 heq with ⟨mid, hpre, htail⟩ | ⟨mid, hcs, htail⟩
  · exact ⟨mid, hpre, htail⟩
  · cases mid with
    | nil => exact ⟨[], by simpa using hcs.symm, by simpa using htail.symm⟩
    | cons x xs =>
      -- otherwise the call would be one of those that go well
      rw [List.cons_append, List.cons.injEq] at htail
      have hclean := h (c, r) (by rw [hcs, ← htail.1]; simp)
      exact absurd (hf.symm.trans hclean) (by simp)

/-- The last call has raised a break condition. -/
def Raised (cs : Transcript) : Prop := ∃ r, cs.getLast? = some (.breakLine true, r)

theorem not_raised_nil : ¬ Raised [] := by simp [Raised]

theorem raised_concat : Raised (cs ++ [(c, r)]) ↔ c = .breakLine true := by
  simp [Raised]

theorem not_raised_append (h : ¬ Raised cs) (h' : ¬ Raised cs') : ¬ Raised (cs ++ cs') := by
  rcases List.eq_nil_or_concat cs' with rfl | ⟨init, ⟨c, r⟩, rfl⟩
  · rwa [List.append_nil]
  · rw [List.concat_eq_append, raised_concat] at h'
    rwa [List.concat_eq_append, ← List.append_assoc, raised_concat]

/-- All calls went well, and no frame is awaited behind a break condition. -/
structure Settled (cs : Transcript) : Prop where
  clean : Clean cs
  calm : ¬ Raised cs

theorem Settled.nil : Settled [] := ⟨.nil, not_raised_nil⟩

theorem Settled.append (h : Settled cs) (h' : Settled cs') : Settled (cs ++ cs') :=
  ⟨clean_append.2 ⟨h.clean, h'.clean⟩, not_raised_append h.calm h'.calm⟩

/-- The last call decides whether a frame is awaited. -/
theorem Settled.concat (h : Clean (cs ++ [(c, r)])) (hc : c ≠ .breakLine true) :
    Settled (cs ++ [(c, r)]) :=
  ⟨h, by rwa [raised_concat]⟩

/-- One more call that goes well. -/
theorem Settled.push (h : Settled cs) (hf : c.fault r = none) (hc : c ≠ .breakLine true) :
    Settled (cs ++ [(c, r)]) :=
  .concat (clean_append.2 ⟨h.clean, clean_cons.2 ⟨hf, .nil⟩⟩) hc

theorem Settled.of_forall (h : ∀ x ∈ cs, x.1.fault x.2 = none ∧ x.1 ≠ .breakLine true) :
    Settled cs := by
  refine ⟨fun x hx => (h x hx).1, ?_⟩
  rintro ⟨r, hr⟩
  exact (h _ (List.mem_of_getLast? hr)).2 rfl

/-! ### Calls that go wrong -/

/-- The calls of a step that fails with an error. -/
inductive Broken : Transcript → DeviceError → Prop
  /-- All calls went well, and the reason lies elsewhere. -/
  | refused {cs : Transcript} {e : DeviceError} (h : Settled cs) (he : e.isRetryable = false) :
      Broken cs e
  /-- The last call went wrong. -/
  | failed {cs : Transcript} {c : Call} {r : Reply} {e : DeviceError} (h : Settled cs)
      (hf : c.fault r = some e) : Broken (cs ++ [(c, r)]) e
  /-- The frame behind a break condition did not arrive, and the break condition was ended. -/
  | unwoken {n : Nat} {r₁ r₂ r₃ : Reply} {e : DeviceError}
      (h : (Call.breakLine true).fault r₁ = none) (hf : (Call.read n).fault r₂ = some e) :
      Broken [(.breakLine true, r₁), (.read n, r₂), (.breakLine false, r₃)]
        (((Call.breakLine false).fault r₃).getD e)

/-- An operation that made the calls `cs` and ended with `result` made no call behind one that went
wrong, and gave its error. -/
structure FailsFast {α : Type} (cs : Transcript) (result : Except DeviceError α) : Prop where
  /-- A call that goes wrong is the last one, unless it reads the frame behind a break condition. -/
  last : ∀ pre c r post e, cs = pre ++ (c, r) :: post → c.fault r = some e →
    ¬ (Raised pre ∧ ∃ n, c = .read n) → post = [] ∧ result = .error e
  /-- If it does, only the break condition is ended; if that fails too, this is the failure. -/
  waking : ∀ pre n r post e, cs = pre ++ (.read n, r) :: post → (Call.read n).fault r = some e →
    Raised pre → ∃ lowered, post = [(.breakLine false, lowered)] ∧
      result = .error (((Call.breakLine false).fault lowered).getD e)
  /-- The link is blamed only if it is at fault. -/
  caused : ∀ e, result = .error e → e.isRetryable = true → ∃ c r, (c, r) ∈ cs ∧ c.fault r = some e

/-- Where all calls went well there is nothing to fail on. -/
theorem FailsFast.of_clean {α : Type} {result : Except DeviceError α} (h : Clean cs)
    (hr : ∀ e, result = .error e → e.isRetryable = false) : FailsFast cs result := by
  have hnone : ∀ pre c r post e, cs = pre ++ (c, r) :: post → c.fault r ≠ some e := by
    intro pre c r post e heq hf
    have hclean := h (c, r) (by rw [heq]; simp)
    exact absurd (hf.symm.trans hclean) (by simp)
  exact ⟨fun pre c r post e heq hf => absurd hf (hnone _ _ _ _ _ heq),
    fun pre n r post e heq hf => absurd hf (hnone _ _ _ _ _ heq),
    fun e he hretry => absurd (hr e he) (by simp [hretry])⟩

/-- Where the last call goes wrong, and no frame is awaited, all ends there. -/
theorem Settled.failsFast {α : Type} (h : Settled cs) (hf : c.fault r = some e) :
    FailsFast (cs ++ [(c, r)]) (.error e : Except DeviceError α) := by
  -- only the last call can be one that goes wrong
  have honly : ∀ {pre c' r' post e'}, cs ++ [(c, r)] = pre ++ (c', r') :: post →
      c'.fault r' = some e' → pre = cs ∧ post = [] ∧ e' = e := by
    intro pre c' r' post e' heq hf'
    obtain ⟨mid, hpre, htail⟩ := h.clean.split hf' heq
    cases mid with
    | cons x xs => exact absurd (congrArg List.length htail) (by simp)
    | nil =>
      cases htail
      exact ⟨by rw [hpre, List.append_nil], rfl, Option.some.inj (hf'.symm.trans hf)⟩
  refine ⟨fun pre c' r' post e' heq hf' _ => ?_, fun pre n r' post e' heq hf' hraised => ?_,
    fun e' he' _ => ⟨c, r, by simp, by cases he'; exact hf⟩⟩
  · obtain ⟨-, hpost, rfl⟩ := honly heq hf'
    exact ⟨hpost, rfl⟩
  · rw [(honly heq hf').1] at hraised
    exact absurd hraised h.calm

/-- Where the frame does not arrive behind a break condition, only that is ended. -/
theorem Clean.failsFast_unwoken {α : Type} {n : Nat} {raised read lowered : Reply}
    (h : Clean (cs ++ [(.breakLine true, raised)])) (hf : (Call.read n).fault read = some e) :
    FailsFast (cs ++ [(.breakLine true, raised)] ++ [(.read n, read), (.breakLine false, lowered)])
      (.error (((Call.breakLine false).fault lowered).getD e) : Except DeviceError α) := by
  -- the call that goes wrong reads the frame, or ends the break condition
  have honly : ∀ {pre c r post e'}, cs ++ [(.breakLine true, raised)] ++
        [(.read n, read), (.breakLine false, lowered)] = pre ++ (c, r) :: post →
      c.fault r = some e' →
        (Raised pre ∧ c = .read n ∧ e' = e ∧ post = [(.breakLine false, lowered)]) ∨
        (c = .breakLine false ∧ r = lowered ∧ post = []) := by
    intro pre c r post e' heq hf'
    obtain ⟨mid, hpre, htail⟩ := h.split hf' heq
    match mid, hpre, htail with
    | [], hpre, htail =>
      cases htail
      rw [List.append_nil] at hpre
      exact .inl ⟨by rw [hpre, raised_concat], rfl, Option.some.inj (hf'.symm.trans hf), rfl⟩
    | [x], _, htail =>
      cases htail
      exact .inr ⟨rfl, rfl, rfl⟩
    | x :: y :: rest, _, htail => exact absurd (congrArg List.length htail) (by simp)
  refine ⟨fun pre c r post e' heq hf' hnot => ?_, fun pre m r post e' heq hf' hraised => ?_,
    fun e' he' _ => ?_⟩
  · rcases honly heq hf' with ⟨hraised, hc, -, -⟩ | ⟨rfl, rfl, hpost⟩
    · exact absurd ⟨hraised, n, hc⟩ hnot
    · exact ⟨hpost, by rw [hf', Option.getD_some]⟩
  · rcases honly heq hf' with ⟨-, -, rfl, hpost⟩ | ⟨hc, -, -⟩
    · exact ⟨lowered, hpost, rfl⟩
    · exact absurd hc (by simp)
  · cases he'
    cases hlowered : (Call.breakLine false).fault lowered with
    | none => exact ⟨.read n, read, by simp, hf⟩
    | some e'' => exact ⟨.breakLine false, lowered, by simp, hlowered⟩

/-- A step that breaks off behind whole ones fails fast. -/
theorem Broken.failsFast {α : Type} (hs : Settled cs) (h : Broken part e) :
    FailsFast (cs ++ part) (.error e : Except DeviceError α) := by
  cases h with
  | refused h he =>
    refine .of_clean (clean_append.2 ⟨hs.clean, h.clean⟩) fun e' he' => ?_
    cases he'
    exact he
  | failed h hf =>
    rw [← List.append_assoc]
    exact (hs.append h).failsFast hf
  | @unwoken n r₁ r₂ r₃ e₀ h hf =>
    have hclean : Clean (cs ++ [(.breakLine true, r₁)]) :=
      clean_append.2 ⟨hs.clean, clean_cons.2 ⟨h, .nil⟩⟩
    have hassoc : cs ++ [(.breakLine true, r₁), (.read n, r₂), (.breakLine false, r₃)] =
        cs ++ [(.breakLine true, r₁)] ++ [(.read n, r₂), (.breakLine false, r₃)] := by simp
    rw [hassoc]
    exact hclean.failsFast_unwoken hf

end Transcript

end DiveLink
