import DiveLink.Proofs.Session.Compositional
import DiveLink.Proofs.Session.Discipline

/-!
# Reports of progress

While bytes arrive, a program reports how far it has come.  Each report is kept together with the
calls in front of it, so that what it says can be held against what these calls have brought.

## Main definitions

* `Mark`, `Entry.marks` — a report of progress with the calls in front of it, and those of a
  history.
* `Mark.Climbs` — reports that are true, of one total, and never fall.
* `Session.Announces R x` — the result, the calls and the reports of the program `x` are as `R`
  says.
* `Session.Counting` — a program that reads block after block and counts the bytes.

## Main results

* `Session.Announces.bind` — the reports of two programs one after the other.
* `Session.Counting.climbs` — **a program that counts what it reads reports what has arrived.**
-/

namespace DiveLink

/-! ### Reports in a history -/

/-- A report of progress, and the calls that were made in front of it. -/
structure Mark where
  calls : Transcript
  progress : Progress

/-- The bytes that a report says are done. -/
def Mark.current (m : Mark) : Nat := m.progress.current.toNat

/-- The report behind some more calls. -/
def Mark.behind (cs : Transcript) (m : Mark) : Mark := { m with calls := cs ++ m.calls }

theorem Mark.map_behind_nil (ms : List Mark) : ms.map (Mark.behind []) = ms := List.map_id ms

theorem Mark.map_behind_append (cs cs' : Transcript) (ms : List Mark) :
    ms.map (Mark.behind (cs ++ cs')) = (ms.map (Mark.behind cs')).map (Mark.behind cs) := by
  rw [List.map_map]
  refine List.map_congr_left fun m _ => ?_
  simp [Mark.behind]

namespace Entry

/-- The progress that an entry reports. -/
def progress? : Entry → Option Progress
  | .event (.progress p) => some p
  | _ => none

/-- The reports of progress among some entries, first things first, each with the calls in front of
it. -/
def marks : List Entry → List Mark
  | [] => []
  | .call c r :: es => (marks es).map (Mark.behind [(c, r)])
  | .event (.progress p) :: es => ⟨[], p⟩ :: marks es
  | _ :: es => marks es

theorem marks_append (es es' : List Entry) :
    marks (es ++ es') = marks es ++ (marks es').map (Mark.behind (es.filterMap call?)) := by
  induction es with
  | nil => exact (Mark.map_behind_nil _).symm
  | cons e es ih =>
    cases e with
    | call c r =>
      show (marks (es ++ es')).map _ = (marks es).map _ ++
        (marks es').map (Mark.behind ([(c, r)] ++ es.filterMap call?))
      rw [ih, List.map_append, Mark.map_behind_append]
    | event e =>
      cases e with
      | progress p => exact congrArg (List.cons _) ih
      | _ => exact ih
    | _ => exact ih

/-- Where no progress is reported there is no report. -/
theorem marks_eq_nil {es : List Entry} (h : ∀ e ∈ es, e.progress? = none) : marks es = [] := by
  induction es with
  | nil => rfl
  | cons e es ih =>
    have hrest := ih fun e' he' => h e' (List.mem_cons_of_mem e he')
    have he := h e List.mem_cons_self
    cases e with
    | call c r => rw [marks, hrest, List.map_nil]
    | event e =>
      cases e with
      | progress p => exact absurd he (by simp [progress?])
      | _ => exact hrest
    | _ => exact hrest

end Entry

/-! ### Reports that are true -/

namespace Mark

/-- The reports are of a transfer of `total` bytes; the calls in front of each have brought the
bytes that it says, and from `low` on they never fall. -/
structure Climbs (T : Transcript → Nat → Prop) (total low : Nat) (ms : List Mark) : Prop where
  maximum : ∀ m ∈ ms, m.progress.maximum.toNat = total
  brought : ∀ m ∈ ms, T m.calls m.current
  within : ∀ m ∈ ms, low ≤ m.current ∧ m.current ≤ total
  ordered : ms.Pairwise fun m m' => m.current ≤ m'.current

variable {T : Transcript → Nat → Prop} {total low : Nat} {ms ms' : List Mark} {cs : Transcript}

theorem Climbs.nil : Climbs T total low [] :=
  ⟨by simp, by simp, by simp, .nil⟩

theorem Climbs.cons {p : Progress} (hmaximum : p.maximum.toNat = total)
    (hbrought : T [] p.current.toNat) (hlow : low ≤ p.current.toNat)
    (htotal : p.current.toNat ≤ total) (h : Climbs T total p.current.toNat ms) :
    Climbs T total low (⟨[], p⟩ :: ms) where
  maximum := List.forall_mem_cons.2 ⟨hmaximum, h.maximum⟩
  brought := List.forall_mem_cons.2 ⟨hbrought, h.brought⟩
  within := List.forall_mem_cons.2
    ⟨⟨hlow, htotal⟩, fun m hm => ⟨Nat.le_trans hlow (h.within m hm).1, (h.within m hm).2⟩⟩
  ordered := List.pairwise_cons.2 ⟨fun m hm => (h.within m hm).1, h.ordered⟩

/-- Behind some more calls. -/
theorem Climbs.behind (h : Climbs (fun cs' => T (cs ++ cs')) total low ms) :
    Climbs T total low (ms.map (Mark.behind cs)) where
  maximum := List.forall_mem_map.2 h.maximum
  brought := List.forall_mem_map.2 h.brought
  within := List.forall_mem_map.2 h.within
  ordered := List.pairwise_map.2 h.ordered

/-- How far the reports go, if the first of them goes on from `low`. -/
def reached (low : Nat) (ms : List Mark) : Nat := (ms.getLast?.map current).getD low

theorem reached_cons (low : Nat) (m : Mark) (ms : List Mark) :
    reached low (m :: ms) = reached m.current ms := by
  unfold reached
  rw [List.getLast?_cons]
  cases ms.getLast? <;> rfl

theorem reached_behind (low : Nat) (cs : Transcript) (ms : List Mark) :
    reached low (ms.map (Mark.behind cs)) = reached low ms := by
  unfold reached
  rw [List.getLast?_map, Option.map_map]
  rfl

/-- Reports that go all the way end with a report that says so. -/
theorem Climbs.finished {m : Mark} (h : Climbs T total low (m :: ms))
    (hreached : reached m.current ms = total) :
    ∃ m', (m :: ms).getLast? = some m' ∧ m'.progress.current = m'.progress.maximum := by
  obtain ⟨m', hm'⟩ : ∃ m', (m :: ms).getLast? = some m' := ⟨_, List.getLast?_cons⟩
  rw [← reached_cons low, reached, hm', Option.map_some, Option.getD_some] at hreached
  refine ⟨m', hm', UInt32.toNat_inj.1 (hreached.trans (h.maximum m' ?_).symm)⟩
  exact List.mem_of_getLast? hm'

end Mark

namespace Session

/-! ### Programs that report -/

variable {σ δ α β γ : Type} {x : Op σ δ α}

/-- The result, the calls and the reports of the program `x` are as `R` says.  The reports are there
only if the caller wants events. -/
def Announces (R : Except DeviceError α → Transcript → List Mark → Prop) (x : Op σ δ α) : Prop :=
  ∀ s, ∃ es ms, (run x s).2.history = s.history ++ es ∧ (run x s).2.listening = s.listening ∧
    Entry.marks es = (if s.listening then ms else []) ∧
    R (run x s).1 (es.filterMap Entry.call?) ms

namespace Announces

variable {R R' : Except DeviceError α → Transcript → List Mark → Prop}
  {P : Except DeviceError β → Transcript → List Mark → Prop}

theorem imp (hx : Announces R x) (h : ∀ r cs ms, R r cs ms → R' r cs ms) : Announces R' x := by
  intro s
  obtain ⟨es, ms, hhistory, hlistening, hmarks, hR⟩ := hx s
  exact ⟨es, ms, hhistory, hlistening, hmarks, h _ _ _ hR⟩

theorem congr {y : Op σ δ α} (hy : Announces R y) (h : ∀ s, run x s = run y s) :
    Announces R x := by
  intro s
  rw [h s]
  exact hy s

/-- **The reports of two programs one after the other** are those of the first, and those of the
second behind the calls of the first. -/
theorem bind {f : α → Op σ δ β} (hx : Announces R x)
    (herror : ∀ e cs ms, R (.error e) cs ms → P (.error e) cs ms)
    (hf : ∀ a cs ms, R (.ok a) cs ms →
      Announces (fun r cs' ms' => P r (cs ++ cs') (ms ++ ms'.map (Mark.behind cs))) (f a)) :
    Announces P (x >>= f) := by
  intro s
  obtain ⟨es, ms, hhistory, hlistening, hmarks, hR⟩ := hx s
  rw [run_bind]
  rcases hrun : run x s with ⟨e | a, t⟩ <;> rw [hrun] at hhistory hlistening hR
  · exact ⟨es, ms, hhistory, hlistening, hmarks, herror e _ ms hR⟩
  · obtain ⟨es', ms', hhistory', hlistening', hmarks', hP⟩ := hf a _ ms hR t
    refine ⟨es ++ es', ms ++ ms'.map (Mark.behind (es.filterMap Entry.call?)), ?_, ?_, ?_, ?_⟩
    · rw [hhistory', hhistory, List.append_assoc]
    · rw [hlistening', hlistening]
    · -- the reports of the second come behind the calls of the first
      rw [Entry.marks_append, hmarks, hmarks', hlistening]
      cases s.listening <;> rfl
    · rw [List.filterMap_append]
      exact hP

/-- What reports nothing. -/
theorem silent (h : Records (fun e => e.progress? = none) x) :
    Announces (fun _ _ ms => ms = []) x := by
  intro s
  obtain ⟨es, hgrows, hes⟩ := h s
  refine ⟨es, [], hgrows.history, hgrows.listening, ?_, rfl⟩
  rw [Entry.marks_eq_nil hes, ite_self]

theorem silent_bind {f : α → Op σ δ β} (hx : Announces (fun _ _ ms => ms = []) x)
    (hf : ∀ a, Announces (fun _ _ ms => ms = []) (f a)) :
    Announces (fun _ _ ms => ms = []) (x >>= f) := by
  refine hx.bind (fun _ _ _ h => h) ?_
  rintro a cs _ rfl
  refine (hf a).imp ?_
  rintro r cs' _ rfl
  rfl

/-- What the calls of a program have brought is known from the discipline that it keeps. -/
theorem conducts [Link σ] {D : Discipline} {Q : α → Transcript → Prop} {B : Transcript → Prop}
    (hx : Announces R x) (hc : Conducts D Q B x) :
    Announces (fun r cs ms => R r cs ms ∧ ∀ a, r = .ok a → Q a cs) x := by
  intro s
  obtain ⟨es, ms, hhistory, hlistening, hmarks, hR⟩ := hx s
  obtain ⟨cs, hmade, hQ⟩ := hc.of_ok s
  have hcalls : es.filterMap Entry.call? = cs := by
    have h := hmade.calls
    rw [calls, hhistory, List.filterMap_append] at h
    exact List.append_cancel_left h
  refine ⟨es, ms, hhistory, hlistening, hmarks, hR, ?_⟩
  rw [hcalls]
  exact hQ

/-- Behind a program that reports nothing, of whose calls something is known. -/
theorem silent_step [Link σ] {D : Discipline} {Q : α → Transcript → Prop} {B : Transcript → Prop}
    {f : α → Op σ δ β} (hx : Announces (fun _ _ ms => ms = []) x) (hc : Conducts D Q B x)
    (herror : ∀ e cs, P (.error e) cs [])
    (hf : ∀ a cs, Q a cs →
      Announces (fun r cs' ms => P r (cs ++ cs') (ms.map (Mark.behind cs))) (f a)) :
    Announces P (x >>= f) := by
  refine (hx.conducts hc).bind ?_ ?_
  · rintro e cs _ ⟨rfl, -⟩
    exact herror e cs
  · rintro a cs _ ⟨rfl, hQ⟩
    exact hf a cs (hQ a rfl)

/-- A report of progress in front of a program. -/
theorem progress_bind {p : Progress} {f : Unit → Op σ δ α}
    (hf : Announces (fun r cs ms => R r cs (⟨[], p⟩ :: ms)) (f ())) :
    Announces R (emit (.progress p) >>= f) := by
  intro s
  obtain ⟨t, ht⟩ : ∃ t, t = (run (emit (.progress p) : Op σ δ Unit) s).2 := ⟨_, rfl⟩
  have hgrows := ht ▸ grows_emit (.progress p) s
  obtain ⟨es, ms, hhistory, hlistening, hmarks, hR⟩ := hf t
  rw [run_bind_ok (run_emit_ok _ s), ← ht]
  -- whoever does not listen is told nothing, and then the report is no entry either
  by_cases htold : s.listening
  · rw [if_pos htold] at hgrows
    rw [hgrows.listening, if_pos htold] at hmarks
    refine ⟨.event (.progress p) :: es, _, ?_, hlistening.trans hgrows.listening, ?_, hR⟩
    · rw [hhistory, hgrows.history, List.append_assoc]
      rfl
    · rw [if_pos htold]
      exact congrArg (List.cons _) hmarks
  · rw [if_neg htold] at hgrows
    rw [hgrows.listening, if_neg htold] at hmarks
    refine ⟨es, _, ?_, hlistening.trans hgrows.listening, ?_, hR⟩
    · rw [hhistory, hgrows.history, List.append_nil]
    · rw [hmarks, if_neg htold]

/-- A result that is put in another form. -/
theorem returning {f : α → β} (hx : Announces R x) (h : ∀ r cs ms, R r cs ms → P (r.map f) cs ms) :
    Announces P (x >>= fun a => pure (f a)) := by
  intro s
  obtain ⟨es, ms, hhistory, hlistening, hmarks, hR⟩ := hx s
  rw [bind_pure_comp, run_map]
  exact ⟨es, ms, hhistory, hlistening, hmarks, h _ _ _ hR⟩

end Announces

/-- Steps that report nothing. -/
theorem eventless_silent [Link σ] :
    Eventless (σ := σ) (δ := δ) fun x => Records (fun e => e.progress? = none) x :=
  eventless_records (fun _ _ => rfl) fun _ => rfl

theorem Announces.reject [Link σ] (f : DataFault) :
    Announces (fun r _ ms => ms = [] ∧ r = .error (.dataFormat f)) (reject f : Op σ δ α) := by
  intro s
  obtain ⟨es, ms, hhistory, hlistening, hmarks, hnil⟩ :=
    Announces.silent (eventless_silent.reject (α := α) f) s
  exact ⟨es, ms, hhistory, hlistening, hmarks, hnil, rfl⟩

/-! ### Programs that count -/

/-- The number of bytes in some blocks. -/
def blockBytes : List Block → Nat
  | [] => 0
  | b :: bs => b.size + blockBytes bs

/-- The program `loop` reads block after block by `step`, and reports after each how far it has
come.  By `Brings`, what the calls have brought is known. -/
structure Counting (step : Block → Op σ δ β) (loop : Progress → List Block → Op σ δ γ)
    (Brings : List Block → Transcript → Prop) : Prop where
  nil : ∀ p, Announces (fun _ _ ms => ms = []) (loop p [])
  cons : ∀ p b bs, ∃ join : β → γ → γ, ∀ s, run (loop p (b :: bs)) s =
    run (step b >>= fun part => emit (.progress (p.advance b.size)) >>= fun _ =>
      loop (p.advance b.size) bs >>= fun rest => pure (join part rest)) s
  step : ∀ b, Announces (fun r cs ms => ms = [] ∧ ∀ part, r = .ok part → Brings [b] cs) (step b)
  append : ∀ {bs bs' cs cs'}, Brings bs cs → Brings bs' cs' → Brings (bs ++ bs') (cs ++ cs')

variable {step : Block → Op σ δ β} {loop : Progress → List Block → Op σ δ γ}
  {Brings : List Block → Transcript → Prop}

/-- **A program that counts what it reads reports what has arrived**, and when it is done it has
reported all of it. -/
theorem Counting.climbs (h : Counting step loop Brings) {total : Nat} :
    ∀ (bs : List Block) (p : Progress) {T : Transcript → Nat → Prop},
      p.maximum.toNat = total → p.current.toNat + blockBytes bs ≤ total →
      (∀ bs₁ bs₂ cs, bs = bs₁ ++ bs₂ → Brings bs₁ cs → T cs (p.current.toNat + blockBytes bs₁)) →
      Announces (fun r _ ms => Mark.Climbs T total p.current.toNat ms ∧
        ((∃ a, r = .ok a) →
          Mark.reached p.current.toNat ms = p.current.toNat + blockBytes bs)) (loop p bs) := by
  intro bs
  -- the count so far stands in `p`; by `T`, what the calls in front have brought is added to it
  induction bs with
  | nil =>
    intro p T _ _ _
    refine (h.nil p).imp ?_
    rintro r cs _ rfl
    exact ⟨.nil, fun _ => rfl⟩
  | cons b bs ih =>
    intro p T hmaximum htotal hT
    rw [blockBytes] at htotal
    have hnext : (p.advance b.size).current.toNat = p.current.toNat + b.size :=
      Progress.toNat_advance (by omega)
    have hsame : (p.advance b.size).maximum.toNat = total := by
      rw [Progress.advance_maximum, hmaximum]
    obtain ⟨join, hcons⟩ := h.cons p b bs
    refine Announces.congr ?_ hcons
    refine (h.step b).bind ?_ ?_
    · rintro e cs _ ⟨rfl, -⟩
      exact ⟨.nil, fun ⟨a, ha⟩ => absurd ha (by simp)⟩
    · rintro part cs _ ⟨rfl, hbrings⟩
      have hb := hbrings part rfl
      -- what comes next is held against the calls of this block and its own together
      refine Announces.progress_bind ((ih (p.advance b.size) (T := fun cs' => T (cs ++ cs'))
        hsame (by omega) ?_).returning ?_)
      · intro bs₁ bs₂ cs' hbs hcs'
        have hall := hT (b :: bs₁) bs₂ _ (congrArg _ hbs) (h.append hb hcs')
        rwa [blockBytes, ← Nat.add_assoc, ← hnext] at hall
      · rintro r cs' ms ⟨hclimbs, hreached⟩
        -- the report behind this block says what the block has brought
        have hfirst := hT [b] bs cs rfl hb
        rw [blockBytes, blockBytes, Nat.add_zero, ← hnext] at hfirst
        refine ⟨Mark.Climbs.behind (.cons hsame ?_ (by omega) (by omega) hclimbs), ?_⟩
        · rwa [List.append_nil]
        · rintro ⟨a, ha⟩
          have hdone : ∃ rest, r = .ok rest := by
            cases r with
            | error e => exact absurd ha (by simp [Except.map])
            | ok rest => exact ⟨rest, rfl⟩
          rw [List.nil_append, Mark.reached_behind, Mark.reached_cons, blockBytes, ← Nat.add_assoc,
            ← hnext]
          exact hreached hdone

end Session
end DiveLink
