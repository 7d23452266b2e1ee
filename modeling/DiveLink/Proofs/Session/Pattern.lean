import DiveLink.Proofs.Session.Compositional
import DiveLink.Proofs.Session.Discipline
import DiveLink.Proofs.Session.Exchange

/-!
# Patterns in the calls of a program

Some rules on calls are about what stands directly in front of a call or directly behind it: a line
that is raised is lowered by the next call but one, a command goes out behind a handshake.  A rule
of this kind is kept where transcripts are put together, so it is enough to know the calls of each
step of a program.  This holds however the steps end.

## Main definitions

* `Transcript.Additive G` — the property `G` of transcripts is kept where these are put together.
* `Transcript.Everywhere R` — each call stands where the rule `R` allows it.
* `Transcript.Local R` — a rule does not depend on what is far away.
* `Session.Makes G x` — the calls of the program `x` have the property `G`.
* `Packet.Course` — the calls of an exchange, up to the one at which it ends.

## Main results

* `Transcript.Local.additive` — **local rules are kept where transcripts are put together.**
* `Session.Makes.bind` — **what is additive holds of programs put together.**
* `Packet.makes_ask` — **an exchange makes five calls, or fewer where one of them fails.**
-/

namespace DiveLink

namespace Transcript

variable {G H : Transcript → Prop} {cs cs' : Transcript} {x : Call × Reply}

/-- A property of transcripts is kept where these are put together. -/
structure Additive (G : Transcript → Prop) : Prop where
  nil : G []
  append : ∀ {cs cs' : Transcript}, G cs → G cs' → G (cs ++ cs')

theorem additive_forall (P : Call × Reply → Prop) : Additive fun cs => ∀ x ∈ cs, P x where
  nil := by simp
  append h h' x hx := (List.mem_append.1 hx).elim (h x) (h' x)

/-! ### Rules on the neighbours of a call -/

/-- Each call stands where the rule `R` allows it, with the calls in front of it and those behind
it. -/
def Everywhere (R : Transcript → Call × Reply → Transcript → Prop) (cs : Transcript) : Prop :=
  ∀ pre x post, cs = pre ++ x :: post → R pre x post

/-- What a rule allows it allows also with more calls far in front and far behind. -/
def Local (R : Transcript → Call × Reply → Transcript → Prop) : Prop :=
  ∀ front pre x post back, R pre x post → R (front ++ pre) x (post ++ back)

variable {R : Transcript → Call × Reply → Transcript → Prop}

@[simp] theorem everywhere_nil : Everywhere R [] := by
  intro pre x post h
  exact absurd (congrArg List.length h) (by simp)

@[simp] theorem everywhere_cons :
    Everywhere R (x :: cs) ↔ R [] x cs ∧ Everywhere (fun pre => R (x :: pre)) cs := by
  constructor
  · intro h
    refine ⟨h [] x cs rfl, fun pre y post heq => h (x :: pre) y post ?_⟩
    rw [heq, List.cons_append]
  · rintro ⟨hfirst, hrest⟩ pre y post heq
    cases pre with
    | nil =>
      rw [List.nil_append, List.cons.injEq] at heq
      obtain ⟨rfl, rfl⟩ := heq
      exact hfirst
    | cons z pre =>
      rw [List.cons_append, List.cons.injEq] at heq
      obtain ⟨rfl, heq⟩ := heq
      exact hrest pre y post heq

theorem everywhere_singleton : Everywhere R [x] ↔ R [] x [] := by
  simp

/-- **Local rules are kept where transcripts are put together.** -/
theorem Local.additive (hR : Local R) : Additive (Everywhere R) where
  nil := everywhere_nil
  append := by
    intro cs cs' h h' pre x post heq
    rcases List.append_eq_append_iff.1 heq with ⟨mid, hpre, htail⟩ | ⟨mid, hcs, htail⟩
    · -- the call is one of the second transcript
      have hmid := hR cs mid x post [] (h' mid x post htail)
      rwa [← hpre, List.append_nil] at hmid
    · cases mid with
      | nil =>
        rw [List.append_nil] at hcs
        have hmid := hR pre [] x post [] (h' [] x post htail.symm)
        rwa [List.append_nil, List.append_nil] at hmid
      | cons y mid =>
        -- the call is one of the first transcript
        rw [List.cons_append, List.cons.injEq] at htail
        obtain ⟨rfl, rfl⟩ := htail
        exact hR [] pre x mid cs' (h pre x mid hcs)

end Transcript

namespace Session

open Transcript

variable {σ δ α β : Type} {s t : Session σ δ} {cs cs' : Transcript} {G G' H : Transcript → Prop}
  {x y : Op σ δ α}

/-- Only one transcript leads from one session to another. -/
theorem Made.unique (h : Made s t cs) (h' : Made s t cs') : cs = cs' :=
  List.append_cancel_left (h.calls.symm.trans h'.calls)

/-- However the program `x` ends, its calls have the property `G`. -/
def Makes (G : Transcript → Prop) (x : Op σ δ α) : Prop :=
  ∀ s, ∃ cs, Made s (run x s).2 cs ∧ G cs

namespace Makes

theorem imp (hx : Makes G x) (h : ∀ cs, G cs → H cs) : Makes H x := by
  intro s
  obtain ⟨cs, hmade, hcs⟩ := hx s
  exact ⟨cs, hmade, h cs hcs⟩

/-- Programs that run alike make the same calls. -/
theorem congr (hy : Makes G y) (h : ∀ s, run x s = run y s) : Makes G x := by
  intro s
  rw [h s]
  exact hy s

/-- A program that makes no call. -/
theorem still (hnil : G []) (h : ∀ s, Made s (run x s).2 []) : Makes G x :=
  fun s => ⟨[], h s, hnil⟩

/-- One program behind the other makes the calls of both, or only those of the first. -/
theorem seq {f : α → Op σ δ β} (hx : Makes G x) (hf : ∀ a, Makes G' (f a))
    (hfirst : ∀ cs, G cs → H cs) (hboth : ∀ cs cs', G cs → G' cs' → H (cs ++ cs')) :
    Makes H (x >>= f) := by
  intro s
  obtain ⟨cs, hmade, hcs⟩ := hx s
  rw [run_bind]
  rcases hrun : run x s with ⟨e | a, t⟩ <;> rw [hrun] at hmade
  · exact ⟨cs, hmade, hfirst cs hcs⟩
  · obtain ⟨cs', hmade', hcs'⟩ := hf a t
    exact ⟨cs ++ cs', hmade.trans hmade', hboth cs cs' hcs hcs'⟩

/-- **What is additive holds of programs put together.** -/
theorem bind {f : α → Op σ δ β} (hG : Additive G) (hx : Makes G x) (hf : ∀ a, Makes G (f a)) :
    Makes G (x >>= f) :=
  hx.seq hf (fun _ h => h) fun _ _ h h' => hG.append h h'

theorem map {f : α → β} (hx : Makes G x) : Makes G (f <$> x) := by
  intro s
  rw [run_map]
  exact hx s

/-- Either of two programs is run. -/
theorem choice {p : Prop} [Decidable p] (hx : Makes G x) (hy : Makes G y) :
    Makes G (if p then x else y) := by
  by_cases hp : p
  · rwa [if_pos hp]
  · rwa [if_neg hp]

/-- What is told the user about a failure is no call. -/
theorem warning {w : Warning} (hx : Makes G x) : Makes G (Session.warning w x) := by
  intro s
  obtain ⟨cs, hmade, hcs⟩ := hx s
  rw [run_warning]
  rcases hrun : run x s with ⟨e | a, t⟩ <;> rw [hrun] at hmade
  · exact ⟨cs, hmade.quiet (made_warned [w] t), hcs⟩
  · exact ⟨cs, hmade, hcs⟩

/-! ### Steps that make no call -/

variable (hnil : G [])
include hnil

theorem pure (a : α) : Makes G (pure a : Op σ δ α) := still hnil fun s => .refl s

theorem throw (e : DeviceError) : Makes G (throw e : Op σ δ α) := still hnil fun s => .refl s

theorem get : Makes G (get : Op σ δ (Session σ δ)) := still hnil fun s => .refl s

/-- What is remembered about the device makes no call. -/
theorem remember (f : δ → δ) :
    Makes G (modify fun s => { s with device := f s.device } : Op σ δ Unit) :=
  still hnil fun s => ⟨by simp [calls, history], rfl⟩

theorem record (ws : List Warning) : Makes G (record (ws.map .warning) : Op σ δ Unit) :=
  still hnil fun s => made_warned ws s

theorem reject (f : DataFault) : Makes G (reject f : Op σ δ α) :=
  still hnil fun s => made_warned f.warning.toList s

theorem emit (e : Event) : Makes G (emit e : Op σ δ Unit) := by
  apply still hnil
  intro s
  rw [run_emit]
  by_cases hlistening : s.listening
  · rw [if_pos hlistening]
    exact (grows_record [.event e] s).made
  · rw [if_neg hlistening]
    exact .refl s

theorem report (w : Walk) : Makes G (report w : Op σ δ (List Dive)) := by
  apply still hnil
  intro s
  refine ⟨?_, (run_report w s).2.token⟩
  rw [calls_report, List.append_nil]

end Makes

/-- A property that holds of each call of a kind holds of programs that make such calls. -/
theorem stepwise_makes [Link σ] {kind : Call → Prop} (hG : Additive G)
    (hcall : ∀ c, kind c → ∀ r, G [(c, r)]) :
    Stepwise (σ := σ) (δ := δ) kind fun x => Makes G x where
  pure := Makes.pure hG.nil
  throw := Makes.throw hG.nil
  bind := Makes.bind hG
  perform := fun c hc s => ⟨_, made_called c s, hcall c hc _⟩

end Session

/-! ### Exchanges -/

namespace Packet

open Session Transcript

/-- The calls of an exchange of a command and an answer of `length` bytes, up to the one at which it
ends. -/
inductive Course (settle : Nat) (command : Bytes) (length : Nat) : Transcript → Prop
  | cancelled : Course settle command length []
  | unraised {rested raised : Reply} {e : IoError} (h : raised.failure = some e) :
      Course settle command length [(.sleep settle, rested), (.rts true, raised)]
  | unsent {rested raised sent : Reply} {e : DeviceError} (hraise : raised.failure = none)
      (h : (Call.write command).fault sent = some e) :
      Course settle command length
        [(.sleep settle, rested), (.rts true, raised), (.write command, sent)]
  | unlowered {rested raised sent lowered : Reply} (hraise : raised.failure = none)
      (hsent : (Call.write command).fault sent = none) :
      Course settle command length
        [(.sleep settle, rested), (.rts true, raised), (.write command, sent),
          (.rts false, lowered)]
  | lowered {rested raised sent lowered got : Reply} (hraise : raised.failure = none)
      (hsent : (Call.write command).fault sent = none) :
      Course settle command length
        [(.sleep settle, rested), (.rts true, raised), (.write command, sent),
          (.rts false, lowered), (.read length, got)]

variable {σ δ : Type} [Link σ]

/-- **An exchange makes five calls, or fewer where one of them fails.** -/
theorem makes_ask (settle : Nat) (command : Bytes) (parameters size : Nat) :
    Makes (Course settle command (overhead + parameters + size))
      (ask settle command parameters size : Op σ δ Bytes) := by
  intro s
  have hasking := asking settle command parameters size s
  generalize (run (ask settle command parameters size) s).1 = r at hasking
  generalize (run (ask settle command parameters size) s).2 = t at hasking ⊢
  -- the calls up to each of those at which the exchange may end
  have hmraise := (made_called (.sleep settle) s).trans (made_called (.rts true) _)
  have hmwrite := hmraise.trans (made_called (.write command) _)
  have hmlower := hmwrite.trans (made_called (.rts false) _)
  have hmread := hmlower.trans (made_called (.read (overhead + parameters + size)) _)
  have hall : Sends settle command s → ∃ cs,
      Made s (after settle command (overhead + parameters + size) s) cs ∧
        Course settle command (overhead + parameters + size) cs :=
    fun h => ⟨_, hmread, .lowered h.raised (Reply.fault_eq_none.2 ⟨h.sent, h.accepted⟩)⟩
  cases hasking with
  | unsent h =>
    cases h with
    | cancelled _ => exact ⟨[], .refl s, .cancelled⟩
    | unraised _ hraise => exact ⟨_, hmraise, .unraised hraise⟩
    | unsent _ hraise hwrite =>
      exact ⟨_, hmwrite.quiet (made_warned _ _), .unsent hraise hwrite⟩
    | unlowered _ hraise hwrite => exact ⟨_, hmlower, .unlowered hraise hwrite⟩
  | unreceived h =>
    obtain ⟨cs, hmade, hcs⟩ := hall h
    exact ⟨cs, hmade.quiet (made_warned _ _), hcs⟩
  | unfit h =>
    obtain ⟨cs, hmade, hcs⟩ := hall h
    exact ⟨cs, hmade.quiet (made_warned _ _), hcs⟩
  | fit h hlength =>
    rw [hlength]
    exact hall h.toSends

end Packet
end DiveLink
