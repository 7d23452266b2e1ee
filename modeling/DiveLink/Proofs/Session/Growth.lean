import DiveLink.Session.Run

/-!
# What a program leaves behind

A program on the link adds entries to the history of its session and changes the link; unless it
says so, it leaves the device, the token and the listener of the session alone.

## Main definitions

* `Session.Grows s t es` — from session `s` to session `t` only the entries `es` were added.
* `Session.Records P x` — whatever the program `x` adds to the history has the property `P`.
* `Session.calls`, `Session.handed` — the calls made in a session, and the dives that were handed to
  its caller.

## Main results

* `Session.run_bind_eq_ok` — a program succeeds if each of its steps does.
* `Session.Records.bind` — what two programs record one after the other.
* `Session.handed_report` — **the dives of a walk are handed out, and nothing else is.**
-/

namespace DiveLink

/-- The dive that an entry says was handed out. -/
def Entry.dive? : Entry → Option Dive
  | .dive d => some d
  | _ => none

/-- The call to the link that an entry tells of, and its reply. -/
def Entry.call? : Entry → Option (Call × Reply)
  | .call c r => some (c, r)
  | _ => none

/-- What is wrong with a transfer that has moved `moved` bytes where `wanted` were asked for: the
failure of the link, or that it took too long. -/
def Reply.fault (r : Reply) (moved wanted : Nat) : Option DeviceError :=
  match r.failure with
  | some e => some (.io e)
  | none => if moved = wanted then none else some .timeout

theorem Reply.fault_eq_none {r : Reply} {moved wanted : Nat} :
    r.fault moved wanted = none ↔ r.failure = none ∧ moved = wanted := by
  unfold Reply.fault
  cases r.failure <;> simp

namespace Session

variable {σ δ α β : Type}

/-! ### Growth -/

/-- From the session `s` to the session `t` the entries `es` were added to the history, and the
link may have changed, but nothing else. -/
structure Grows (s t : Session σ δ) (es : List Entry) : Prop where
  device : t.device = s.device
  token : t.token = s.token
  listening : t.listening = s.listening
  past : t.past = es.reverse ++ s.past

variable {s t u : Session σ δ} {es es' : List Entry}

theorem Grows.refl (s : Session σ δ) : Grows s s [] := ⟨rfl, rfl, rfl, rfl⟩

theorem Grows.trans (h : Grows s t es) (h' : Grows t u es') : Grows s u (es ++ es') where
  device := h'.device.trans h.device
  token := h'.token.trans h.token
  listening := h'.listening.trans h.listening
  past := by rw [h'.past, h.past, List.reverse_append, List.append_assoc]

/-- Only one list of entries leads from one session to another. -/
theorem Grows.unique (h : Grows s t es) (h' : Grows s t es') : es = es' :=
  List.reverse_inj.1 (List.append_cancel_right (h.past.symm.trans h'.past))

theorem Grows.history (h : Grows s t es) : t.history = s.history ++ es := by
  simp [Session.history, h.past]

theorem grows_record (es : List Entry) (s : Session σ δ) :
    Grows s { s with past := es.reverse ++ s.past } es := ⟨rfl, rfl, rfl, rfl⟩

/-- The session with some warnings behind its history. -/
def warned (ws : List Warning) (s : Session σ δ) : Session σ δ :=
  { s with past := (ws.map .warning).reverse ++ s.past }

theorem grows_warned (ws : List Warning) (s : Session σ δ) :
    Grows s (warned ws s) (ws.map .warning) := ⟨rfl, rfl, rfl, rfl⟩

theorem run_emit_ok (e : Event) (s : Session σ δ) :
    run (emit e) s = (.ok (), (run (emit e) s).2) := by
  rw [run_emit]

/-- An event leaves a trace if the caller wants events, and nothing else. -/
theorem grows_emit (e : Event) (s : Session σ δ) :
    Grows s (run (emit e) s).2 (if s.listening then [.event e] else []) := by
  rw [run_emit]
  split
  · exact grows_record [.event e] s
  · exact .refl s

/-! ### Programs that succeed -/

theorem run_bind_eq_ok {x : Op σ δ α} {f : α → Op σ δ β} {b : β} :
    run (x >>= f) s = (.ok b, u) ↔ ∃ a t, run x s = (.ok a, t) ∧ run (f a) t = (.ok b, u) := by
  rw [run_bind]
  rcases hx : run x s with ⟨_ | a, t⟩
  · simp
  · exact ⟨fun h => ⟨a, t, rfl, h⟩, by rintro ⟨a, t, h, hf⟩; cases h; exact hf⟩

theorem run_lift_eq_ok {r : Except DeviceError α} {a : α} :
    run (lift r : Op σ δ α) s = (.ok a, t) ↔ r = .ok a ∧ t = s := by
  rw [run_lift, Prod.mk.injEq, eq_comm (a := s)]

/-! ### What is recorded -/

/-- Whatever the program `x` adds to the history has the property `P`. -/
def Records (P : Entry → Prop) (x : Op σ δ α) : Prop :=
  ∀ s, ∃ es, Grows s (run x s).2 es ∧ ∀ e ∈ es, P e

variable {P : Entry → Prop} {x : Op σ δ α}

theorem Records.pure (a : α) : Records P (pure a : Op σ δ α) :=
  fun s => ⟨[], .refl s, by simp⟩

theorem Records.throw (e : DeviceError) : Records P (throw e : Op σ δ α) :=
  fun s => ⟨[], .refl s, by simp⟩

theorem Records.get : Records P (get : Op σ δ (Session σ δ)) :=
  fun s => ⟨[], .refl s, by simp⟩

theorem Records.record {es : List Entry} (h : ∀ e ∈ es, P e) :
    Records P (record es : Op σ δ Unit) :=
  fun s => ⟨es, grows_record es s, h⟩

theorem Records.bind {f : α → Op σ δ β} (hx : Records P x) (hf : ∀ a, Records P (f a)) :
    Records P (x >>= f) := by
  intro s
  obtain ⟨es, hgrows, hes⟩ := hx s
  rw [run_bind]
  rcases hrun : run x s with ⟨e | a, t⟩ <;> rw [hrun] at hgrows
  · exact ⟨es, hgrows, hes⟩
  · obtain ⟨es', hgrows', hes'⟩ := hf a t
    refine ⟨es ++ es', hgrows.trans hgrows', fun e he => ?_⟩
    rw [List.mem_append] at he
    exact he.elim (hes e) (hes' e)

theorem Records.outcome (hx : Records P x) : Records P (outcome x) := by
  intro s
  rw [run_outcome]
  exact hx s

theorem Records.emit {e : Event} (h : P (.event e)) : Records P (emit e : Op σ δ Unit) := by
  unfold Session.emit
  refine Records.get.bind fun s => ?_
  split
  · exact .record (by simpa using h)
  · exact .pure _

theorem Records.warning {w : Warning} (h : P (.warning w)) (hx : Records P x) :
    Records P (warning w x) := by
  intro s
  obtain ⟨es, hgrows, hes⟩ := hx s
  rw [run_warning]
  rcases hrun : run x s with ⟨e | a, t⟩ <;> rw [hrun] at hgrows
  · -- a failure adds the warning behind what `x` itself has recorded
    have hwarn : Grows t { t with past := .warning w :: t.past } [.warning w] :=
      grows_record [.warning w] t
    refine ⟨es ++ [.warning w], hgrows.trans hwarn, fun e he => ?_⟩
    rw [List.mem_append, List.mem_singleton] at he
    rcases he with he | rfl
    · exact hes e he
    · exact h
  · exact ⟨es, hgrows, hes⟩

section Calls

variable [Link σ]

/-- The reply to a call. -/
def reply (c : Call) (s : Session σ δ) : Reply := (Link.call c s.link).1

/-- The session behind a call. -/
def called (c : Call) (s : Session σ δ) : Session σ δ :=
  { s with link := (Link.call c s.link).2, past := .call c (reply c s) :: s.past }

theorem run_perform_eq (c : Call) (s : Session σ δ) :
    run (perform c) s = (.ok (reply c s), called c s) := rfl

theorem run_pause_eq (ms : Nat) (s : Session σ δ) :
    run (pause ms) s = (.ok (), called (.sleep ms) s) := rfl

theorem grows_called (c : Call) (s : Session σ δ) : Grows s (called c s) [.call c (reply c s)] :=
  ⟨rfl, rfl, rfl, rfl⟩

theorem Records.perform {c : Call} (h : ∀ r, P (.call c r)) :
    Records P (perform c : Op σ δ Reply) :=
  fun s => ⟨_, grows_called c s, by simpa using h _⟩

theorem Records.isCancelled : Records P (isCancelled : Op σ δ Bool) :=
  Records.get.bind fun _ => .pure _

theorem run_attempt_eq (c : Call) (s : Session σ δ) :
    run (attempt c) s =
      ((reply c s).failure.elim (.ok ()) fun e => .error (.io e), called c s) :=
  run_attempt c s

theorem run_transmit (data : Bytes) (s : Session σ δ) :
    run (transmit data) s =
      (((reply (.write data) s).fault (reply (.write data) s).accepted data.length).elim (.ok ())
        .error, called (.write data) s) := by
  unfold transmit Reply.fault
  rw [run_bind_ok (run_perform_eq (.write data) s)]
  cases (reply (.write data) s).failure with
  | some e => rfl
  | none =>
    dsimp only
    split <;> rfl

/-- The bytes that have arrived are kept, also if they are too few. -/
theorem run_receive (n : Nat) (s : Session σ δ) :
    run (receive n) s =
      (.ok ⟨(reply (.read n) s).received.take n,
        ((reply (.read n) s).fault (reply (.read n) s).received.length n).elim (.ok ()) .error⟩,
        called (.read n) s) := by
  unfold receive Reply.fault
  rw [run_bind_ok (run_perform_eq (.read n) s)]
  cases (reply (.read n) s).failure with
  | some e => rfl
  | none =>
    dsimp only
    split <;> rfl

end Calls

/-! ### Calls made and dives handed out -/

/-- The calls that were made to the link, with their replies. -/
def calls (s : Session σ δ) : List (Call × Reply) := s.history.filterMap Entry.call?

theorem Grows.calls_eq (h : Grows s t es) : t.calls = s.calls ++ es.filterMap Entry.call? := by
  rw [calls, calls, h.history, List.filterMap_append]

/-- The dives that were handed to the caller, in the order of the calls. -/
def handed (s : Session σ δ) : List Dive := s.history.filterMap Entry.dive?

theorem Grows.handed_eq (h : Grows s t es) : t.handed = s.handed ++ es.filterMap Entry.dive? := by
  rw [handed, handed, h.history, List.filterMap_append]

/-- What holds no dive hands out none. -/
theorem Grows.handed_of_none (h : Grows s t es) (hes : ∀ e ∈ es, e.dive? = none) :
    t.handed = s.handed := by
  rw [h.handed_eq, List.filterMap_eq_nil_iff.2 hes, List.append_nil]

/-- The result of a report, and what it adds to the history: the dives, and the warning that goes
with the fault. -/
theorem run_report (w : Walk) (s : Session σ δ) :
    (run (report w) s).1 = w.fault.elim (.ok w.dives) (fun f => .error (.dataFormat f)) ∧
      Grows s (run (report w) s).2
        (w.dives.map .dive ++ (w.fault.bind DataFault.warning).toList.map .warning) := by
  obtain ⟨ds, fault⟩ := w
  have hdives := grows_record (ds.map .dive) s
  unfold report
  rw [run_bind_ok (run_record _ s)]
  cases fault with
  | none => exact ⟨rfl, hdives.trans (.refl _)⟩
  | some f => exact ⟨rfl, hdives.trans (grows_record (f.warning.toList.map .warning) _)⟩

/-- **The dives of a walk are handed out, and nothing else is.** -/
theorem handed_report (w : Walk) (s : Session σ δ) :
    (run (report w) s).2.handed = s.handed ++ w.dives := by
  have hdives : (w.dives.map Entry.dive).filterMap Entry.dive? = w.dives := by
    rw [List.filterMap_map]
    exact List.filterMap_some
  have hwarn : ((w.fault.bind DataFault.warning).toList.map Entry.warning).filterMap Entry.dive? =
      [] := by
    rw [List.filterMap_map]
    exact List.filterMap_eq_nil_iff.2 fun _ _ => rfl
  rw [(run_report w s).2.handed_eq, List.filterMap_append, hdives, hwarn, List.append_nil]

theorem Records.report (hdive : ∀ d, P (.dive d)) (hwarn : ∀ w, P (.warning w)) (w : Walk) :
    Records P (report w : Op σ δ (List Dive)) := by
  intro s
  refine ⟨_, (run_report w s).2, fun e he => ?_⟩
  rcases List.mem_append.1 he with he | he
  · obtain ⟨d, -, rfl⟩ := List.mem_map.1 he
    exact hdive d
  · obtain ⟨w, -, rfl⟩ := List.mem_map.1 he
    exact hwarn w

/-- A report makes no call. -/
theorem calls_report (w : Walk) (s : Session σ δ) : (run (report w) s).2.calls = s.calls := by
  have hdives : (w.dives.map Entry.dive).filterMap Entry.call? = [] := by
    rw [List.filterMap_map]
    exact List.filterMap_eq_nil_iff.2 fun _ _ => rfl
  have hwarn : ((w.fault.bind DataFault.warning).toList.map Entry.warning).filterMap Entry.call? =
      [] := by
    rw [List.filterMap_map]
    exact List.filterMap_eq_nil_iff.2 fun _ _ => rfl
  rw [(run_report w s).2.calls_eq, List.filterMap_append, hdives, hwarn, List.append_nil,
    List.append_nil]

end Session
end DiveLink
