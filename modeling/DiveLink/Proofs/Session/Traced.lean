import DiveLink.Proofs.Session.Exchange

/-!
# What was sent and what was reported

Of the history of a session two views matter to others: the commands that went out to the device,
and the identities that came back to the caller.

## Main definitions

* `Session.sent`, `Session.identities` — the two views.
* `Session.Traced s t commands infos` — what was added to them from session `s` to session `t`.

## Main results

* `Session.traced_emit`, `Session.traced_report` — the traces of events and of dives.
* `Packet.traced_ask` — **an exchange that succeeded has sent its command**, and nothing else.
-/

namespace DiveLink

/-- The command that an entry says was written. -/
def Entry.sent? : Entry → Option Bytes
  | .call (.write command) _ => some command
  | _ => none

/-- The identity in an event. -/
def Event.identity? : Event → Option DevInfo
  | .devInfo i => some i
  | _ => none

/-- The identity that an entry says was reported. -/
def Entry.identity? : Entry → Option DevInfo
  | .event e => e.identity?
  | _ => none

namespace Session

variable {σ δ : Type} {s t u : Session σ δ} {es : List Entry}
  {commands commands' : List Bytes} {infos infos' : List DevInfo}

/-- The commands that were written, in their order. -/
def sent (s : Session σ δ) : List Bytes := s.history.filterMap Entry.sent?

/-- The identities that were reported to the caller, in their order. -/
def identities (s : Session σ δ) : List DevInfo := s.history.filterMap Entry.identity?

/-- From the session `s` to the session `t` the commands were written, and the identities were
reported if the caller listens. -/
structure Traced (s t : Session σ δ) (commands : List Bytes) (infos : List DevInfo) : Prop where
  sent : t.sent = s.sent ++ commands
  identities : t.identities = s.identities ++ if s.listening then infos else []
  listening : t.listening = s.listening

theorem Traced.refl (s : Session σ δ) : Traced s s [] [] :=
  ⟨by simp, by simp, rfl⟩

theorem Traced.trans (h : Traced s t commands infos) (h' : Traced t u commands' infos') :
    Traced s u (commands ++ commands') (infos ++ infos') where
  sent := by rw [h'.sent, h.sent, List.append_assoc]
  identities := by
    rw [h'.identities, h.identities, h.listening, List.append_assoc]
    split <;> rfl
  listening := h'.listening.trans h.listening

/-- What holds no identity is traced by the commands in it. -/
theorem Grows.traced (h : Grows s t es) (hes : es.filterMap Entry.identity? = []) :
    Traced s t (es.filterMap Entry.sent?) [] where
  sent := by rw [Session.sent, Session.sent, h.history, List.filterMap_append]
  identities := by
    rw [Session.identities, Session.identities, h.history, List.filterMap_append, hes, ite_self]
  listening := h.listening

/-- An event is traced if it is an identity. -/
theorem traced_emit {e : Event} {r : Except DeviceError Unit} (h : run (emit e) s = (r, t)) :
    Traced s t [] e.identity?.toList := by
  obtain rfl : (run (emit e) s).2 = t := congrArg Prod.snd h
  rw [run_emit]
  have hsent : ([.event e] : List Entry).filterMap Entry.sent? = [] := rfl
  have hinfos : ([.event e] : List Entry).filterMap Entry.identity? = e.identity?.toList := by
    cases h : e.identity? <;> simp [Entry.identity?, h]
  by_cases hl : s.listening = true
  · have hgrows := grows_record [.event e] s
    rw [if_pos hl]
    show Traced s { s with past := ([.event e] : List Entry).reverse ++ s.past } _ _
    refine ⟨?_, ?_, hgrows.listening⟩
    · rw [Session.sent, Session.sent, hgrows.history, List.filterMap_append, hsent]
    · rw [Session.identities, Session.identities, hgrows.history, List.filterMap_append, hinfos,
        if_pos hl]
  · rw [if_neg hl]
    exact ⟨(List.append_nil _).symm, by rw [if_neg hl, List.append_nil], rfl⟩

/-- Dives and warnings leave no trace. -/
theorem Grows.traced_of_told {ds : List Dive} {ws : List Warning}
    (h : Grows s t (ds.map .dive ++ ws.map .warning)) : Traced s t [] [] := by
  have hnone : ∀ {β : Type} (f : Entry → Option β), (∀ d, f (.dive d) = none) →
      (∀ w, f (.warning w) = none) → (ds.map Entry.dive ++ ws.map Entry.warning).filterMap f =
        [] := by
    intro β f hdive hwarning
    rw [List.filterMap_eq_nil_iff]
    intro e he
    rcases List.mem_append.1 he with h | h <;> obtain ⟨x, -, rfl⟩ := List.mem_map.1 h
    · exact hdive x
    · exact hwarning x
  have htraced := h.traced (hnone _ (fun _ => rfl) fun _ => rfl)
  rwa [hnone _ (fun _ => rfl) fun _ => rfl] at htraced

theorem traced_report (w : Walk) (s : Session σ δ) : Traced s (run (report w) s).2 [] [] :=
  (run_report w s).2.traced_of_told

theorem traced_reject {α : Type} (f : DataFault) (s : Session σ δ) :
    Traced s (run (reject f : Op σ δ α) s).2 [] [] :=
  (show Grows s _ (([] : List Dive).map .dive ++ f.warning.toList.map .warning) from
    grows_warned f.warning.toList s).traced_of_told

end Session

/-- An exchange that succeeded has sent its command. -/
theorem Packet.traced_ask {σ δ : Type} [Link σ] {s t : Session σ δ}
    {settle parameters size : Nat} {command answer : Bytes}
    (h : Session.run (Packet.ask settle command parameters size) s = (.ok answer, t)) :
    Session.Traced s t [command] [] := by
  obtain ⟨hsucceeds, -, rfl⟩ := Packet.run_ask_eq_ok.1 h
  obtain ⟨es, hgrows, _, _, _, _, _, rfl, -⟩ := hsucceeds.grows
  exact hgrows.traced rfl

end DiveLink
