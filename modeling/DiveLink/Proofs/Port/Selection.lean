import DiveLink.Device.Open

/-!
# Which port is opened

The name of any port stands for the first port of the host's list that looks like the interface of a
dive computer and is not in use; every other name stands for itself, whether the host lists it or
not.  Force opens a port in use if it was named, but makes no such port be chosen: the choice passes
over the ports in use in any case.  One of four things is decided before a port is asked to open:
that the host does not list its ports, that none of them is free, that the one that was named is in
use, or which port it is.

## Main definitions

* `Ports.Free` — a port that may be chosen, and `Ports.FirstFree`, the first such port of a list.
* `Ports.StandsFor` — the port that a name stands for.
* `Ports.Decision`, `Ports.Decision.Applies` — what is decided before a port is opened, and when.
* `Ports.Decision.outcome` — what comes of a decision.
* `PortEntry.opens?` — the port that an entry of a journal asks to open.

## Main results

* `Ports.listing_cases` — the host lists no ports, none that is free, or a first one that is.
* `Ports.openNamed_of_applies` — a decision that is due is carried out.
* `Ports.outcome_inj` — different decisions have different outcomes.
* `Ports.not_held_of_applies` — without force a port that is asked to open is not in use.
* `Ports.opens_chosen` — **a port is opened exactly if it is the one to choose, and each refusal has
  its own reason**.
-/

namespace DiveLink

/-- The port that an entry of a journal asks to open. -/
def PortEntry.opens? : PortEntry → Option String
  | .call port (.openAt _) _ => some port
  | _ => none

namespace Ports

variable {η : Type} [SerialHost η] {h : η} {infos : List PortInfo} {i : PortInfo}
  {name port : String} {force : Bool} {e : PortError} {p : Ports η}

/-! ### Free ports -/

/-- A port is in use if a file that some process has open is a link to it. -/
theorem held_iff : SerialHost.held name h = true ↔
    ∃ paths path, SerialHost.glob "/proc/[0-9]*/fd/*" h = some paths ∧ some path ∈ paths ∧
      SerialHost.readLink path h = some (some name) := by
  unfold SerialHost.held openFiles
  cases SerialHost.glob "/proc/[0-9]*/fd/*" h with
  | none => simp
  | some paths =>
    simp only [List.any_eq_true, List.mem_filterMap, id_eq, beq_iff_eq]
    constructor
    · rintro ⟨_, ⟨path, ⟨_, hpath, rfl⟩, hlink⟩, rfl⟩
      exact ⟨paths, path, rfl, hpath, hlink⟩
    · rintro ⟨_, path, hpaths, hpath, hlink⟩
      obtain rfl := Option.some.inj hpaths
      exact ⟨_, ⟨path, ⟨_, hpath, rfl⟩, hlink⟩, rfl⟩

/-- A port that may be chosen: it is the interface of a dive computer by its vendor and product, and
is not in use. -/
def Free (h : η) (i : PortInfo) : Prop :=
  (∃ vendor product, i.kind = .usb vendor product ∧ (vendor, product) ∈ compatibleIds) ∧
    SerialHost.held i.name h = false

/-- The first port of a list that may be chosen. -/
def FirstFree (h : η) (infos : List PortInfo) (i : PortInfo) : Prop :=
  ∃ before after, infos = before ++ i :: after ∧ Free h i ∧ ∀ j ∈ before, ¬ Free h j

/-- The port that a name stands for. -/
inductive StandsFor (h : η) : String → String → Prop
  | first {infos : List PortInfo} {i : PortInfo} (hlist : SerialHost.available h = .ok infos)
      (hfirst : FirstFree h infos i) : StandsFor h anyPort i.name
  | itself {name : String} (hname : name ≠ anyPort) : StandsFor h name name

theorem isCompatible_iff :
    i.isCompatible = true ↔
      ∃ vendor product, i.kind = .usb vendor product ∧ (vendor, product) ∈ compatibleIds := by
  unfold PortInfo.isCompatible
  cases i.kind with
  | usb vendor product =>
    rw [List.contains_iff_mem]
    constructor
    · exact fun hmem => ⟨vendor, product, rfl, hmem⟩
    · rintro ⟨_, _, hkind, hmem⟩
      cases hkind
      exact hmem
  | _ => simp

theorem isFree_iff : (i.isCompatible && !SerialHost.held i.name h) = true ↔ Free h i := by
  simp [Free, ← isCompatible_iff]

theorem find?_eq_some_iff :
    infos.find? (fun i => i.isCompatible && !SerialHost.held i.name h) = some i ↔
      FirstFree h infos i := by
  have hother : ∀ j : PortInfo,
      (!(j.isCompatible && !SerialHost.held j.name h)) = true ↔ ¬ Free h j := by
    intro j
    rw [Bool.not_eq_true', ← Bool.not_eq_true, isFree_iff]
  simp only [List.find?_eq_some_iff_append, isFree_iff, hother, FirstFree]
  constructor
  · rintro ⟨hfree, before, after, hinfos, hbefore⟩
    exact ⟨before, after, hinfos, hfree, hbefore⟩
  · rintro ⟨before, after, hinfos, hfree, hbefore⟩
    exact ⟨hfree, before, after, hinfos, hbefore⟩

theorem find?_eq_none_iff :
    infos.find? (fun i => i.isCompatible && !SerialHost.held i.name h) = none ↔
      ∀ i ∈ infos, ¬ Free h i := by
  simp only [List.find?_eq_none, isFree_iff]

/-- The host lists no ports, none that is free, or a first one that is. -/
theorem listing_cases (h : η) :
    (∃ e, SerialHost.available h = .error e) ∨
      (∃ infos, SerialHost.available h = .ok infos ∧ ∀ i ∈ infos, ¬ Free h i) ∨
        ∃ infos i, SerialHost.available h = .ok infos ∧ FirstFree h infos i := by
  cases hlist : SerialHost.available h with
  | error e => exact .inl ⟨e, rfl⟩
  | ok infos =>
    cases hfind : infos.find? (fun i => i.isCompatible && !SerialHost.held i.name h) with
    | none => exact .inr (.inl ⟨infos, rfl, find?_eq_none_iff.1 hfind⟩)
    | some i => exact .inr (.inr ⟨infos, i, rfl, find?_eq_some_iff.1 hfind⟩)

/-! ### Decisions -/

/-- What is decided before a port is opened. -/
inductive Decision
  /-- The host does not list its ports. -/
  | unlisted (e : PortError)
  /-- No port of the list is free. -/
  | noneFree
  /-- The port that was named is in use. -/
  | busy
  /-- A port is to be opened. -/
  | chosen (port : String)
  deriving DecidableEq, Repr, Inhabited

namespace Decision

/-- When a decision is due. -/
def Applies (d : Decision) (h : η) (name : String) (force : Bool) : Prop :=
  match d with
  | unlisted e => name = anyPort ∧ SerialHost.available h = .error e
  | noneFree =>
    name = anyPort ∧ ∃ infos, SerialHost.available h = .ok infos ∧ ∀ i ∈ infos, ¬ Free h i
  | busy => name ≠ anyPort ∧ force = false ∧ SerialHost.held name h = true
  | chosen port =>
    StandsFor h name port ∧ (name = anyPort ∨ force = true ∨ SerialHost.held name h = false)

/-- The ports that are asked to open by a decision. -/
def opened : Decision → List String
  | chosen port => [port]
  | _ => []

/-- The decision that some entries of a journal tell of, latest first. -/
def told : List PortEntry → Decision
  | .listed (some e) :: _ => unlisted e
  | .call port _ _ :: _ => chosen port
  | [] => busy
  | _ => noneFree

end Decision

/-- The ports with one more entry in their journal. -/
def noted (entry : PortEntry) (p : Ports η) : Ports η := { p with journal := entry :: p.journal }

/-- What comes of asking a port to open: its name, unless the call fails. -/
def opening (port : String) (p : Ports η) : Except IoError String × Ports η :=
  let (reply, p) := p.call port (.openAt initialBaud)
  match reply.failure with
  | some e => (.error e.toIoError, p)
  | none => (.ok port, p)

/-- What comes of a decision. -/
def Decision.outcome (d : Decision) (name : String) (p : Ports η) :
    Except IoError String × Ports η :=
  match d with
  | unlisted e => (.error e.toIoError, p.noted (.listed (some e)))
  | noneFree =>
    (.error ⟨.notFound, "no dive computer compatible ports found"⟩, p.noted (.listed none))
  | busy => (.error ⟨.addrInUse, quoted name ++ " busy"⟩, p)
  | chosen port => (if name = anyPort then p.noted (.listed none) else p).opening port

theorem journal_opening (port : String) (p : Ports η) :
    ∃ reply, (p.opening port).2.journal = .call port (.openAt initialBaud) reply :: p.journal := by
  refine ⟨(p.call port (.openAt initialBaud)).1, ?_⟩
  unfold opening
  dsimp only
  split <;> rfl

/-! ### Opening -/

theorem openNamed_unlisted (hlist : SerialHost.available p.host = .error e) :
    p.openNamed anyPort force = (Decision.unlisted e).outcome anyPort p := by
  simp only [openNamed, resolve, list, hlist, if_true]
  rfl

theorem openNamed_noneFree (hlist : SerialHost.available p.host = .ok infos)
    (hnone : ∀ i ∈ infos, ¬ Free p.host i) :
    p.openNamed anyPort force = Decision.noneFree.outcome anyPort p := by
  simp only [openNamed, resolve, list, hlist, find?_eq_none_iff.2 hnone, if_true]
  rfl

/-- The port that is chosen is free, so that it is not refused behind the choice. -/
theorem openNamed_first (hlist : SerialHost.available p.host = .ok infos)
    (hfirst : FirstFree p.host infos i) :
    p.openNamed anyPort force = (Decision.chosen i.name).outcome anyPort p := by
  obtain ⟨-, -, -, ⟨-, hheld⟩, -⟩ := id hfirst
  simp only [openNamed, resolve, list, hlist, find?_eq_some_iff.2 hfirst, if_true, hheld,
    Bool.and_false, Bool.false_eq_true, if_false, Decision.outcome]
  rfl

theorem openNamed_busy (hname : name ≠ anyPort) (hheld : SerialHost.held name p.host = true) :
    p.openNamed name false = Decision.busy.outcome name p := by
  simp only [openNamed, resolve, hname, if_false, hheld, Bool.not_false, Bool.and_true, if_true]
  rfl

theorem openNamed_itself (hname : name ≠ anyPort)
    (hopen : force = true ∨ SerialHost.held name p.host = false) :
    p.openNamed name force = (Decision.chosen name).outcome name p := by
  have hgo : (!force && SerialHost.held name p.host) = false := by
    rcases hopen with rfl | hheld
    · rfl
    · rw [hheld, Bool.and_false]
  simp only [openNamed, resolve, hname, if_false, hgo, Bool.false_eq_true, Decision.outcome]
  rfl

/-- A decision that is due is carried out. -/
theorem openNamed_of_applies {d : Decision} (hd : d.Applies p.host name force) :
    p.openNamed name force = d.outcome name p := by
  cases d with
  | unlisted e =>
    obtain ⟨rfl, hlist⟩ := hd
    exact openNamed_unlisted hlist
  | noneFree =>
    obtain ⟨rfl, infos, hlist, hnone⟩ := hd
    exact openNamed_noneFree hlist hnone
  | busy =>
    obtain ⟨hname, rfl, hheld⟩ := hd
    exact openNamed_busy hname hheld
  | chosen port =>
    obtain ⟨hport, hopen⟩ := hd
    cases hport with
    | first hlist hfirst => exact openNamed_first hlist hfirst
    | itself hname => exact openNamed_itself hname (hopen.resolve_left hname)

/-- Some decision is due. -/
theorem exists_applies (h : η) (name : String) (force : Bool) :
    ∃ d : Decision, d.Applies h name force := by
  by_cases hname : name = anyPort
  · subst hname
    rcases listing_cases h with ⟨e, hlist⟩ | ⟨infos, hlist, hnone⟩ | ⟨infos, i, hlist, hfirst⟩
    · exact ⟨.unlisted e, rfl, hlist⟩
    · exact ⟨.noneFree, rfl, infos, hlist, hnone⟩
    · exact ⟨.chosen i.name, .first hlist hfirst, .inl rfl⟩
  · by_cases hbusy : force = false ∧ SerialHost.held name h = true
    · exact ⟨.busy, hname, hbusy⟩
    · refine ⟨.chosen name, .itself hname, .inr ?_⟩
      cases force with
      | true => exact .inl rfl
      | false => exact .inr (by simpa using hbusy)

/-- The journal tells of a decision. -/
theorem journal_outcome (d : Decision) (name : String) (p : Ports η) :
    ∃ es, (d.outcome name p).2.journal = es ++ p.journal ∧ Decision.told es = d ∧
      es.filterMap PortEntry.opens? = d.opened := by
  cases d with
  | unlisted e => exact ⟨[.listed (some e)], rfl, rfl, rfl⟩
  | noneFree => exact ⟨[.listed none], rfl, rfl, rfl⟩
  | busy => exact ⟨[], rfl, rfl, rfl⟩
  | chosen port =>
    obtain ⟨reply, hjournal⟩ := journal_opening port
      (if name = anyPort then p.noted (.listed none) else p)
    by_cases hname : name = anyPort
    · refine ⟨[.call port (.openAt initialBaud) reply, .listed none], ?_, rfl, rfl⟩
      rw [Decision.outcome, hjournal, if_pos hname]
      rfl
    · refine ⟨[.call port (.openAt initialBaud) reply], ?_, rfl, rfl⟩
      rw [Decision.outcome, hjournal, if_neg hname]
      rfl

/-- Different decisions have different outcomes. -/
theorem outcome_inj {d d' : Decision} (hsame : d.outcome name p = d'.outcome name p) : d = d' := by
  obtain ⟨es, hes, hd, -⟩ := journal_outcome d name p
  obtain ⟨es', hes', hd', -⟩ := journal_outcome d' name p
  rw [hsame, hes'] at hes
  rw [← hd, ← hd', List.append_cancel_right hes]

theorem openNamed_eq_outcome_iff (d : Decision) (name : String) (force : Bool) (p : Ports η) :
    p.openNamed name force = d.outcome name p ↔ d.Applies p.host name force := by
  constructor
  · intro hd
    obtain ⟨d', hd'⟩ := exists_applies p.host name force
    rw [openNamed_of_applies hd'] at hd
    rwa [← outcome_inj hd]
  · exact openNamed_of_applies

/-- Without force a port that is asked to open is not in use. -/
theorem not_held_of_applies {d : Decision} {h : η} (hd : d.Applies h name false)
    (hport : port ∈ d.opened) : SerialHost.held port h = false := by
  cases d with
  | chosen chosen =>
    obtain rfl := List.mem_singleton.1 hport
    obtain ⟨hchosen, hopen⟩ := hd
    cases hchosen with
    | first hlist hfirst =>
      obtain ⟨-, -, -, ⟨-, hheld⟩, -⟩ := hfirst
      exact hheld
    | itself hname => exact (hopen.resolve_left hname).resolve_left Bool.false_ne_true
  | _ => exact absurd hport List.not_mem_nil

/-- A device on a port that is not opened is refused with the failure of opening it. -/
theorem openPort_of_error {q : Ports η} {e : IoError} (he : p.openNamed name force = (.error e, q))
    (family : Family) (token : CancelToken) :
    Device.openPort family name force token p = .refused (.io e) q [] := by
  simp only [Device.openPort, SerialLine.openNamed, he]

/-- **A port is opened exactly if it is the one to choose, and each refusal has its own reason.**
Whatever the host lists and whichever ports are in use, one decision is due.  It is carried out if
and only if it is due: the name of any port fails if the host does not list its ports or none of
them is free, and opens the first free port otherwise; another name is refused if it is in use and
there is no force, and is opened otherwise.  The journal tells that no port but the chosen one is
asked to open, and without force none that is in use.  A port is in use exactly if a file that some
process has open is a link to it.  The failure is that of opening the device. -/
theorem opens_chosen (name : String) (force : Bool) (p : Ports η) :
    (∃ d : Decision, d.Applies p.host name force) ∧
      (∀ d : Decision, p.openNamed name force = d.outcome name p ↔ d.Applies p.host name force) ∧
      (∀ d : Decision, d.Applies p.host name force →
        (∃ es, (p.openNamed name force).2.journal = es ++ p.journal ∧
          es.filterMap PortEntry.opens? = d.opened) ∧
        (force = false → ∀ port ∈ d.opened, SerialHost.held port p.host = false)) ∧
      (∀ port, SerialHost.held port p.host = true ↔
        ∃ paths path, SerialHost.glob "/proc/[0-9]*/fd/*" p.host = some paths ∧
          some path ∈ paths ∧ SerialHost.readLink path p.host = some (some port)) ∧
      ∀ (e : IoError) (q : Ports η), p.openNamed name force = (.error e, q) →
        ∀ (family : Family) (token : CancelToken),
          Device.openPort family name force token p = .refused (.io e) q [] := by
  refine ⟨exists_applies p.host name force, fun d => openNamed_eq_outcome_iff d name force p,
    fun d hd => ⟨?_, ?_⟩, fun port => held_iff,
    fun e q he family token => openPort_of_error he family token⟩
  · obtain ⟨es, hjournal, -, hopened⟩ := journal_outcome d name p
    exact ⟨es, by rw [openNamed_of_applies hd, hjournal], hopened⟩
  · rintro rfl port hport
    exact not_held_of_applies hd hport

end Ports
end DiveLink
