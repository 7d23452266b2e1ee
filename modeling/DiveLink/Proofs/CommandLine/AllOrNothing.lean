import DiveLink.Bench.Host
import DiveLink.Main
import DiveLink.Proofs.Dump
import DiveLink.Proofs.Preserved
import DiveLink.Proofs.Recollection
import DiveLink.Proofs.Vyper2.Agreement

/-!
# The tool shows all or nothing

A command consists of a few operations on the device and, for a dump, of a file that is written.
Its text is printed when all of them and the closing of the device have succeeded; of a run that
fails nothing is printed, however much was obtained before.  The one thing that stays of a run is
the file of a dump, and it is written when the whole memory is there and not before.

## Main definitions

* `Family.memorySize` — the number of bytes in the memory of a device.
* `FileStore.View` — a look at one file, which finds there what was written last.
* `Tool.CarriesOut` — the commands, by the operations that have to succeed.
* `Tool.Obtains` — a run in which everything was obtained.
* `Tool.download` — what comes of opening a device and downloading its memory.
* `Tool.Keeps` — steps that leave the files alone.
* `Tool.Shows` — what a run prints, and what it leaves in the files.

## Main results

* `Tool.execute_ok_iff` — a command succeeds if and only if it was carried out in full.
* `Tool.keeps_execute` — no command but a dump touches a file.
* `Tool.shows_only_obtained` — **the tool shows nothing that it did not fully obtain.**
-/

namespace DiveLink

/-! ### Memories and files -/

/-- The number of bytes in the memory of a device of a family. -/
def Family.memorySize : Family → Nat
  | sensusPro => SensusPro.memorySize
  | vyper2 => Vyper2.memorySize

/-- A look at one file: what was written to it last is what it holds. -/
structure FileStore.View {φ : Type} [FileStore φ] (file : String) (contents : φ → Option Bytes) :
    Prop where
  written : ∀ b files files', FileStore.write file b files = (.ok (), files') →
    contents files' = some b

/-- What a file will hold can be looked up among the files that are still to be written. -/
theorem Outbox.view (file : String) :
    FileStore.View file fun o : Outbox => o.files.lookup file where
  written b files files' hwritten := by
    obtain rfl : (⟨(file, b) :: files.files⟩ : Outbox) = files' := (Prod.mk.inj hwritten).2
    exact List.lookup_cons_self

theorem Receipt.eq_ok_of_ofExcept {r : Except DeviceError Bytes} {image : Bytes}
    (h : ofExcept r = whole image) : r = .ok image := by
  cases r with
  | error e => simp [ofExcept, refused, whole] at h
  | ok b => simpa [ofExcept, whole] using h

theorem Receipt.toExcept_ok_iff {r : Receipt} {b : Bytes} : r.toExcept = .ok b ↔ r = whole b := by
  obtain ⟨bytes, outcome⟩ := r
  cases outcome <;> simp [toExcept, whole, Except.map]

namespace Device

variable {σ : Type} [Link σ]

theorem Brought.length {family : Family} {image : Bytes} {cs : Transcript}
    (h : Brought family image cs) : image.length = family.memorySize := by
  cases family with
  | sensusPro => exact h.1
  | vyper2 => exact h.1

/-- A dump that succeeds has brought the memory. -/
theorem brought_of_dump {d d' : Device σ} {image : Bytes} (h : d.dump = (.whole image, d')) :
    ∃ cs, d'.calls = d.calls ++ cs ∧ Brought d.family image cs := by
  cases d with
  | sensusPro s =>
    obtain ⟨cs, hmade, hdumped⟩ := (SensusPro.conducts_dump (B := fun _ => False)).of_ok s
    rw [dump_sensusPro, Prod.mk.injEq] at h
    obtain ⟨hreceipt, rfl⟩ := h
    exact ⟨cs, hmade.calls, brought_sensusPro (hdumped image (Receipt.eq_ok_of_ofExcept hreceipt))⟩
  | vyper2 s =>
    obtain ⟨cs, hmade, hdumped⟩ := Vyper2.conducts_dump.of_ok s
    rw [dump_vyper2, Prod.mk.injEq] at h
    obtain ⟨hreceipt, rfl⟩ := h
    exact ⟨cs, hmade.calls, brought_vyper2 (hdumped image (Receipt.eq_ok_of_ofExcept hreceipt))⟩

/-- The device is of the family that was chosen. -/
theorem family_of_openPort {η : Type} [SerialHost η] {family : Family} {port : String}
    {force : Bool} {token : CancelToken} {p : Ports η} {d : Device (SerialLine η)}
    (h : openPort family port force token p = .opened d) : d.family = family := by
  unfold openPort at h
  rcases hline : SerialLine.openNamed port force p with ⟨e | line, q⟩ <;> rw [hline] at h
  · cases h
  · dsimp only at h
    cases hopened : openLink family line token with
    | refused e line past => rw [hopened] at h; cases h
    | opened device =>
      rw [hopened] at h
      obtain rfl : device.note (openedNote family port) = d := Opening.opened.inj h
      have hnote : (device.note (openedNote family port)).family = device.family := by
        cases device <;> rfl
      exact hnote.trans (knows_of_openLink hopened).1

end Device

namespace Tool

variable {σ φ ρ α β : Type}

/-! ### Steps -/

theorem bind_ok_iff {x : Step σ φ α} {f : α → Step σ φ β} {desk desk' : Desk σ φ} {b : β} :
    (x >>= f) desk = .ok b desk' ↔ ∃ a desk₁, x desk = .ok a desk₁ ∧ f a desk₁ = .ok b desk' := by
  simp only [Bind.bind, EStateM.bind]
  cases x desk with
  | ok a desk₁ => simp
  | error e desk₁ => simp

theorem pure_ok_iff {a b : α} {desk desk' : Desk σ φ} :
    (pure a : Step σ φ α) desk = .ok b desk' ↔ a = b ∧ desk = desk' := by
  simp [Pure.pure, EStateM.pure]

theorem operate_eq (context : List String) (x : Device σ → Except DeviceError α × Device σ)
    (desk : Desk σ φ) :
    operate context x desk =
      match x desk.device with
      | (.ok a, device) => .ok a { desk with device }
      | (.error e, device) => .error (context ++ e.chain) { desk with device } := by
  have hget : (get : Step σ φ (Desk σ φ)) desk = .ok desk desk := rfl
  simp only [operate, Bind.bind, EStateM.bind, hget]
  rcases x desk.device with ⟨e | a, device⟩ <;> rfl

theorem operate_ok_iff {context : List String} {x : Device σ → Except DeviceError α × Device σ}
    {desk desk' : Desk σ φ} {a : α} :
    operate context x desk = .ok a desk' ↔
      ∃ device, x desk.device = (.ok a, device) ∧ desk' = { desk with device } := by
  rw [operate_eq]
  rcases x desk.device with ⟨e | b, device⟩
  · simp
  · simp [eq_comm]

theorem load_eq (context : List String) (x : Device σ → Receipt × Device σ) (desk : Desk σ φ) :
    load context x desk =
      match (x desk.device).1.toExcept with
      | .ok b => .ok b { desk with device := (x desk.device).2 }
      | .error e => .error (context ++ e.chain) { desk with device := (x desk.device).2 } := by
  rw [load, operate_eq]
  rcases x desk.device with ⟨receipt, device⟩
  dsimp only
  cases receipt.toExcept <;> rfl

theorem load_ok_iff {context : List String} {x : Device σ → Receipt × Device σ}
    {desk desk' : Desk σ φ} {b : Bytes} :
    load context x desk = .ok b desk' ↔
      ∃ device, x desk.device = (.whole b, device) ∧ desk' = { desk with device } := by
  simp only [load, operate_ok_iff, Prod.ext_iff, Receipt.toExcept_ok_iff]

theorem tell_eq (text : String) (desk : Desk σ φ) :
    tell text desk = .ok () { desk with device := desk.device.note text } := rfl

variable [FileStore φ]

theorem save_eq (file : String) (b : Bytes) (desk : Desk σ φ) :
    save file b desk =
      match FileStore.write file b desk.files with
      | (.ok (), files) =>
        tell ("saved " ++ Digits.decimal b.length ++ " bytes to " ++ file) { desk with files }
      | (.error e, files) =>
        .error ["Failed to write " ++ file, e.message] { desk with files } := by
  have hget : (get : Step σ φ (Desk σ φ)) desk = .ok desk desk := rfl
  simp only [save, Bind.bind, EStateM.bind, hget]
  rcases FileStore.write file b desk.files with ⟨e | ⟨⟩, files⟩ <;> rfl

theorem save_ok_iff {file : String} {b : Bytes} {u : Unit} {desk desk' : Desk σ φ} :
    save file b desk = .ok u desk' ↔
      ∃ files, FileStore.write file b desk.files = (.ok (), files) ∧
        desk' = ⟨desk.device.note ("saved " ++ Digits.decimal b.length ++ " bytes to " ++ file),
          files⟩ := by
  rw [save_eq]
  rcases FileStore.write file b desk.files with ⟨e | ⟨⟩, files⟩
  · simp
  · simp [tell_eq, eq_comm]

/-! ### What a command needs -/

variable [Link σ]

/-- A command was carried out, with what is to be printed and the desk behind it: each operation
that it consists of has succeeded, and the text is made of what they gave. -/
inductive CarriesOut (json : Bool) : Command → Desk σ φ → String → Desk σ φ → Prop
  | version {d d' : Device σ} {files : φ} {block : Bytes}
      (hread : d.version Vyper2.versionSize = (.whole block, d')) :
      CarriesOut json .version ⟨d, files⟩ (Output.bytes json block) ⟨d', files⟩
  | read {d d' : Device σ} {files : φ} {address count : Nat} {data : Bytes}
      (hread : d.read address count = (.whole data, d')) :
      CarriesOut json (.read address count) ⟨d, files⟩ (Output.memory json data) ⟨d', files⟩
  | write {d d' : Device σ} {files : φ} {address : Nat} {values : Bytes}
      (hwrite : d.write address values = (.ok (), d')) :
      CarriesOut json (.write address values) ⟨d, files⟩ "" ⟨d', files⟩
  | dump {d d' : Device σ} {files files' : φ} {file : String} {image : Bytes}
      (hdump : d.dump = (.whole image, d'))
      (hwrite : FileStore.write file image files = (.ok (), files')) :
      CarriesOut json (.dump file) ⟨d, files⟩ ""
        ⟨d'.note ("saved " ++ Digits.decimal image.length ++ " bytes to " ++ file), files'⟩
  | dives {d d' d'' : Device σ} {files : φ} {fingerprint : Option Bytes} {dives : List Dive}
      (hset : d.setFingerprint (fingerprint.getD []) = (.ok (), d'))
      (hdownload : d'.foreach (fun _ => true) = (.ok dives, d'')) :
      CarriesOut json (.dives fingerprint) ⟨d, files⟩ (Output.dives json dives)
        ⟨d''.note (Digits.decimal dives.length ++ " new dives"), files⟩
  | handshake {d d' d'' : Device σ} {files : φ} {image frame : Bytes}
      (hdump : d.dump = (.whole image, d'))
      (hframe : d'.handshake SensusPro.handshakeSize = (.whole frame, d'')) :
      CarriesOut json .handshake ⟨d, files⟩ (Output.bytes json frame) ⟨d'', files⟩
  | setInterval {d d' : Device σ} {files : φ} {seconds : Nat}
      (hwrite : d.writeInterval seconds = (.ok (), d')) :
      CarriesOut json (.setInterval seconds) ⟨d, files⟩ "" ⟨d', files⟩
  | resetMaxDepth {d d' : Device σ} {files : φ} (hreset : d.resetMaxDepth = (.ok (), d')) :
      CarriesOut json .resetMaxDepth ⟨d, files⟩ "" ⟨d', files⟩

/-- **A command succeeds if and only if it was carried out in full.** -/
theorem execute_ok_iff {json : Bool} {c : Command} {desk desk' : Desk σ φ} {output : String} :
    execute json c desk = .ok output desk' ↔ CarriesOut json c desk output desk' := by
  constructor
  · intro h
    cases c <;>
      simp only [execute, bind_ok_iff, load_ok_iff, operate_ok_iff, save_ok_iff, tell_eq,
        pure_ok_iff] at h
    case families => cases h
    case version =>
      obtain ⟨block, _, ⟨d, hread, rfl⟩, rfl, rfl⟩ := h
      exact .version hread
    case read =>
      obtain ⟨data, _, ⟨d, hread, rfl⟩, rfl, rfl⟩ := h
      exact .read hread
    case write =>
      obtain ⟨⟨⟩, _, ⟨d, hwrite, rfl⟩, rfl, rfl⟩ := h
      exact .write hwrite
    case dump =>
      obtain ⟨image, _, ⟨d, hdump, rfl⟩, ⟨⟩, _, ⟨files, hwrite, rfl⟩, rfl, rfl⟩ := h
      exact .dump hdump hwrite
    case dives =>
      obtain ⟨⟨⟩, _, ⟨d, hset, rfl⟩, dives, _, ⟨d', hdownload, rfl⟩, ⟨⟩, _, ⟨⟩, rfl, rfl⟩ := h
      exact .dives hset hdownload
    case handshake =>
      obtain ⟨image, _, ⟨d, hdump, rfl⟩, frame, _, ⟨d', hframe, rfl⟩, rfl, rfl⟩ := h
      exact .handshake hdump hframe
    case setInterval =>
      obtain ⟨⟨⟩, _, ⟨d, hwrite, rfl⟩, rfl, rfl⟩ := h
      exact .setInterval hwrite
    case resetMaxDepth =>
      obtain ⟨⟨⟩, _, ⟨d, hreset, rfl⟩, rfl, rfl⟩ := h
      exact .resetMaxDepth hreset
  · intro h
    -- the other way round the steps are put together again
    cases h with
    | version hread => exact bind_ok_iff.2 ⟨_, _, load_ok_iff.2 ⟨_, hread, rfl⟩, rfl⟩
    | read hread => exact bind_ok_iff.2 ⟨_, _, load_ok_iff.2 ⟨_, hread, rfl⟩, rfl⟩
    | write hwrite => exact bind_ok_iff.2 ⟨_, _, operate_ok_iff.2 ⟨_, hwrite, rfl⟩, rfl⟩
    | dump hdump hwrite =>
      exact bind_ok_iff.2 ⟨_, _, load_ok_iff.2 ⟨_, hdump, rfl⟩,
        bind_ok_iff.2 ⟨(), _, save_ok_iff.2 ⟨_, hwrite, rfl⟩, rfl⟩⟩
    | dives hset hdownload =>
      exact bind_ok_iff.2 ⟨_, _, operate_ok_iff.2 ⟨_, hset, rfl⟩,
        bind_ok_iff.2 ⟨_, _, operate_ok_iff.2 ⟨_, hdownload, rfl⟩, rfl⟩⟩
    | handshake hdump hframe =>
      exact bind_ok_iff.2 ⟨_, _, load_ok_iff.2 ⟨_, hdump, rfl⟩,
        bind_ok_iff.2 ⟨_, _, load_ok_iff.2 ⟨_, hframe, rfl⟩, rfl⟩⟩
    | setInterval hwrite => exact bind_ok_iff.2 ⟨_, _, operate_ok_iff.2 ⟨_, hwrite, rfl⟩, rfl⟩
    | resetMaxDepth hreset => exact bind_ok_iff.2 ⟨_, _, operate_ok_iff.2 ⟨_, hreset, rfl⟩, rfl⟩

/-- A session succeeds if and only if the command was carried out and the device was closed. -/
theorem session_ok_iff {json : Bool} {c : Command} {desk desk' : Desk σ φ} {output : String} :
    session json c desk = .ok output desk' ↔
      ∃ done d, CarriesOut json c desk output done ∧ done.device.close = (.ok (), d) ∧
        desk' = { done with device := d } := by
  simp only [session, bind_ok_iff, operate_ok_iff, execute_ok_iff, pure_ok_iff]
  constructor
  · rintro ⟨_, done, hcarries, ⟨⟩, _, ⟨d, hclose, rfl⟩, rfl, rfl⟩
    exact ⟨done, d, hcarries, hclose, rfl⟩
  · rintro ⟨done, d, hcarries, hclose, rfl⟩
    exact ⟨_, done, hcarries, (), _, ⟨d, hclose, rfl⟩, rfl, rfl⟩

/-! ### The files behind a command -/

section Files

omit [FileStore φ] [Link σ]

/-- The steps leave the files as they are, whichever way they end. -/
abbrev Keeps (x : Step σ φ α) : Prop := Preserves Desk.files x

theorem keeps_tell (text : String) : Keeps (tell text : Step σ φ Unit) := fun _ => rfl

theorem keeps_operate (context : List String)
    (x : Device σ → Except DeviceError α × Device σ) : Keeps (operate context x : Step σ φ α) := by
  intro desk
  rw [stateBehind, operate_eq]
  rcases x desk.device with ⟨e | a, device⟩ <;> rfl

theorem keeps_load (context : List String) (x : Device σ → Receipt × Device σ) :
    Keeps (load context x : Step σ φ Bytes) := keeps_operate context _

end Files

omit [Link σ] in
theorem files_save (file : String) (b : Bytes) (desk : Desk σ φ) :
    (stateBehind (save file b) desk).files = (FileStore.write file b desk.files).2 := by
  rw [stateBehind, save_eq]
  rcases FileStore.write file b desk.files with ⟨e | ⟨⟩, files⟩ <;> rfl

/-- **No command but a dump touches a file.** -/
theorem keeps_execute (json : Bool) {c : Command} (hc : ∀ file, c ≠ .dump file) :
    Keeps (execute json c : Step σ φ String) := by
  cases c with
  | families => exact .throw _
  | dump file => exact absurd rfl (hc file)
  | version | read => exact (keeps_load _ _).bind fun _ => .pure _
  | write | setInterval | resetMaxDepth => exact (keeps_operate _ _).bind fun _ => .pure _
  | handshake => exact (keeps_load _ _).bind fun _ => (keeps_load _ _).bind fun _ => .pure _
  | dives =>
    exact (keeps_operate _ _).bind fun _ => (keeps_operate _ _).bind fun _ =>
      (keeps_tell _).bind fun _ => .pure _

/-- A dump writes its file if the whole memory is there, and leaves all files alone if not. -/
theorem files_dump (json : Bool) (file : String) (desk : Desk σ φ) :
    (stateBehind (execute json (.dump file)) desk).files =
      match desk.device.dump.1.toExcept with
      | .ok image => (FileStore.write file image desk.files).2
      | .error _ => desk.files := by
  have hfile (image : Bytes) (desk' : Desk σ φ) :
      (stateBehind (save file image >>= fun _ => (pure "" : Step σ φ String)) desk').files =
        (FileStore.write file image desk'.files).2 :=
    (Preserves.view_bind (fun _ => .pure _) _ _).trans (files_save _ _ _)
  rw [execute, stateBehind_bind, load_eq]
  cases desk.device.dump.1.toExcept with
  | error e => rfl
  | ok image => exact hfile image _

/-- Closing the device makes no difference to the files. -/
theorem files_session (json : Bool) (c : Command) (desk : Desk σ φ) :
    (stateBehind (session json c) desk).files = (stateBehind (execute json c) desk).files :=
  Preserves.view_bind (fun _ => (keeps_operate _ _).bind fun _ => .pure _) _ desk

/-! ### Runs -/

/-- Everything that a run needs was obtained: the device was opened, the command was carried out
with `output` to be printed, and the device was closed. -/
def Obtains (i : Invocation) (opening : Opening σ ρ) (files : φ) (output : String) : Prop :=
  ∃ d done d', opening = .opened d ∧
    CarriesOut i.json i.command ⟨d.listen true, files⟩ output done ∧
    done.device.close = (.ok (), d')

omit [FileStore φ] in
/-- What comes of opening a device and downloading its memory. -/
def download (opening : Opening σ ρ) : Except DeviceError Bytes :=
  match opening with
  | .opened d => (d.listen true).dump.1.toExcept
  | .refused e _ _ => .error e

/-- What a run prints and what it leaves in the files, when the attempt to open the device gave
`opening` and the files were `files` before. -/
structure Shows (i : Invocation) (opening : Opening σ ρ) (files : φ) (r : Outcome × ρ × φ) :
    Prop where
  /-- What was fully obtained is printed. -/
  printed : ∀ output, Obtains i opening files output → r.1.status = 0 ∧ r.1.output = output
  /-- Of anything else not a byte is printed. -/
  silent : (∀ output, ¬ Obtains i opening files output) → r.1.status = 1 ∧ r.1.output = ""
  /-- A download that breaks off gives no list of dives, whatever dives it has handed out. -/
  noPartialList : ∀ fingerprint d d' d'' e, i.command = .dives fingerprint →
    opening = .opened d → (d.listen true).setFingerprint (fingerprint.getD []) = (.ok (), d') →
    d'.foreach (fun _ => true) = (.error e, d'') → r.1.status = 1 ∧ r.1.output = ""
  /-- Unless it is for a dump that brings the memory, the run leaves all files alone. -/
  untouched : (∀ file image, i.command = .dump file → download opening ≠ .ok image) → r.2.2 = files
  /-- A dump that brings the memory writes all of it to the file, whatever comes of closing the
  device. -/
  saved : ∀ file image, i.command = .dump file → download opening = .ok image →
    (∃ d cs, opening = .opened d ∧ (d.listen true).dump.2.calls = d.calls ++ cs ∧
      Device.Brought d.family image cs ∧ image.length = d.family.memorySize) ∧
      r.2.2 = (FileStore.write file image files).2 ∧
      ∀ contents, FileStore.View file contents → (FileStore.write file image files).1 = .ok () →
        contents r.2.2 = some image

variable {i : Invocation} {opening : Opening σ ρ} {files : φ}

/-- The files behind a run on an open device. -/
theorem files_conduct (d : Device σ) (rest : σ → ρ) :
    (conduct i (.opened d) rest files).2.2 =
      (stateBehind (execute i.json i.command) ⟨d.listen true, files⟩).files := by
  rw [← files_session, stateBehind, conduct]
  cases session i.json i.command ⟨d.listen true, files⟩ <;> rfl

/-- What was fully obtained is printed. -/
theorem printed_conduct {output : String} (h : Obtains i opening files output) (rest : σ → ρ) :
    (conduct i opening rest files).1.status = 0 ∧
      (conduct i opening rest files).1.output = output := by
  obtain ⟨d, done, d', rfl, hcarries, hclose⟩ := h
  have hsession := session_ok_iff.2 ⟨done, d', hcarries, hclose, rfl⟩
  rw [conduct, hsession]
  exact ⟨rfl, rfl⟩

/-- Of anything else not a byte is printed. -/
theorem silent_conduct (h : ∀ output, ¬ Obtains i opening files output) (rest : σ → ρ) :
    (conduct i opening rest files).1.status = 1 ∧
      (conduct i opening rest files).1.output = "" := by
  cases opening with
  | refused e remains past => exact ⟨rfl, rfl⟩
  | opened d =>
    rw [conduct]
    cases hsession : session i.json i.command ⟨d.listen true, files⟩ with
    | error f desk => exact ⟨rfl, rfl⟩
    | ok output desk =>
      obtain ⟨done, d', hcarries, hclose, -⟩ := session_ok_iff.1 hsession
      exact absurd ⟨d, done, d', rfl, hcarries, hclose⟩ (h output)

/-- A run shows what was fully obtained, and nothing else, on any link. -/
theorem shows_conduct (i : Invocation) (opening : Opening σ ρ) (rest : σ → ρ) (files : φ) :
    Shows i opening files (conduct i opening rest files) where
  printed output h := printed_conduct h rest
  silent h := silent_conduct h rest
  noPartialList fingerprint d d' d'' e hcommand hopening hset hdownload := by
    refine silent_conduct (fun output hobtains => ?_) rest
    obtain ⟨d₁, done, d₂, hopened, hcarries, -⟩ := hobtains
    obtain rfl : d = d₁ := Opening.opened.inj (hopening.symm.trans hopened)
    rw [hcommand] at hcarries
    -- the dives would have to be there both times, but the link gives one answer only
    cases hcarries with
    | dives hset' hdownload' =>
      obtain rfl := (Prod.mk.inj (hset.symm.trans hset')).2
      cases hdownload.symm.trans hdownload'
  untouched h := by
    cases opening with
    | refused e remains past => rfl
    | opened d =>
      rw [files_conduct]
      by_cases hdump : ∃ file, i.command = .dump file
      · obtain ⟨file, hcommand⟩ := hdump
        rw [hcommand, files_dump]
        cases himage : (d.listen true).dump.1.toExcept with
        | error e => rfl
        | ok image => exact absurd himage (h file image hcommand)
      · exact keeps_execute _ (fun file hcommand => hdump ⟨file, hcommand⟩) _
  saved file image hcommand hdownload := by
    cases opening with
    | refused e remains past => cases hdownload
    | opened d =>
      have himage : (d.listen true).dump.1.toExcept = .ok image := hdownload
      have hfiles : (conduct i (.opened d) rest files).2.2 =
          (FileStore.write file image files).2 := by
        rw [files_conduct, hcommand, files_dump, himage]
      obtain ⟨cs, hcalls, hbrought⟩ :=
        Device.brought_of_dump (Prod.ext (Receipt.toExcept_ok_iff.1 himage) rfl)
      have hfamily : (d.listen true).family = d.family := by cases d <;> rfl
      have hbefore : (d.listen true).calls = d.calls := by cases d <;> rfl
      rw [hfamily] at hbrought
      rw [hbefore] at hcalls
      refine ⟨⟨d, cs, rfl, hcalls, hbrought, hbrought.length⟩, hfiles, ?_⟩
      intro contents hview hwrite
      rw [hfiles]
      exact hview.written image files _ (Prod.ext hwrite rfl)

/-- **The tool shows nothing that it did not fully obtain**, for any device command, any family, any
behaviour of the ports and any files: and what is said of a run holds on any other link too, even on
one that can fail to close. -/
theorem shows_only_obtained {words : List String} (hparse : Invocation.parse words = .ok i)
    (hcommand : i.command ≠ .families) {η : Type} [SerialHost η] (ports : Ports η) (files : φ) :
    (∀ family, i.family = some family →
      Shows i (Device.openPort family i.port i.force token ports) files (run words ports files) ∧
        ∀ d, Device.openPort family i.port i.force token ports = .opened d →
          d.family = family) ∧
      (i.family = none → (run words ports files).1.status = 1 ∧
        (run words ports files).1.output = "" ∧ (run words ports files).2.2 = files) ∧
      ∀ {σ ρ : Type} [Link σ] (opening : Opening σ ρ) (rest : σ → ρ),
        Shows i opening files (conduct i opening rest files) := by
  have hrun : run words ports files = invoke i ports files := by rw [run, hparse]
  rw [hrun, invoke, if_neg hcommand]
  refine ⟨fun family hfamily => ?_, fun hfamily => ?_, fun opening rest => ?_⟩
  · rw [hfamily]
    exact ⟨shows_conduct i _ _ files, fun d => Device.family_of_openPort⟩
  · rw [hfamily]
    exact ⟨rfl, rfl, rfl⟩
  · exact shows_conduct i opening rest files

/-- A device that does not answer: there is no dump, and the one from before is still there.  A
device that does: the image of its memory takes the place of that dump. -/
theorem shows_only_obtained_silent_device :
    let words := ["--family", "vyper2", "--port", "port", "dump", "file"]
    let i : Invocation := ⟨false, false, false, "port", some .vyper2, .dump "file"⟩
    let ports : Ports Bench.Host := ⟨{ ports := [("port", {})], around := { now := 0 } }, []⟩
    let files : Outbox := ⟨[("file", [1, 2])]⟩
    let look := fun o : Outbox => o.files.lookup "file"
    let memory : Bytes := List.replicate 0x8000 0xA5
    let device : Device Bench.LinkBench :=
      .vyper2 (Session.start (Bench.simulating [0x13, 1, 2, 3] memory) ⟨none⟩ ⟨0⟩)
    let opening : Opening Bench.LinkBench Unit := .opened device
    (Invocation.parse words = .ok i ∧ i.command ≠ .families) ∧
      ((run words ports files).1.status = 1 ∧ (run words ports files).1.output = "") ∧
      FileStore.View "file" look ∧ look (run words ports files).2.2 = some [1, 2] ∧
      download opening = .ok memory ∧
      look (conduct i opening (fun _ => ()) files).2.2 = some memory := by
  intro words i ports files look memory device opening
  -- on a line that is silent the version block does not come
  have hparse : Invocation.parse words = .ok i := by decide +kernel
  have hcommand : i.command ≠ .families := by decide
  have hfails : download (Device.openPort .vyper2 i.port i.force token ports) =
      .error .timeout := by decide +kernel
  have hmemory : memory.length = Vyper2.memorySize := List.length_replicate
  -- on the bench the whole memory comes, and with it the file
  obtain ⟨s, hs⟩ : ∃ s, device.listen true = .vyper2 s := ⟨_, rfl⟩
  have hserves : Vyper2.Serves (Bench.Holds ⟨0⟩) [0x13, 1, 2, 3] memory s := by
    obtain rfl := Device.vyper2.inj hs
    have h := Bench.serves_simulating ⟨0⟩ (⟨none⟩ : Vyper2) [0x13, 1, 2, 3] memory
    exact ⟨h.wired, h.ready⟩
  obtain ⟨t, hdump, -⟩ := Vyper2.run_dump hserves rfl hmemory
  have himage : download opening = .ok memory := by
    show (device.listen true).dump.1.toExcept = .ok memory
    rw [hs, Device.dump_vyper2, hdump]
    rfl
  obtain ⟨hrun, -, hopened⟩ := shows_only_obtained hparse hcommand ports files
  obtain ⟨hshows, -⟩ := hrun .vyper2 rfl
  obtain ⟨-, -, hsaved⟩ := (hopened opening fun _ => ()).saved "file" memory rfl himage
  refine ⟨⟨hparse, hcommand⟩, hshows.silent ?_, Outbox.view "file", ?_, himage,
    hsaved look (Outbox.view "file") rfl⟩
  · -- a dump is the only way to carry the command out, and there is none
    rintro output ⟨d, done, d', hopened, hcarries, -⟩
    cases hcarries with
    | dump hdump =>
      rw [hopened] at hfails
      cases (Receipt.toExcept_ok_iff.2 (congrArg Prod.fst hdump)).symm.trans hfails
  · have hsame : (run words ports files).2.2 = files := by
      refine hshows.untouched fun _ image _ hdownload => ?_
      rw [hdownload] at hfails
      cases hfails
    rw [hsame]
    rfl

end Tool
end DiveLink
