import DiveLink.CommandLine.Invocation
import DiveLink.CommandLine.Output
import DiveLink.Device.Open

/-!
# The tool

One run of the command line tool: the device is opened, the command is carried out, and the device
is closed.  Only when all three have succeeded is anything printed.

## Main definitions

* `FileStore` — a place where files can be written.
* `LogLine`, `Entry.logLine?` — what the user is told along the way.
* `Failure` — why a run ends early: what was being done, and the causes behind it.
* `Tool.execute` — carries out a command on an open device.
* `Tool.conduct` — what is left of a run when the device is open, or could not be opened.
* `Tool.run`, `Outcome` — one run of the tool, and what comes of it.
-/

namespace DiveLink

/-! ### Surroundings -/

/-- States of places where files can be written. -/
class FileStore (φ : Type) where
  /-- Puts bytes into a file in place of what it held. -/
  write : String → Bytes → φ → Except IoError Unit × φ

/-- How much a line of the log matters. -/
inductive LogLevel
  | info | warn | error
  deriving DecidableEq, Repr, Inhabited

/-- The name of a level, five characters wide. -/
def LogLevel.label : LogLevel → String
  | info => "INFO "
  | warn => "WARN "
  | error => "ERROR"

/-- A line of the log. -/
structure LogLine where
  level : LogLevel
  text : String
  deriving DecidableEq, Repr, Inhabited

/-- A line of the log as it is shown; text behind a line break is moved in. -/
def LogLine.shown (l : LogLine) : String :=
  "[" ++ l.level.label ++ "] " ++ "\n    ".intercalate (l.text.splitOn "\n")

/-- The identity of a device, in words. -/
def DevInfo.describe (i : DevInfo) : String :=
  "model " ++ Digits.decimal i.model ++ " firmware " ++ Digits.hexadecimal 6 i.firmware ++
    " serial " ++ Digits.decimal i.serial

/-- The line of the log for something that happened, if the user is told of it. -/
def Entry.logLine? : Entry → Option LogLine
  | warning w => some ⟨.warn, w.message⟩
  | note text => some ⟨.info, text⟩
  | event (.devInfo i) => some ⟨.info, i.describe⟩
  | call .. | event _ | dive _ => none

/-- Why a run ends early: what was being done, and then the causes behind it. -/
abbrev Failure := List String

/-- A failure on one line. -/
def Failure.message (f : Failure) : String := ": ".intercalate f

/-- What comes of a run. -/
structure Outcome where
  /-- The status with which the tool ends. -/
  status : Nat
  /-- What it prints. -/
  output : String
  /-- What it tells the user beside that. -/
  log : List LogLine
  deriving DecidableEq, Repr, Inhabited

namespace Tool

/-! ### Commands -/

/-- An open device and the files beside it. -/
structure Desk (σ φ : Type) where
  device : Device σ
  files : φ

/-- Steps of a command, which may fail. -/
abbrev Step (σ φ : Type) := EStateM Failure (Desk σ φ)

variable {σ φ α : Type}

/-- An operation on the device; `context` says what was being done if it fails. -/
def operate (context : List String) (x : Device σ → Except DeviceError α × Device σ) :
    Step σ φ α := do
  let desk ← get
  let (result, device) := x desk.device
  set { desk with device }
  match result with
  | .ok a => return a
  | .error e => throw (context ++ e.chain)

/-- An operation on the device that fills a buffer. -/
def load (context : List String) (x : Device σ → Receipt × Device σ) : Step σ φ Bytes :=
  operate context fun d =>
    let (receipt, d) := x d
    (receipt.toExcept, d)

/-- Tells the user something. -/
def tell (text : String) : Step σ φ Unit :=
  modify fun desk => { desk with device := desk.device.note text }

/-- Writes a file. -/
def save [FileStore φ] (file : String) (b : Bytes) : Step σ φ Unit := do
  let desk ← get
  let (result, files) := FileStore.write file b desk.files
  set { desk with files }
  match result with
  | .ok () => tell ("saved " ++ Digits.decimal b.length ++ " bytes to " ++ file)
  | .error e => throw ["Failed to write " ++ file, e.message]

/-- A range of memory, in words. -/
def range (verb : String) (count address : Nat) : String :=
  "Failed to " ++ verb ++ " " ++ Digits.decimal count ++ " bytes at " ++
    Digits.hexadecimal 4 address

/-- Carries out a command on an open device, and gives what is to be printed. -/
def execute [Link σ] [FileStore φ] (json : Bool) : Command → Step σ φ String
  -- a list of the families needs no device
  | .families => throw ["unexpected command (this is a bug!)"]
  | .version => do
    let block ← load ["Failed to read the version"] (Device.version Vyper2.versionSize)
    return Output.bytes json block
  | .read address count => do
    let data ← load [range "read" count address] (Device.read address count)
    return Output.memory json data
  | .write address values => do
    operate [range "write" values.length address] (Device.write address values)
    return ""
  | .dump file => do
    let image ← load ["Failed to dump memory"] Device.dump
    save file image
    return ""
  | .dives fingerprint => do
    operate ["Failed to set the fingerprint"] (Device.setFingerprint (fingerprint.getD []))
    let dives ← operate ["Failed to download dives"] (Device.foreach fun _ => true)
    tell (Digits.decimal dives.length ++ " new dives")
    return Output.dives json dives
  | .handshake => do
    let _ ← load ["Failed to talk to the device"] Device.dump
    let frame ← load [] (Device.handshake SensusPro.handshakeSize)
    return Output.bytes json frame
  | .setInterval seconds => do
    operate ["Failed to set the sample interval"] (Device.writeInterval seconds)
    return ""
  | .resetMaxDepth => do
    operate ["Failed to reset the maximum depth"] Device.resetMaxDepth
    return ""

/-- Carries out a command and closes the device. -/
def session [Link σ] [FileStore φ] (json : Bool) (c : Command) : Step σ φ String := do
  let output ← execute json c
  operate ["Failed to close the device"] Device.close
  return output

/-! ### Runs -/

/-- The lines of the log for what happened, latest entry first. -/
def logOf (past : List Entry) : List LogLine := past.reverse.filterMap Entry.logLine?

/-- A run that fails. -/
def failed (past : List Entry) (f : Failure) : Outcome :=
  ⟨1, "", logOf past ++ [⟨.error, f.message⟩]⟩

/-- A run that succeeds. -/
def succeeded (past : List Entry) (output : String) : Outcome := ⟨0, output, logOf past⟩

/-- The status of a run whose command line makes no sense; a request for help is no mistake. -/
def usageStatus : UsageError → Nat
  | .help | .version => 0
  | _ => 2

/-- What is said when a command needs a family and none was chosen. -/
def noFamily : String := "No device family given, use --family"

/-- The token of the tool, which nobody cancels. -/
def token : CancelToken := ⟨0⟩

/-- The rest of a run, for which the attempt to open the device gave `opening`, with what remains of
the link and the files behind it. -/
def conduct {ρ : Type} [Link σ] [FileStore φ] (i : Invocation) (opening : Opening σ ρ)
    (rest : σ → ρ) (files : φ) : Outcome × ρ × φ :=
  match opening with
  | .refused e remains past =>
    (failed past (("Can't open port '" ++ i.port ++ "'") :: e.chain), remains, files)
  | .opened device =>
    match session i.json i.command ⟨device.listen true, files⟩ with
    | .ok output desk => (succeeded desk.device.past output, rest desk.device.link, desk.files)
    | .error f desk => (failed desk.device.past f, rest desk.device.link, desk.files)

variable {η : Type} [SerialHost η] [FileStore φ]

/-- One run for an invocation, with the ports and files behind it. -/
def invoke (i : Invocation) (ports : Ports η) (files : φ) : Outcome × Ports η × φ :=
  if i.command = .families then (succeeded [] (Output.families i.json), ports, files)
  else
    match i.family with
    | none => (failed [] [noFamily], ports, files)
    | some family =>
      conduct i (Device.openPort family i.port i.force token ports) (·.ports) files

/-- One run for the words of a command line, with the ports and files behind it. -/
def run (words : List String) (ports : Ports η) (files : φ) : Outcome × Ports η × φ :=
  match Invocation.parse words with
  | .error e => (⟨usageStatus e, "", []⟩, ports, files)
  | .ok i => invoke i ports files

end Tool

end DiveLink
