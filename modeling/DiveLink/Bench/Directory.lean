import DiveLink.CommandLine.Tool

/-!
# A scripted directory

An empty working directory in place of a file system.  The folders around it are those of any host;
what is written there is not looked at again.

## Main definitions

* `Bench.Place`, `Bench.Obstacle` — where a file is written, and why a name leads to no such place.
* `Bench.Directory` — the files of the directory.
* `Bench.Directory.resolve` — the place that a name leads to.
-/

namespace DiveLink.Bench

/-- Where a file is written. -/
inductive Place
  /-- In the working directory. -/
  | file (name : String)
  /-- Where all bytes are taken and none is seen again. -/
  | sink
  /-- Where no byte is taken. -/
  | full
  deriving DecidableEq, Repr, Inhabited

/-- Why a name leads to no place for a file. -/
inductive Obstacle
  | missing | notFolder | folder | tooLong
  deriving DecidableEq, Repr, Inhabited

/-- An obstacle as a failed output operation. -/
def Obstacle.toIoError : Obstacle → IoError
  | missing => ⟨.notFound, "No such file or directory (os error 2)"⟩
  | notFolder => ⟨.other, "Not a directory (os error 20)"⟩
  | folder => ⟨.other, "Is a directory (os error 21)"⟩
  | tooLong => ⟨.other, "File name too long (os error 36)"⟩

/-- The files of a directory, by name. -/
structure Directory where
  files : List (String × Bytes) := []
  deriving DecidableEq, Repr, Inhabited

namespace Directory

/-! ### Around the directory -/

/-- The path of the directory, from the root on. -/
def home : List String := ["tmp", "bench"]

/-- The folders in the root. -/
def rootFolders : List String :=
  ["bin", "boot", "dev", "etc", "home", "lib", "media", "mnt", "opt", "proc", "root", "run",
    "sbin", "srv", "sys", "tmp", "usr", "var"]

/-- Whether there is a folder at a path. -/
def isFolder (path : List String) : Bool :=
  path == [] || path == home || rootFolders.any fun name => path == [name]

/-- The device at a path, if there is one. -/
def device? : List String → Option Place
  | ["dev", "full"] => some .full
  | ["dev", name] =>
    if ["null", "zero", "random", "urandom"].contains name then some .sink else none
  | _ => none

/-- The most bytes of a step of a path. -/
def stepLimit : Nat := 255

/-- The number of bytes from which on a path is too long. -/
def pathLimit : Nat := 4096

/-! ### Names -/

/-- Whether there is something at a path, a folder or not. -/
def holds (d : Directory) (path : List String) : Bool :=
  isFolder path || (device? path).isSome || d.files.any fun f => path == home ++ [f.1]

/-- The folder that some steps lead to from the folder `here`. -/
def follow (d : Directory) (here : List String) : List String → Except Obstacle (List String)
  | [] => .ok here
  | step :: steps =>
    if step = "." then d.follow here steps
    else if step = ".." then d.follow here.dropLast steps
    else if stepLimit < step.utf8ByteSize then .error .tooLong
    else
      let path := here ++ [step]
      if isFolder path then d.follow path steps
      else if d.holds path then .error .notFolder
      else .error .missing

/-- The place of a file in the folder `here`. -/
def place (here : List String) (step : String) : Except Obstacle Place :=
  let path := here ++ [step]
  if stepLimit < step.utf8ByteSize then .error .tooLong
  else if isFolder path then .error .folder
  else .ok ((device? path).getD (if here = home then .file step else .sink))

/-- The place that a name leads to.  A name that ends like that of a folder stands for a folder,
whether there is one or not. -/
def resolve (d : Directory) (name : String) : Except Obstacle Place := do
  if name = "" then throw .missing
  if pathLimit ≤ name.utf8ByteSize then throw .tooLong
  let parts := name.splitOn "/"
  let steps := parts.filter (· != "")
  let start := if parts.head? == some "" then [] else home
  match steps.getLast? with
  | none => throw .folder
  | some last =>
    let here ← d.follow start steps.dropLast
    if last == "." || last == ".." || parts.getLast? == some "" then throw .folder
    place here last

/-! ### Writing -/

/-- Puts bytes into the file at a place. -/
def put (b : Bytes) (d : Directory) : Place → Except IoError Unit × Directory
  | .file name => (.ok (), ⟨(name, b) :: d.files.filter (·.1 != name)⟩)
  | .sink => (.ok (), d)
  | .full =>
    if b = [] then (.ok (), d) else (.error ⟨.other, "No space left on device (os error 28)"⟩, d)

instance : FileStore Directory where
  write name b d :=
    match d.resolve name with
    | .ok place => d.put b place
    | .error obstacle => (.error obstacle.toIoError, d)

end Directory

end DiveLink.Bench
