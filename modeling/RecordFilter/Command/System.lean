import RecordFilter.FileFault
import RecordFilter.Keyed

/-!
# Files and the output

The program reads and writes whole files and prints texts. A `System` says how that is done; `Directory` is
one that is a value, a single directory of files in a system that holds nothing else but directories and the
null device.

* `Directory.follow` finds what a path means, name by name.
* `Directory.read` and `Directory.write` are the two operations on files.
* `Directory.failing` is a system in which they and printing can fail besides.
-/

namespace RecordFilter.Command

/-- What the program asks of the system that it runs in. -/
structure System (m : Type → Type) where
  read : String → m (Except FileFault ByteArray)
  /-- Makes a file hold these bytes. A file that is there is emptied first, so that one that cannot be
  written to the end holds a part of them. -/
  write : String → ByteArray → m (Except FileFault Unit)
  /-- Prints a text to the standard output. -/
  print : String → m (Except FileFault Unit)

/-- The files of a directory by their names. -/
abbrev Directory := Keyed ByteArray

/-- A directory that a path can lead to. -/
inductive Position
  /-- The directory of the files. -/
  | here
  /-- Another one: the names that lead to it from the root, the last one first. -/
  | outer (names : List String)
deriving DecidableEq, Repr

namespace Position

/-- The directories that every system has at its root. -/
def rootNames : List String :=
  ["bin", "boot", "dev", "etc", "home", "lib", "media", "mnt", "opt", "proc", "root", "run", "sbin",
   "srv", "sys", "tmp", "usr", "var"]

/-- The directory above. The root is above itself. -/
def up : Position → Position
  | here => outer ["tmp"]
  | outer names => outer names.tail

/-- The directory that bears this name in another one. -/
def enter? : Position → String → Option Position
  | outer [], name => if name ∈ rootNames then some (outer [name]) else none
  | _, _ => none

end Position

/-- What a path means. -/
inductive Place
  | directory
  /-- What bears this name in a directory or would bear it, and whether the path says that it is a
  directory, which it is not. -/
  | entry (position : Position) (name : String) (asDirectory : Bool)
deriving DecidableEq, Repr

/-- How a file is not written. -/
inductive WriteFault
  /-- The file is not opened. -/
  | refused (fault : FileFault)
  /-- The file is emptied and gets this many bytes. -/
  | cut (count : Nat) (fault : FileFault)
deriving DecidableEq, Repr

/-- What fails in a system, besides what paths and files make fail. -/
structure Faults where
  read? : String → Option FileFault
  write? : String → Option WriteFault
  print? : Option FileFault

/-- Nothing fails. -/
def Faults.none : Faults := ⟨fun _ => .none, fun _ => .none, .none⟩

/-- The most bytes that a path may have. -/
def longestPath : Nat := 4095

/-- The most bytes that a name in a directory may have. -/
def longestName : Nat := 255

namespace Directory

/-- The bytes of what bears this name. The null device holds none. -/
def content (d : Directory) (position : Position) (name : String) : Except FileFault ByteArray :=
  if longestName < name.utf8ByteSize then .error .nameTooLong
  else if position = .outer ["dev"] ∧ name = "null" then .ok .empty
  else
    match if position = .here then d.get? name else none with
    | some bytes => .ok bytes
    | none => .error .missing

/-- Why nothing is found below what bears this name: a file has nothing below it. -/
def faultBelow (d : Directory) (position : Position) (name : String) : FileFault :=
  match d.content position name with
  | .ok _ => .notDirectory
  | .error fault => fault

/-- What the names of a path mean, starting in a directory. -/
def followNames (d : Directory) (asDirectory : Bool) : Position → List String → Except FileFault Place
  | _, [] => .ok .directory
  | position, name :: rest =>
    if name = "." then d.followNames asDirectory position rest
    else if name = ".." then d.followNames asDirectory position.up rest
    else
      match position.enter? name with
      | some inner => d.followNames asDirectory inner rest
      | none =>
        if rest = [] then .ok (.entry position name asDirectory)
        else .error (d.faultBelow position name)

/-- What a path means. -/
def follow (d : Directory) (path : String) : Except FileFault Place :=
  let chars := path.toList
  let names := ((chars.splitOn '/').filter (· ≠ [])).map String.ofList
  if chars.isEmpty then .error .missing
  else if longestPath < path.utf8ByteSize then .error .nameTooLong
  else
    d.followNames (chars.getLast? = some '/') (if chars.head? = some '/' then .outer [] else .here)
      names

/-- The bytes of a file. -/
def read (d : Directory) (path : String) : Except FileFault ByteArray :=
  match d.follow path with
  | .ok .directory => .error .isDirectory
  | .ok (.entry position name true) => .error (d.faultBelow position name)
  | .ok (.entry position name false) => d.content position name
  | .error fault => .error fault

/-- The directory after a file was written, a new one if need be; a file outside of it leaves it as it
is. A path that says that it is a directory is no file, whatever is there. -/
def write (d : Directory) (path : String) (bytes : ByteArray) : Except FileFault Directory :=
  match d.follow path with
  | .ok .directory | .ok (.entry _ _ true) => .error .isDirectory
  | .ok (.entry position name false) =>
    if longestName < name.utf8ByteSize then .error .nameTooLong
    else .ok (if position = .here then d.put name bytes else d)
  | .error fault => .error fault

/-- A directory as a system, with its faults. What is written is there from then on. -/
def failing (faults : Faults) : System (StateM Directory) where
  read path := do
    match faults.read? path with
    | some fault => return .error fault
    | none => return (← get).read path
  write path bytes := do
    match faults.write? path with
    | some (.refused fault) => return .error fault
    | some (.cut count fault) =>
      match (← get).write path (bytes.extract 0 count) with
      | .ok after => do
        set after
        return .error fault
      | .error fault => return .error fault
    | none =>
      match (← get).write path bytes with
      | .ok after => do
        set after
        return .ok ()
      | .error fault => return .error fault
  print _ := do
    match faults.print? with
    | some fault => return .error fault
    | none => return .ok ()

/-- A directory as a system in which nothing fails but what paths and files make fail. -/
def disk : System (StateM Directory) :=
  failing .none

end Directory

end RecordFilter.Command
