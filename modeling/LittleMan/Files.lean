import LittleMan.Report

/-! The files that a program finds, as a tree of names from the root directory, and what
a path leads to in it. -/

namespace LittleMan

/-- Why a file cannot be read as text. -/
inductive FileFault where
  | notFound
  | isDirectory
  | notDirectory
  | notText
  | nulInPath
  | nameTooLong
  /-- Any other fault, in the words of the operating system. -/
  | other (description : String)
deriving DecidableEq, Repr

namespace FileFault

def message : FileFault → String
  | .notFound => "No such file or directory (os error 2)"
  | .isDirectory => "Is a directory (os error 21)"
  | .notDirectory => "Not a directory (os error 20)"
  | .notText => "stream did not contain valid UTF-8"
  | .nulInPath => "file name contained an unexpected NUL byte"
  | .nameTooLong => "File name too long (os error 36)"
  | .other description => description

/-- The diagnostic of a file fault has nothing but a message. -/
def report (fault : FileFault) : Report where
  message := fault.message

end FileFault

/-- What a file holds. -/
inductive Content where
  | own (bytes : List UInt8)
  /-- Whatever the standard input still holds. -/
  | standardInput
deriving DecidableEq, Repr

/-- The bytes of a file when the standard input holds these. -/
def Content.bytes (input : List UInt8) : Content → List UInt8
  | .own bytes => bytes
  | .standardInput => input

/-- What stands at a place of the tree. -/
inductive Entry where
  | directory
  | file (content : Content)
deriving DecidableEq, Repr

/-- Entries by the names that lead to them from the root, the newest first. -/
structure Files where
  entries : List (List String × Entry)

namespace Files

/-- Cuts a path at its slashes; empty names say nothing. -/
def names (path : String) : List String :=
  (path.toList.splitOnP (· = '/')).map String.ofList |>.filter (· ≠ "")

/-- Where relative paths start. The directory is a fresh one, and no path can call it by
its own name. -/
def workingDirectory : List String := ["tmp", ""]

/-- Where a path starts. -/
def start (path : String) : List String :=
  if path.startsWith "/" then [] else workingDirectory

/-- The place that a name leads to from a directory. The root is its own parent. -/
def follow (place : List String) (name : String) : List String :=
  if name = "." then place
  else if name = ".." then place.dropLast
  else place ++ [name]

def get? (files : Files) (place : List String) : Option Entry :=
  (files.entries.find? fun entry => entry.1 = place).map Prod.snd

def put (files : Files) (place : List String) (entry : Entry) : Files :=
  ⟨(place, entry) :: files.entries⟩

/-- Makes a directory where nothing stands. -/
def makeDirectory (files : Files) (place : List String) : Files :=
  if (files.get? place).isSome then files else files.put place .directory

/-- Follows names from a place, making the directories on the way. -/
def makeDirectories (files : Files) (place : List String) : List String → Files × List String
  | [] => (files, place)
  | name :: rest =>
    let place := follow place name
    (files.makeDirectory place).makeDirectories place rest

/-- Writes a file at a path, with the directories it needs. -/
def write (files : Files) (path : String) (bytes : List UInt8) : Files :=
  match (names path).getLast? with
  | none => files
  | some name =>
    let (files, place) := files.makeDirectories (start path) (names path).dropLast
    files.put (follow place name) (.file (.own bytes))

/-- The directories that every system has. -/
def standardDirectories : List String :=
  ["/", "/bin", "/boot", "/dev", "/dev/fd", "/etc", "/home", "/lib", "/media", "/mnt", "/opt",
    "/proc", "/proc/self", "/proc/self/fd", "/root", "/run", "/sbin", "/srv", "/sys", "/tmp",
    "/usr", "/usr/bin", "/usr/lib", "/usr/local", "/usr/sbin", "/usr/share", "/var", "/var/lib",
    "/var/log", "/var/tmp"]

/-- The files that every system has and that a program can be read from. -/
def standardFiles : List (String × Content) :=
  [("/dev/null", .own []), ("/dev/stdin", .standardInput), ("/dev/fd/0", .standardInput),
    ("/proc/self/fd/0", .standardInput)]

/-- A system with an empty working directory. -/
def fresh : Files :=
  ⟨(workingDirectory, .directory) ::
    standardFiles.map (fun file => (names file.1, .file file.2)) ++
    standardDirectories.map (fun path => (names path, .directory))⟩

/-- Files written one after the other in a fresh working directory. -/
def ofList (files : List (String × List UInt8)) : Files :=
  files.foldl (fun written file => written.write file.1 file.2) fresh

/-- The most bytes a single name may have. -/
def nameLimit : Nat := 255

/-- The most bytes a whole path may have. -/
def pathLimit : Nat := 4095

/-- Follows names from a place to the one they lead to. Only a directory can be left. -/
def resolve (files : Files) (place : List String) : List String → Except FileFault (List String)
  | [] => .ok place
  | name :: rest =>
    match files.get? place with
    | none => .error .notFound
    | some (.file _) => .error .notDirectory
    | some .directory =>
      if name.utf8ByteSize > nameLimit then .error .nameTooLong
      else files.resolve (follow place name) rest

/-- What the file at a place holds. -/
def contentAt (files : Files) (place : List String) : Except FileFault Content :=
  match files.get? place with
  | none => .error .notFound
  | some .directory => .error .isDirectory
  | some (.file content) => .ok content

/-- What the file that a path leads to holds. -/
def read (files : Files) (path : String) : Except FileFault Content :=
  if path.toList.contains (Char.ofNat 0) then .error .nulInPath
  else if path.utf8ByteSize > pathLimit then .error .nameTooLong
  else if path = "" then .error .notFound
  else
    -- A path that ends in a slash asks for a directory.
    let asked := if path.endsWith "/" then names path ++ ["."] else names path
    (files.resolve (start path) asked).bind files.contentAt

end Files

end LittleMan
