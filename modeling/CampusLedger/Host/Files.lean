/-!
# The files of the host

Connection settings name files: certificates, keys, service files and socket directories. The
host the program runs on is given by its tree (`Tree`): its directories and its files, by
absolute path, and those under the working directory, by path from it. Nothing else exists. A
relative path starts from the working directory; nothing is known above it.

Readers of these files tell three kinds of content apart: blank (empty, or only blank and
comment lines), other text with no PEM block, and PEM blocks of certificates.

A path is walked one component at a time from the root. An empty component and `.` stay where
they are, `..` goes up, and every step needs the place it starts from to be a directory, so a
path that passes through a file fails with `not a directory`, even with a trailing slash. A
component that does not exist fails with `no such file or directory`.
-/

namespace CampusLedger.Host

/-- What a file holds, as far as the readers of connection settings can tell. -/
inductive Content where
  /-- Nothing, or only blank and comment lines. -/
  | blank
  /-- Other text, or binary data, without a PEM block. -/
  | text
  /-- PEM blocks of certificates only. -/
  | certificates
  deriving DecidableEq, Repr

inductive Node where
  | directory
  /-- A file and what it holds. -/
  | file (content : Content)
  deriving DecidableEq, Repr

inductive Miss where
  /-- A component before the end is a file. -/
  | notDirectory
  | missing
  deriving DecidableEq, Repr

def Miss.text : Miss → String
  | .notDirectory => "not a directory"
  | .missing => "no such file or directory"

/-- The files of a host and what they hold, with its directories: under the root by absolute
path, and under the working directory by path from it, the working directory itself written
empty. -/
structure Tree where
  directories : List String
  files : List (String × Content)
  workingDirectories : List String
  workingFiles : List (String × Content)

/-- Where a path starts: the root, or the working directory. -/
inductive Start where
  | root
  | working
  deriving DecidableEq, Repr

variable (host : Tree)

/-- What the place reached by a list of components from a start is, if it exists. -/
def nodeAt (start : Start) (parts : List String) : Option Node :=
  let (dirs, fs, path) := match start with
    | .root => (host.directories, host.files, "/" ++ "/".intercalate parts)
    | .working => (host.workingDirectories, host.workingFiles, "/".intercalate parts)
  if dirs.contains path then some .directory
  else (fs.find? (·.1 == path)).map fun (_, content) => .file content

/-- Walks the remaining components from the place reached so far. Going up from the working
directory leads nowhere known. -/
def walk (start : Start) : List String → List String → Except Miss Node
  | here, [] =>
    match nodeAt host start here with
    | some n => .ok n
    | none => .error .missing
  | here, c :: rest =>
    match nodeAt host start here with
    | some .directory =>
      if c.isEmpty || c == "." then walk start here rest
      else if c == ".." then
        if here.isEmpty && start == .working then .error .missing
        else walk start here.dropLast rest
      else
        match nodeAt host start (here ++ [c]) with
        | some _ => walk start (here ++ [c]) rest
        | none => .error .missing
    | some (.file _) => .error .notDirectory
    | none => .error .missing

def lookup (path : String) : Except Miss Node :=
  if path.isEmpty then .error .missing else
  match path.splitOn "/" with
  | "" :: parts => walk host .root [] parts
  | parts => walk host .working [] parts

/-- Reads a whole file: what it holds, or the error of opening or reading it. -/
def read (path : String) : Except String Content :=
  match lookup host path with
  | .error m => .error ("open " ++ path ++ ": " ++ m.text)
  | .ok .directory => .error ("read " ++ path ++ ": is a directory")
  | .ok (.file content) => .ok content

/-- The longest socket path the system accepts, in octets, is one less than this. -/
def socketPathLimit : Nat := 108

/-- Why connecting to a Unix socket at a path fails here: a path too long for the system, a path
that leads nowhere, or a place where nothing listens. -/
def socketRefusal (path : String) : String :=
  if path.utf8ByteSize ≥ socketPathLimit then "invalid argument"
  else
    match lookup host path with
    | .error m => m.text
    | .ok _ => "connection refused"

end CampusLedger.Host
