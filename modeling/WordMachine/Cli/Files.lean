import WordMachine.IoError

/-!
# Files

The program reads one file (the program image) and may create one (the trace). `FileAccess m`
is what it needs from its surroundings, in a monad `m`; `Files` is a file system held in memory
with its operations, so that a whole invocation can be computed without any input or output.

Paths are resolved as the operating system does: relative to the working directory, `.` and
`..` step in place and up, every step before the last must be a directory, and a trailing `/`
asks for a directory; creating a file at a path with a trailing `/` fails as a directory would,
whatever the path names. A path of `pathMax` bytes or more is refused before anything else, and
so is a step longer than `nameMax` bytes when it is looked up in a directory that exists.
`/dev/null` takes everything and reads as empty; `/dev/full` refuses every write. `/dev/stdin` reads the rest of the standard input, which is then used up;
`/dev/stdout` and `/dev/stderr` are the program's own output streams, also reached as
`/dev/fd/N` and `/proc/self/fd/N`. A device is no directory: a path to one that ends in `/`
fails.
-/

namespace WordMachine.Cli

/-- Where the trace goes once its file is created. -/
inductive TraceTarget where
  /-- A regular file, by its resolved path. -/
  | file (path : String)
  /-- A device that takes everything. -/
  | discard
  /-- A device that refuses every write. -/
  | full
  /-- The program's standard output. -/
  | standardOutput
  /-- The program's standard error stream. -/
  | standardError
  deriving DecidableEq, Repr

/-- What the program needs from the files around it. -/
structure FileAccess (m : Type → Type) where
  /-- Reads a whole file: the outer failure is from opening it, the inner one from reading. -/
  read : String → m (Except IoError (Except IoError (List UInt8)))
  /-- Takes what is left of the standard input. -/
  input : m (List UInt8)
  /-- Creates a file, or empties an existing one, to receive a trace. -/
  create : String → m (Except IoError TraceTarget)
  /-- Writes the text of a trace to where it goes. -/
  write : TraceTarget → String → m (Except IoError Unit)

/-- What a path names in memory. -/
inductive Node where
  | file (contents : List UInt8)
  | directory
  | discard
  | full
  | standardInput
  | standardOutput
  | standardError
  deriving DecidableEq, Repr

/-- The device an absolute path names, if it names one. -/
def deviceAt? (p : String) : Option Node :=
  if p == "/dev/null" then some .discard
  else if p == "/dev/full" then some .full
  else if ["/dev/stdin", "/dev/fd/0", "/proc/self/fd/0"].contains p then some .standardInput
  else if ["/dev/stdout", "/dev/fd/1", "/proc/self/fd/1"].contains p then some .standardOutput
  else if ["/dev/stderr", "/dev/fd/2", "/proc/self/fd/2"].contains p then some .standardError
  else none

/-- Where writes to a device go once it is opened for them. -/
def Node.traceTarget? : Node → Option TraceTarget
  | .discard | .standardInput => some .discard
  | .full => some .full
  | .standardOutput => some .standardOutput
  | .standardError => some .standardError
  | _ => none

/-- A file system in memory. -/
structure Files where
  /-- The working directory, an absolute path. -/
  cwd : String
  /-- The directories, by absolute path. -/
  directories : List String
  /-- The regular files, by absolute path, with their contents. -/
  files : List (String × List UInt8)
  /-- What is left of the standard input. -/
  stdin : List UInt8 := []
  deriving Repr

namespace Files

/-- The length in bytes from which a whole path is refused. -/
def pathMax : Nat := 4096

/-- The length in bytes of the longest step of a path. -/
def nameMax : Nat := 255

/-- Whether a step of a path is too long to name anything. -/
def tooLong (s : String) : Bool := nameMax < s.utf8ByteSize

/-- The absolute path of components. -/
def pathOf (cs : List String) : String := "/" ++ "/".intercalate cs

/-- What a list of components names. -/
def lookup (fs : Files) (cs : List String) : Option Node :=
  let p := pathOf cs
  match deviceAt? p with
  | some d => some d
  | none =>
    if fs.directories.contains p then some .directory
    else (fs.files.find? (·.1 == p)).map fun f => .file f.2

/-- The components of a path, before any step is taken. -/
def split (p : String) : List String := (p.splitOn "/").filter (· != "")

/-- Walks the steps of a path from a directory, every step naming a directory; the
components reached, or why the walk fails. A step too long is refused when it is looked up. -/
def walk (fs : Files) : List String → List String → Except IoError (List String)
  | cur, [] => .ok cur
  | cur, s :: ss =>
    if s != "." && s != ".." && tooLong s then .error .nameTooLong else
    let next := if s == "." then cur else if s == ".." then cur.dropLast else cur ++ [s]
    match fs.lookup next with
    | some .directory => walk fs next ss
    | some _ => .error .notDirectory
    | none => .error .notFound

/-- The components a path names from a working directory, taken by its text alone: `.` stays
in place and `..` goes up. -/
def lexical (cwd : String) (p : String) : List String :=
  let start := if p.startsWith "/" then [] else split cwd
  (split p).foldl (fun cur s => if s == "." then cur else if s == ".." then cur.dropLast else cur ++ [s])
    start

/-- Resolves a path to the components of its directory and its last step (`none` when the path
names its directory itself). -/
def resolve (fs : Files) (p : String) : Except IoError (List String × Option String) :=
  let start := if p.startsWith "/" then [] else split fs.cwd
  match (split p).reverse with
  | [] => .ok (start, none)
  | last :: before =>
    match fs.walk start before.reverse with
    | .error e => .error e
    | .ok dir =>
      if last == "." then .ok (dir, none)
      else if last == ".." then .ok (dir.dropLast, none)
      else .ok (dir, some last)

/-- Opens a file and reads all of it; reading the standard input uses it up. -/
def read (fs : Files) (p : String) : Except IoError (Except IoError (List UInt8)) × Files :=
  if pathMax ≤ p.utf8ByteSize then (.error .nameTooLong, fs)
  else if p.isEmpty then (.error .notFound, fs)
  else match fs.resolve p with
    | .error e => (.error e, fs)
    | .ok (_, none) => (.ok (.error .isDirectory), fs)
    | .ok (dir, some name) =>
      if tooLong name then (.error .nameTooLong, fs) else
      match fs.lookup (dir ++ [name]) with
      | none => (.error .notFound, fs)
      | some .directory => (.ok (.error .isDirectory), fs)
      | some _ =>
        if p.endsWith "/" then (.error .notDirectory, fs)
        else match fs.lookup (dir ++ [name]) with
          | some (.file bytes) => (.ok (.ok bytes), fs)
          | some .standardInput => (.ok (.ok fs.stdin), { fs with stdin := [] })
          | _ => (.ok (.ok []), fs)

/-- Sets the contents of a regular file, creating it when needed. -/
def store (fs : Files) (path : String) (bytes : List UInt8) : Files :=
  { fs with files := (fs.files.filter (·.1 != path)) ++ [(path, bytes)] }

/-- Creates a file, or empties an existing one. A trailing `/` fails as soon as the directory
of the last step is found, before the step is looked up. -/
def create (fs : Files) (p : String) : Except IoError (Files × TraceTarget) :=
  if pathMax ≤ p.utf8ByteSize then .error .nameTooLong
  else if p.isEmpty then .error .notFound
  else match fs.resolve p with
    | .error e => .error e
    | .ok (_, none) => .error .isDirectory
    | .ok (dir, some name) =>
      if p.endsWith "/" then .error .isDirectory
      else if tooLong name then .error .nameTooLong
      else
        let path := pathOf (dir ++ [name])
        match fs.lookup (dir ++ [name]) with
        | some .directory => .error .isDirectory
        | some (.file _) | none => .ok (fs.store path [], .file path)
        | some device =>
          match device.traceTarget? with
          | some t => .ok (fs, t)
          | none => .error .notFound

/-- The contents of a regular file, if there is one at an absolute path. -/
def contents (fs : Files) (path : String) : Option (List UInt8) :=
  (fs.files.find? (·.1 == path)).map Prod.snd

end Files

/-- The operations on a file system in memory, as state. -/
def Files.access (encode : String → List UInt8) : FileAccess (StateM Files) where
  read p := modifyGet (·.read p)
  input := modifyGet fun fs => (fs.stdin, { fs with stdin := [] })
  create p := do
    match (← get).create p with
    | .error e => return .error e
    | .ok (fs, t) => set fs; return .ok t
  write t text := do
    match t with
    | .file path => modify (·.store path (encode text)); return .ok ()
    | .full => return .error .noSpace
    | _ => return .ok ()

end WordMachine.Cli
