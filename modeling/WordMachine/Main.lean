import WordMachine.Cli.Program

/-!
# The command line

The program's entry point: it runs `Program.main` against the real files and standard input,
and writes what the program printed to the standard output and error streams.
-/

namespace WordMachine.Cli

/-- The failure of an operating-system call, by its error number. -/
def ioFailure (e : IO.Error) : IoError :=
  let code : Option (UInt32 × String) := match e with
    | .noFileOrDirectory _ c d | .inappropriateType _ c d | .resourceExhausted _ c d
    | .permissionDenied _ c d | .alreadyExists _ c d | .invalidArgument _ c d
    | .noSuchThing _ c d => some (c, d)
    | .otherError c d | .resourceBusy c d | .hardwareFault c d | .illegalOperation c d => some (c, d)
    | _ => none
  match code with
  | some (2, _) => .notFound
  | some (20, _) => .notDirectory
  | some (21, _) => .isDirectory
  | some (28, _) => .noSpace
  | some (36, _) => .nameTooLong
  | some (c, d) => .system c.toNat d
  | none => .system 0 (toString e)

/-- Reads a stream to its end. -/
partial def readAll (s : IO.FS.Stream) (acc : ByteArray) : IO ByteArray := do
  let chunk ← s.read 65536
  if chunk.isEmpty then return acc else readAll s (acc ++ chunk)

/-- The files of the machine the program runs on, in the working directory `cwd`, with its
standard input. A trace sent to a standard stream or a device is told apart by its path. -/
def realFiles (cwd : String) (stdin : IO.FS.Stream) : FileAccess IO where
  input := do return (← readAll stdin ByteArray.empty).toList
  read p := do
    match ← (IO.FS.Handle.mk p .read).toBaseIO with
    | .error e => return .error (ioFailure e)
    | .ok h =>
      match ← h.readBinToEnd.toBaseIO with
      | .error e => return .ok (.error (ioFailure e))
      | .ok bytes => return .ok (.ok bytes.toList)
  create p := do
    let device := if p.endsWith "/" then none else deviceAt? (Files.pathOf (Files.lexical cwd p))
    match device.bind Node.traceTarget? with
    | some t => return .ok t
    | none =>
      match ← (IO.FS.Handle.mk p .write).toBaseIO with
      | .error e => return .error (ioFailure e)
      | .ok _ => return .ok (.file p)
  write t text := do
    match t with
    | .file path =>
      match ← (IO.FS.writeFile path text).toBaseIO with
      | .error e => return .error (ioFailure e)
      | .ok () => return .ok ()
    | .full => return .error .noSpace
    | _ => return .ok ()

end WordMachine.Cli

open WordMachine.Cli

/-- Runs the program on the command line's words. -/
def main (args : List String) : IO UInt32 := do
  let environment ← IO.getEnv "RUST_LOG"
  let cwd ← IO.currentDir
  let exit ← Program.main (realFiles cwd.toString (← IO.getStdin)) args environment
  IO.print exit.stdout
  (← IO.getStderr).putStr exit.stderr
  return exit.status.toUInt32
