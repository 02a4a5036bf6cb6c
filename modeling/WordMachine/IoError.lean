/-!
# Input and output failures

The failures of the devices around the machine: its console, its trace file and the files a
command opens. Each has the text that the operating system or the stream gives for it.
-/

namespace WordMachine

/-- A failed input or output operation. -/
inductive IoError where
  /-- The output stream no longer accepts anything. -/
  | outputClosed
  /-- The output stream accepts bytes but refuses to flush them. -/
  | flushRefused
  /-- A line of input is not well-formed UTF-8. -/
  | invalidUtf8
  /-- The device is full. -/
  | noSpace
  /-- A path names nothing. -/
  | notFound
  /-- A path names a directory where a file is needed. -/
  | isDirectory
  /-- A path goes through something that is not a directory. -/
  | notDirectory
  /-- A path, or one of its steps, is longer than the system allows. -/
  | nameTooLong
  /-- Any other failure the operating system reports, by its number and description. -/
  | system (code : Nat) (description : String)
  deriving DecidableEq, Repr

/-- The text of an input or output failure. -/
def IoError.message : IoError → String
  | .outputClosed => "output closed"
  | .flushRefused => "flush refused"
  | .invalidUtf8 => "stream did not contain valid UTF-8"
  | .noSpace => "No space left on device (os error 28)"
  | .notFound => "No such file or directory (os error 2)"
  | .isDirectory => "Is a directory (os error 21)"
  | .notDirectory => "Not a directory (os error 20)"
  | .nameTooLong => "File name too long (os error 36)"
  | .system code description => description ++ " (os error " ++ toString code ++ ")"

end WordMachine
