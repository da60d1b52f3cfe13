/-!
# File errors

Why a file could not be read or written. Each cause has the number and the text that
the operating system gives it.
-/

namespace InputBridge

/-- Why a file could not be read or written. -/
inductive FileError where
  | notFound
  | inputOutput
  | noDevice
  | permissionDenied
  | notADirectory
  | isADirectory
  | invalidArgument
  | textBusy
  | noSpace
  | nameTooLong
  /-- The content is no text. -/
  | notText
  | other (reason : String)
  deriving DecidableEq, Repr

/-- A text of the operating system with its number. -/
def numberedError (number : Nat) (text : String) : String :=
  text ++ " (os error " ++ number.repr ++ ")"

/-- The text of a file error. -/
def FileError.message : FileError → String
  | .notFound => numberedError 2 "No such file or directory"
  | .inputOutput => numberedError 5 "Input/output error"
  | .noDevice => numberedError 6 "No such device or address"
  | .permissionDenied => numberedError 13 "Permission denied"
  | .notADirectory => numberedError 20 "Not a directory"
  | .isADirectory => numberedError 21 "Is a directory"
  | .invalidArgument => numberedError 22 "Invalid argument"
  | .textBusy => numberedError 26 "Text file busy"
  | .noSpace => numberedError 28 "No space left on device"
  | .nameTooLong => numberedError 36 "File name too long"
  | .notText => "stream did not contain valid UTF-8"
  | .other reason => reason

end InputBridge
