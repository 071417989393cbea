/-
What can go wrong with files and programs.
-/

namespace PageScript

/-- The cause of a failed operation on files or programs. -/
inductive IoError where
  | notFound
  | permissionDenied
  | alreadyExists
  | notDirectory
  | isDirectory
  | badFormat
  | nameTooLong
  | tooManyArguments
  /-- Interpreters that lead to one another without end. -/
  | tooManyLinks
  /-- A device that cannot be opened. -/
  | noDevice
  | noSpace
  /-- A path that holds a NUL. -/
  | nulInPath
  /-- A NUL in what a program is to be started with. -/
  | nulInCommand
  /-- The content of a file is no text. -/
  | notText
  /-- A cause described elsewhere. -/
  | other (reason : String)
  deriving Repr, DecidableEq, Inhabited

def IoError.message : IoError → String
  | .notFound => "No such file or directory (os error 2)"
  | .permissionDenied => "Permission denied (os error 13)"
  | .alreadyExists => "File exists (os error 17)"
  | .notDirectory => "Not a directory (os error 20)"
  | .isDirectory => "Is a directory (os error 21)"
  | .badFormat => "Exec format error (os error 8)"
  | .nameTooLong => "File name too long (os error 36)"
  | .tooManyArguments => "Argument list too long (os error 7)"
  | .tooManyLinks => "Too many levels of symbolic links (os error 40)"
  | .noDevice => "No such device or address (os error 6)"
  | .noSpace => "No space left on device (os error 28)"
  | .nulInPath => "file name contained an unexpected NUL byte"
  | .nulInCommand => "nul byte found in provided data"
  | .notText => "stream did not contain valid UTF-8"
  | .other reason => reason

end PageScript
