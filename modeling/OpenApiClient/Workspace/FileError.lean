/-!
# Errors of the file system

Why an operation on files fails (`FileError`), with the messages that operating systems of the Unix
family give.
-/

namespace OpenApiClient

inductive FileError where
  | notFound
  | alreadyExists
  | notDirectory
  | isDirectory
  /-- The current directory cannot be removed by the name `.`. -/
  | invalidArgument
  | nameTooLong
  | notEmpty
  /-- The root cannot be removed. -/
  | busy
  /-- A path with a null character in it. -/
  | nullInPath
  | notText
  /-- Any other failure, with its message. -/
  | other (message : String)
  deriving DecidableEq, Repr

def FileError.message : FileError → String
  | notFound => "No such file or directory (os error 2)"
  | busy => "Device or resource busy (os error 16)"
  | alreadyExists => "File exists (os error 17)"
  | notDirectory => "Not a directory (os error 20)"
  | isDirectory => "Is a directory (os error 21)"
  | invalidArgument => "Invalid argument (os error 22)"
  | nameTooLong => "File name too long (os error 36)"
  | notEmpty => "Directory not empty (os error 39)"
  | nullInPath => "file name contained an unexpected NUL byte"
  | notText => "stream did not contain valid UTF-8"
  | other message => message

end OpenApiClient
