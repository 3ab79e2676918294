/-!
# What the file system refuses, and how it says so

A refusal is about a path or about what stands at its end. A missing permission, a full disk or a
failing write is not among them: the system grants all else (see the file store). Streams report
failures in their own words.
-/

namespace Typecase

/-- The refusals of the operating system. -/
inductive OsFault where
  | notFound
  | alreadyExists
  | noDevice
  | notDirectory
  | isDirectory
  | nameTooLong
  | nulInPath
  deriving DecidableEq, Repr

def OsFault.message : OsFault → String
  | notFound => "No such file or directory (os error 2)"
  | alreadyExists => "File exists (os error 17)"
  | noDevice => "No such device (os error 19)"
  | notDirectory => "Not a directory (os error 20)"
  | isDirectory => "Is a directory (os error 21)"
  | nameTooLong => "File name too long (os error 36)"
  | nulInPath => "file name contained an unexpected NUL byte"

/-- A failed read or write: refused by the system, or reported by a stream in its own words. -/
inductive IoFault where
  | os (cause : OsFault)
  | reported (text : String)
  deriving DecidableEq, Repr

def IoFault.message : IoFault → String
  | os cause => cause.message
  | reported text => text

end Typecase
