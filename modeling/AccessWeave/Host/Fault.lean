/-!
What the system answers when it cannot do what it was asked.
-/

namespace AccessWeave

inductive SystemFault
  | notFound
  | permissionDenied
  | alreadyExists
  | notADirectory
  | isADirectory
  /-- A name of more bytes than a directory can hold, or a path of more than can be asked for. -/
  | nameTooLong
  | tooManyLinks
  /-- Words or variables that are too long to be given to a program. -/
  | tooMuchGiven
  /-- A search that has not come to any place. -/
  | nowhereToLook
  | noSpace
  /-- A device that nothing stands behind. -/
  | noDevice
  | networkUnreachable
  | zeroByte
  | invalidText
  | invalidAddress
  | invalidPort
  /-- A host that nobody can be asked about for want of a network. -/
  | unknownHost
  | notAHostName
  deriving DecidableEq, Repr

def SystemFault.message : SystemFault → String
  | notFound => "No such file or directory (os error 2)"
  | permissionDenied => "Permission denied (os error 13)"
  | alreadyExists => "File exists (os error 17)"
  | notADirectory => "Not a directory (os error 20)"
  | isADirectory => "Is a directory (os error 21)"
  | nameTooLong => "File name too long (os error 36)"
  | tooManyLinks => "Too many levels of symbolic links (os error 40)"
  | tooMuchGiven => "Argument list too long (os error 7)"
  | nowhereToLook => "No child processes (os error 10)"
  | noSpace => "No space left on device (os error 28)"
  | noDevice => "No such device or address (os error 6)"
  | networkUnreachable => "Network is unreachable (os error 101)"
  | zeroByte => "nul byte found in provided data"
  | invalidText => "stream did not contain valid UTF-8"
  | invalidAddress => "invalid socket address"
  | invalidPort => "invalid port value"
  | unknownHost =>
      "failed to lookup address information: Temporary failure in name resolution"
  | notAHostName => "failed to lookup address information: Name or service not known"

end AccessWeave
