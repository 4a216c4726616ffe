import Harvest.Text.Numeral

/-!
# Failures of system calls

The kinds of failure that calls to the operating system and to storage services report, and the
numbered errors of the system with their texts.
-/

namespace Harvest

/-- The kind of a failed system call, as far as it is told apart. -/
inductive SystemFault where
  | notFound
  | permissionDenied
  | interrupted
  | timedOut
  | connectionReset
  | connectionAborted
  | connectionRefused
  | brokenPipe
  | notConnected
  | wouldBlock
  | alreadyExists
  | invalidData
  | unexpectedEnd
  | other
deriving DecidableEq, Repr

/-- What a failure says when nothing but its kind is known. -/
def SystemFault.description : SystemFault → String
  | notFound => "entity not found"
  | permissionDenied => "permission denied"
  | interrupted => "operation interrupted"
  | timedOut => "timed out"
  | connectionReset => "connection reset"
  | connectionAborted => "connection aborted"
  | connectionRefused => "connection refused"
  | brokenPipe => "broken pipe"
  | notConnected => "not connected"
  | wouldBlock => "operation would block"
  | alreadyExists => "entity already exists"
  | invalidData => "invalid data"
  | unexpectedEnd => "unexpected end of file"
  | other => "other error"

/-- The kind of a failed request to a storage service. -/
inductive ServiceFault where
  | unexpected
  | unsupported
  | configInvalid
  | notFound
  | permissionDenied
  | isADirectory
  | notADirectory
  | alreadyExists
  | rateLimited
  | isSameFile
  | conditionNotMatch
  | rangeNotSatisfied
deriving DecidableEq, Repr

namespace ServiceFault

/-- The name of a kind in messages. -/
def label : ServiceFault → String
  | unexpected => "Unexpected"
  | unsupported => "Unsupported"
  | configInvalid => "ConfigInvalid"
  | notFound => "NotFound"
  | permissionDenied => "PermissionDenied"
  | isADirectory => "IsADirectory"
  | notADirectory => "NotADirectory"
  | alreadyExists => "AlreadyExists"
  | rateLimited => "RateLimited"
  | isSameFile => "IsSameFile"
  | conditionNotMatch => "ConditionNotMatch"
  | rangeNotSatisfied => "RangeNotSatisfied"

/-- Every kind. -/
def all : List ServiceFault :=
  [unexpected, unsupported, configInvalid, notFound, permissionDenied, isADirectory, notADirectory,
    alreadyExists, rateLimited, isSameFile, conditionNotMatch, rangeNotSatisfied]

end ServiceFault

namespace Errno

/-- No such file or directory. -/
def noEntry : Nat := 2

/-- A component of a path is not a directory. -/
def notDirectory : Nat := 20

/-- A directory where something else was expected. -/
def isDirectory : Nat := 21

/-- A path or a component of it is too long. -/
def nameTooLong : Nat := 36

/-- Too many links on the way. -/
def linkLoop : Nat := 40

/-- The texts of the numbered errors, from zero on. -/
def texts : List String := [
  "Success",
  "Operation not permitted",
  "No such file or directory",
  "No such process",
  "Interrupted system call",
  "Input/output error",
  "No such device or address",
  "Argument list too long",
  "Exec format error",
  "Bad file descriptor",
  "No child processes",
  "Resource temporarily unavailable",
  "Cannot allocate memory",
  "Permission denied",
  "Bad address",
  "Block device required",
  "Device or resource busy",
  "File exists",
  "Invalid cross-device link",
  "No such device",
  "Not a directory",
  "Is a directory",
  "Invalid argument",
  "Too many open files in system",
  "Too many open files",
  "Inappropriate ioctl for device",
  "Text file busy",
  "File too large",
  "No space left on device",
  "Illegal seek",
  "Read-only file system",
  "Too many links",
  "Broken pipe",
  "Numerical argument out of domain",
  "Numerical result out of range",
  "Resource deadlock avoided",
  "File name too long",
  "No locks available",
  "Function not implemented",
  "Directory not empty",
  "Too many levels of symbolic links",
  "",
  "No message of desired type",
  "Identifier removed",
  "Channel number out of range",
  "Level 2 not synchronized",
  "Level 3 halted",
  "Level 3 reset",
  "Link number out of range",
  "Protocol driver not attached",
  "No CSI structure available",
  "Level 2 halted",
  "Invalid exchange",
  "Invalid request descriptor",
  "Exchange full",
  "No anode",
  "Invalid request code",
  "Invalid slot",
  "",
  "Bad font file format",
  "Device not a stream",
  "No data available",
  "Timer expired",
  "Out of streams resources",
  "Machine is not on the network",
  "Package not installed",
  "Object is remote",
  "Link has been severed",
  "Advertise error",
  "Srmount error",
  "Communication error on send",
  "Protocol error",
  "Multihop attempted",
  "RFS specific error",
  "Bad message",
  "Value too large for defined data type",
  "Name not unique on network",
  "File descriptor in bad state",
  "Remote address changed",
  "Can not access a needed shared library",
  "Accessing a corrupted shared library",
  ".lib section in a.out corrupted",
  "Attempting to link in too many shared libraries",
  "Cannot exec a shared library directly",
  "Invalid or incomplete multibyte or wide character",
  "Interrupted system call should be restarted",
  "Streams pipe error",
  "Too many users",
  "Socket operation on non-socket",
  "Destination address required",
  "Message too long",
  "Protocol wrong type for socket",
  "Protocol not available",
  "Protocol not supported",
  "Socket type not supported",
  "Operation not supported",
  "Protocol family not supported",
  "Address family not supported by protocol",
  "Address already in use",
  "Cannot assign requested address",
  "Network is down",
  "Network is unreachable",
  "Network dropped connection on reset",
  "Software caused connection abort",
  "Connection reset by peer",
  "No buffer space available",
  "Transport endpoint is already connected",
  "Transport endpoint is not connected",
  "Cannot send after transport endpoint shutdown",
  "Too many references: cannot splice",
  "Connection timed out",
  "Connection refused",
  "Host is down",
  "No route to host",
  "Operation already in progress",
  "Operation now in progress",
  "Stale file handle",
  "Structure needs cleaning",
  "Not a XENIX named type file",
  "No XENIX semaphores available",
  "Is a named type file",
  "Remote I/O error",
  "Disk quota exceeded",
  "No medium found",
  "Wrong medium type",
  "Operation canceled",
  "Required key not available",
  "Key has expired",
  "Key has been revoked",
  "Key was rejected by service",
  "Owner died",
  "State not recoverable",
  "Operation not possible due to RF-kill",
  "Memory page has hardware error"]

/-- The text of a numbered error. -/
def text (n : Nat) : String :=
  match texts[n]? with
  | some s =>
    if s.isEmpty then "Unknown error " ++ String.ofList (Text.decimal n) else s
  | none => "Unknown error " ++ String.ofList (Text.decimal n)

/-- The kind of a numbered error. -/
def fault : Nat → SystemFault
  | 1 => .permissionDenied
  | 2 => .notFound
  | 4 => .interrupted
  | 11 => .wouldBlock
  | 13 => .permissionDenied
  | 17 => .alreadyExists
  | 32 => .brokenPipe
  | 103 => .connectionAborted
  | 104 => .connectionReset
  | 107 => .notConnected
  | 110 => .timedOut
  | 111 => .connectionRefused
  | _ => .other

/-- The text of a numbered error with its number. -/
def message (n : Nat) : String :=
  text n ++ " (os error " ++ String.ofList (Text.decimal n) ++ ")"

end Errno

end Harvest
