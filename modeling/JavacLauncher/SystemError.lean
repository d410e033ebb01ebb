import JavacLauncher.Path

/-!
# Refusals of the operating system

A request to the system fails with a number, or is not made at all because the bytes it would take are
not fit for it: the system's strings end at the first NUL.
-/

namespace JavacLauncher

/-- Why a request to the system was not granted. -/
inductive SystemError where
  /-- The system answered with an error number. -/
  | code (number : Int)
  /-- A path to open holds a NUL. -/
  | nulInPath
  /-- A program's name or one of its arguments holds a NUL. -/
  | nulInArgument
  /-- A file that should hold text does not. -/
  | notText
  deriving DecidableEq, Repr, Inhabited

namespace SystemError

/-- No such file or directory. -/
def noEntry : SystemError := .code 2

/-- The arguments and the environment together are too long. -/
def argumentsTooLong : SystemError := .code 7

/-- The file is no program of a known format. -/
def execFormat : SystemError := .code 8

/-- The descriptor does not stand for anything that can be used in this way. -/
def badDescriptor : SystemError := .code 9

/-- The file may not be used in this way. -/
def permissionDenied : SystemError := .code 13

/-- Something of that name is there already. -/
def fileExists : SystemError := .code 17

/-- There is no room for more. -/
def noSpace : SystemError := .code 28

/-- The directory holds something. -/
def notEmpty : SystemError := .code 39

/-- A name on the way is not a directory. -/
def notDirectory : SystemError := .code 20

/-- The file is a directory. -/
def isDirectory : SystemError := .code 21

/-- A name or a path is too long. -/
def nameTooLong : SystemError := .code 36

/-- Interpreters call one another without end. -/
def tooManyLinks : SystemError := .code 40

/-- The system's descriptions of its error numbers, from 0 on; numbers without a meaning have none. -/
def descriptions : List String :=
 [ "Success",
   "Operation not permitted",
   "No such file or directory",
   "No such process",
   "Interrupted system call",
   "Input/output error",
   "No such device or address",
   "Argument list too long",
   "Exec format error",
   "Bad file descriptor",
   "No child processes",
   "Resource temporarily unavailable",
   "Cannot allocate memory",
   "Permission denied",
   "Bad address",
   "Block device required",
   "Device or resource busy",
   "File exists",
   "Invalid cross-device link",
   "No such device",
   "Not a directory",
   "Is a directory",
   "Invalid argument",
   "Too many open files in system",
   "Too many open files",
   "Inappropriate ioctl for device",
   "Text file busy",
   "File too large",
   "No space left on device",
   "Illegal seek",
   "Read-only file system",
   "Too many links",
   "Broken pipe",
   "Numerical argument out of domain",
   "Numerical result out of range",
   "Resource deadlock avoided",
   "File name too long",
   "No locks available",
   "Function not implemented",
   "Directory not empty",
   "Too many levels of symbolic links",
   "Unknown error 41",
   "No message of desired type",
   "Identifier removed",
   "Channel number out of range",
   "Level 2 not synchronized",
   "Level 3 halted",
   "Level 3 reset",
   "Link number out of range",
   "Protocol driver not attached",
   "No CSI structure available",
   "Level 2 halted",
   "Invalid exchange",
   "Invalid request descriptor",
   "Exchange full",
   "No anode",
   "Invalid request code",
   "Invalid slot",
   "Unknown error 58",
   "Bad font file format",
   "Device not a stream",
   "No data available",
   "Timer expired",
   "Out of streams resources",
   "Machine is not on the network",
   "Package not installed",
   "Object is remote",
   "Link has been severed",
   "Advertise error",
   "Srmount error",
   "Communication error on send",
   "Protocol error",
   "Multihop attempted",
   "RFS specific error",
   "Bad message",
   "Value too large for defined data type",
   "Name not unique on network",
   "File descriptor in bad state",
   "Remote address changed",
   "Can not access a needed shared library",
   "Accessing a corrupted shared library",
   ".lib section in a.out corrupted",
   "Attempting to link in too many shared libraries",
   "Cannot exec a shared library directly",
   "Invalid or incomplete multibyte or wide character",
   "Interrupted system call should be restarted",
   "Streams pipe error",
   "Too many users",
   "Socket operation on non-socket",
   "Destination address required",
   "Message too long",
   "Protocol wrong type for socket",
   "Protocol not available",
   "Protocol not supported",
   "Socket type not supported",
   "Operation not supported",
   "Protocol family not supported",
   "Address family not supported by protocol",
   "Address already in use",
   "Cannot assign requested address",
   "Network is down",
   "Network is unreachable",
   "Network dropped connection on reset",
   "Software caused connection abort",
   "Connection reset by peer",
   "No buffer space available",
   "Transport endpoint is already connected",
   "Transport endpoint is not connected",
   "Cannot send after transport endpoint shutdown",
   "Too many references: cannot splice",
   "Connection timed out",
   "Connection refused",
   "Host is down",
   "No route to host",
   "Operation already in progress",
   "Operation now in progress",
   "Stale file handle",
   "Structure needs cleaning",
   "Not a XENIX named type file",
   "No XENIX semaphores available",
   "Is a named type file",
   "Remote I/O error",
   "Disk quota exceeded",
   "No medium found",
   "Wrong medium type",
   "Operation canceled",
   "Required key not available",
   "Key has expired",
   "Key has been revoked",
   "Key was rejected by service",
   "Owner died",
   "State not recoverable",
   "Operation not possible due to RF-kill",
   "Memory page has hardware error"]

/-- The system's description of an error number. -/
def describe (number : Int) : Text :=
  match number with
  | .ofNat n => ((descriptions[n]?).getD ("Unknown error ".append (Nat.repr n))).toList
  | .negSucc n => ("Unknown error -".append (Nat.repr (n + 1))).toList

/-- The number of an error in decimal digits. -/
def numeral (number : Int) : Text :=
  match number with
  | .ofNat n => Text.ofNat n
  | .negSucc n => '-' :: Text.ofNat (n + 1)

/-- The text that a message about the error ends in. -/
def message : SystemError → Text
  | .code n => describe n ++ " (os error ".toList ++ numeral n ++ [')']
  | .nulInPath => "file name contained an unexpected NUL byte".toList
  | .nulInArgument => "nul byte found in provided data".toList
  | .notText => "stream did not contain valid UTF-8".toList

end SystemError

end JavacLauncher
