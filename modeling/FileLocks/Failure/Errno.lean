/-
  FileLocks/Failure/Errno.lean
  ============================
  **The error codes of POSIX systems.**

  `table` lists the codes that the system's C library has a text for, each with
  its symbol and with the general category of input and output failures that it is
  filed under.  `kinds` says what the few codes that record locks can end with mean
  here.  A code that is in neither table is still a failure, with a message and a
  category that say no more than that.
-/
import FileLocks.Failure.Kind
import FileLocks.Text.Decimal

namespace FileLocks.Errno

/-! ### The codes that record locks end with -/

def EPERM : Int32 := 1
def EINTR : Int32 := 4
def EBADF : Int32 := 9
def EAGAIN : Int32 := 11
def EACCES : Int32 := 13
def EINVAL : Int32 := 22
def EMFILE : Int32 := 24
def EDEADLK : Int32 := 35
def ENOLCK : Int32 := 37
def EOVERFLOW : Int32 := 75

/-- What these codes say about a lock.  Systems may report a conflicting lock with
    either of two codes, and a bad range as malformed or as too large. -/
def kinds : List (Int32 × FailureKind) :=
  [(EBADF, .invalidHandle), (EAGAIN, .wouldBlock), (EACCES, .wouldBlock),
    (EINTR, .interrupted), (EPERM, .permissionDenied), (EDEADLK, .deadlock),
    (ENOLCK, .unavailable), (EINVAL, .invalidRange), (EOVERFLOW, .invalidRange)]

/-! ### All known codes -/

/-- What is known of one error code. -/
structure Entry where
  code : Int32
  /-- The code's symbol in programs. -/
  symbol : String
  /-- The C library's text for it. -/
  text : String
  /-- The general category of input and output failures that it belongs to. -/
  category : String

/-- The codes that the C library knows, in ascending order. -/
def table : List Entry :=
  [⟨1, "EPERM", "Operation not permitted", "PermissionDenied"⟩,
    ⟨2, "ENOENT", "No such file or directory", "NotFound"⟩,
    ⟨3, "ESRCH", "No such process", "Uncategorized"⟩,
    ⟨4, "EINTR", "Interrupted system call", "Interrupted"⟩,
    ⟨5, "EIO", "Input/output error", "InputOutputError"⟩,
    ⟨6, "ENXIO", "No such device or address", "Uncategorized"⟩,
    ⟨7, "E2BIG", "Argument list too long", "ArgumentListTooLong"⟩,
    ⟨8, "ENOEXEC", "Exec format error", "Uncategorized"⟩,
    ⟨9, "EBADF", "Bad file descriptor", "Uncategorized"⟩,
    ⟨10, "ECHILD", "No child processes", "Uncategorized"⟩,
    ⟨11, "EAGAIN", "Resource temporarily unavailable", "WouldBlock"⟩,
    ⟨12, "ENOMEM", "Cannot allocate memory", "OutOfMemory"⟩,
    ⟨13, "EACCES", "Permission denied", "PermissionDenied"⟩,
    ⟨14, "EFAULT", "Bad address", "Uncategorized"⟩,
    ⟨15, "ENOTBLK", "Block device required", "Uncategorized"⟩,
    ⟨16, "EBUSY", "Device or resource busy", "ResourceBusy"⟩,
    ⟨17, "EEXIST", "File exists", "AlreadyExists"⟩,
    ⟨18, "EXDEV", "Invalid cross-device link", "CrossesDevices"⟩,
    ⟨19, "ENODEV", "No such device", "Uncategorized"⟩,
    ⟨20, "ENOTDIR", "Not a directory", "NotADirectory"⟩,
    ⟨21, "EISDIR", "Is a directory", "IsADirectory"⟩,
    ⟨22, "EINVAL", "Invalid argument", "InvalidInput"⟩,
    ⟨23, "ENFILE", "Too many open files in system", "TooManyOpenFiles"⟩,
    ⟨24, "EMFILE", "Too many open files", "TooManyOpenFiles"⟩,
    ⟨25, "ENOTTY", "Inappropriate ioctl for device", "Uncategorized"⟩,
    ⟨26, "ETXTBSY", "Text file busy", "ExecutableFileBusy"⟩,
    ⟨27, "EFBIG", "File too large", "FileTooLarge"⟩,
    ⟨28, "ENOSPC", "No space left on device", "StorageFull"⟩,
    ⟨29, "ESPIPE", "Illegal seek", "NotSeekable"⟩,
    ⟨30, "EROFS", "Read-only file system", "ReadOnlyFilesystem"⟩,
    ⟨31, "EMLINK", "Too many links", "TooManyLinks"⟩,
    ⟨32, "EPIPE", "Broken pipe", "BrokenPipe"⟩,
    ⟨33, "EDOM", "Numerical argument out of domain", "Uncategorized"⟩,
    ⟨34, "ERANGE", "Numerical result out of range", "Uncategorized"⟩,
    ⟨35, "EDEADLK", "Resource deadlock avoided", "Deadlock"⟩,
    ⟨36, "ENAMETOOLONG", "File name too long", "InvalidFilename"⟩,
    ⟨37, "ENOLCK", "No locks available", "Uncategorized"⟩,
    ⟨38, "ENOSYS", "Function not implemented", "Unsupported"⟩,
    ⟨39, "ENOTEMPTY", "Directory not empty", "DirectoryNotEmpty"⟩,
    ⟨40, "ELOOP", "Too many levels of symbolic links", "FilesystemLoop"⟩,
    ⟨42, "ENOMSG", "No message of desired type", "Uncategorized"⟩,
    ⟨43, "EIDRM", "Identifier removed", "Uncategorized"⟩,
    ⟨44, "ECHRNG", "Channel number out of range", "Uncategorized"⟩,
    ⟨45, "EL2NSYNC", "Level 2 not synchronized", "Uncategorized"⟩,
    ⟨46, "EL3HLT", "Level 3 halted", "Uncategorized"⟩,
    ⟨47, "EL3RST", "Level 3 reset", "Uncategorized"⟩,
    ⟨48, "ELNRNG", "Link number out of range", "Uncategorized"⟩,
    ⟨49, "EUNATCH", "Protocol driver not attached", "Uncategorized"⟩,
    ⟨50, "ENOCSI", "No CSI structure available", "Uncategorized"⟩,
    ⟨51, "EL2HLT", "Level 2 halted", "Uncategorized"⟩,
    ⟨52, "EBADE", "Invalid exchange", "Uncategorized"⟩,
    ⟨53, "EBADR", "Invalid request descriptor", "Uncategorized"⟩,
    ⟨54, "EXFULL", "Exchange full", "Uncategorized"⟩,
    ⟨55, "ENOANO", "No anode", "Uncategorized"⟩,
    ⟨56, "EBADRQC", "Invalid request code", "Uncategorized"⟩,
    ⟨57, "EBADSLT", "Invalid slot", "Uncategorized"⟩,
    ⟨59, "EBFONT", "Bad font file format", "Uncategorized"⟩,
    ⟨60, "ENOSTR", "Device not a stream", "Uncategorized"⟩,
    ⟨61, "ENODATA", "No data available", "Uncategorized"⟩,
    ⟨62, "ETIME", "Timer expired", "Uncategorized"⟩,
    ⟨63, "ENOSR", "Out of streams resources", "Uncategorized"⟩,
    ⟨64, "ENONET", "Machine is not on the network", "Uncategorized"⟩,
    ⟨65, "ENOPKG", "Package not installed", "Uncategorized"⟩,
    ⟨66, "EREMOTE", "Object is remote", "Uncategorized"⟩,
    ⟨67, "ENOLINK", "Link has been severed", "Uncategorized"⟩,
    ⟨68, "EADV", "Advertise error", "Uncategorized"⟩,
    ⟨69, "ESRMNT", "Srmount error", "Uncategorized"⟩,
    ⟨70, "ECOMM", "Communication error on send", "Uncategorized"⟩,
    ⟨71, "EPROTO", "Protocol error", "Uncategorized"⟩,
    ⟨72, "EMULTIHOP", "Multihop attempted", "Uncategorized"⟩,
    ⟨73, "EDOTDOT", "RFS specific error", "Uncategorized"⟩,
    ⟨74, "EBADMSG", "Bad message", "Uncategorized"⟩,
    ⟨75, "EOVERFLOW", "Value too large for defined data type", "Uncategorized"⟩,
    ⟨76, "ENOTUNIQ", "Name not unique on network", "Uncategorized"⟩,
    ⟨77, "EBADFD", "File descriptor in bad state", "Uncategorized"⟩,
    ⟨78, "EREMCHG", "Remote address changed", "Uncategorized"⟩,
    ⟨79, "ELIBACC", "Can not access a needed shared library", "Uncategorized"⟩,
    ⟨80, "ELIBBAD", "Accessing a corrupted shared library", "Uncategorized"⟩,
    ⟨81, "ELIBSCN", ".lib section in a.out corrupted", "Uncategorized"⟩,
    ⟨82, "ELIBMAX", "Attempting to link in too many shared libraries", "Uncategorized"⟩,
    ⟨83, "ELIBEXEC", "Cannot exec a shared library directly", "Uncategorized"⟩,
    ⟨84, "EILSEQ", "Invalid or incomplete multibyte or wide character", "Uncategorized"⟩,
    ⟨85, "ERESTART", "Interrupted system call should be restarted", "Uncategorized"⟩,
    ⟨86, "ESTRPIPE", "Streams pipe error", "Uncategorized"⟩,
    ⟨87, "EUSERS", "Too many users", "Uncategorized"⟩,
    ⟨88, "ENOTSOCK", "Socket operation on non-socket", "Uncategorized"⟩,
    ⟨89, "EDESTADDRREQ", "Destination address required", "Uncategorized"⟩,
    ⟨90, "EMSGSIZE", "Message too long", "Uncategorized"⟩,
    ⟨91, "EPROTOTYPE", "Protocol wrong type for socket", "Uncategorized"⟩,
    ⟨92, "ENOPROTOOPT", "Protocol not available", "Uncategorized"⟩,
    ⟨93, "EPROTONOSUPPORT", "Protocol not supported", "Uncategorized"⟩,
    ⟨94, "ESOCKTNOSUPPORT", "Socket type not supported", "Uncategorized"⟩,
    ⟨95, "EOPNOTSUPP", "Operation not supported", "Unsupported"⟩,
    ⟨96, "EPFNOSUPPORT", "Protocol family not supported", "Uncategorized"⟩,
    ⟨97, "EAFNOSUPPORT", "Address family not supported by protocol", "Uncategorized"⟩,
    ⟨98, "EADDRINUSE", "Address already in use", "AddrInUse"⟩,
    ⟨99, "EADDRNOTAVAIL", "Cannot assign requested address", "AddrNotAvailable"⟩,
    ⟨100, "ENETDOWN", "Network is down", "NetworkDown"⟩,
    ⟨101, "ENETUNREACH", "Network is unreachable", "NetworkUnreachable"⟩,
    ⟨102, "ENETRESET", "Network dropped connection on reset", "Uncategorized"⟩,
    ⟨103, "ECONNABORTED", "Software caused connection abort", "ConnectionAborted"⟩,
    ⟨104, "ECONNRESET", "Connection reset by peer", "ConnectionReset"⟩,
    ⟨105, "ENOBUFS", "No buffer space available", "Uncategorized"⟩,
    ⟨106, "EISCONN", "Transport endpoint is already connected", "Uncategorized"⟩,
    ⟨107, "ENOTCONN", "Transport endpoint is not connected", "NotConnected"⟩,
    ⟨108, "ESHUTDOWN", "Cannot send after transport endpoint shutdown", "Uncategorized"⟩,
    ⟨109, "ETOOMANYREFS", "Too many references: cannot splice", "Uncategorized"⟩,
    ⟨110, "ETIMEDOUT", "Connection timed out", "TimedOut"⟩,
    ⟨111, "ECONNREFUSED", "Connection refused", "ConnectionRefused"⟩,
    ⟨112, "EHOSTDOWN", "Host is down", "Uncategorized"⟩,
    ⟨113, "EHOSTUNREACH", "No route to host", "HostUnreachable"⟩,
    ⟨114, "EALREADY", "Operation already in progress", "Uncategorized"⟩,
    ⟨115, "EINPROGRESS", "Operation now in progress", "InProgress"⟩,
    ⟨116, "ESTALE", "Stale file handle", "StaleNetworkFileHandle"⟩,
    ⟨117, "EUCLEAN", "Structure needs cleaning", "Uncategorized"⟩,
    ⟨118, "ENOTNAM", "Not a XENIX named type file", "Uncategorized"⟩,
    ⟨119, "ENAVAIL", "No XENIX semaphores available", "Uncategorized"⟩,
    ⟨120, "EISNAM", "Is a named type file", "Uncategorized"⟩,
    ⟨121, "EREMOTEIO", "Remote I/O error", "Uncategorized"⟩,
    ⟨122, "EDQUOT", "Disk quota exceeded", "QuotaExceeded"⟩,
    ⟨123, "ENOMEDIUM", "No medium found", "Uncategorized"⟩,
    ⟨124, "EMEDIUMTYPE", "Wrong medium type", "Uncategorized"⟩,
    ⟨125, "ECANCELED", "Operation canceled", "Uncategorized"⟩,
    ⟨126, "ENOKEY", "Required key not available", "Uncategorized"⟩,
    ⟨127, "EKEYEXPIRED", "Key has expired", "Uncategorized"⟩,
    ⟨128, "EKEYREVOKED", "Key has been revoked", "Uncategorized"⟩,
    ⟨129, "EKEYREJECTED", "Key was rejected by service", "Uncategorized"⟩,
    ⟨130, "EOWNERDEAD", "Owner died", "Uncategorized"⟩,
    ⟨131, "ENOTRECOVERABLE", "State not recoverable", "Uncategorized"⟩,
    ⟨132, "ERFKILL", "Operation not possible due to RF-kill", "Uncategorized"⟩,
    ⟨133, "EHWPOISON", "Memory page has hardware error", "Uncategorized"⟩]

/-- What is known of `code`. -/
def find? (code : Int32) : Option Entry :=
  table.find? fun e => e.code == code

/-- The symbol of `code`. -/
def symbol (code : Int32) : String :=
  ((find? code).map Entry.symbol).getD "UnknownErrno"

/-- The general category of `code`. -/
def category (code : Int32) : String :=
  ((find? code).map Entry.category).getD "Uncategorized"

/-! ### Messages -/

/-- The message of a code that nothing is known about. -/
def unknownText : String := "Unknown error"

/-- The C library's text for a positive code.  It also words codes that it does
    not know, with the code's number. -/
def systemText (code : Int32) : String :=
  match find? code with
  | some e => e.text
  | none => unknownText ++ " " ++ Text.decimal code.toInt

/-- The message of a code.  Only positive codes are looked up in the C library;
    whatever it writes about a code that it does not know becomes one fixed text,
    without the number. -/
def message (code : Int32) : String :=
  if code < 0 then unknownText
  else if code = 0 then "Success"
  else
    let text := systemText code
    if unknownText.toList.isPrefixOf text.toList then unknownText else text

end FileLocks.Errno
