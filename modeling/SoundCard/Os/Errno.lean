/-! Operating-system errors as a device reports them: an error number with its C-library
text, or a feature the device does not offer. An error reads `"<text> (os error <n>)"`. -/
namespace SoundCard.Os

/-- The C-library description of an error number, `"Unknown error n"` for the rest. -/
def errnoText (n : Int) : String :=
  match n with
  | 0 => "Success" | 1 => "Operation not permitted" | 2 => "No such file or directory"
  | 3 => "No such process" | 4 => "Interrupted system call" | 5 => "Input/output error"
  | 6 => "No such device or address" | 7 => "Argument list too long"
  | 8 => "Exec format error" | 9 => "Bad file descriptor" | 10 => "No child processes"
  | 11 => "Resource temporarily unavailable" | 12 => "Cannot allocate memory"
  | 13 => "Permission denied" | 14 => "Bad address" | 15 => "Block device required"
  | 16 => "Device or resource busy" | 17 => "File exists"
  | 18 => "Invalid cross-device link" | 19 => "No such device" | 20 => "Not a directory"
  | 21 => "Is a directory" | 22 => "Invalid argument"
  | 23 => "Too many open files in system" | 24 => "Too many open files"
  | 25 => "Inappropriate ioctl for device" | 26 => "Text file busy"
  | 27 => "File too large" | 28 => "No space left on device" | 29 => "Illegal seek"
  | 30 => "Read-only file system" | 31 => "Too many links" | 32 => "Broken pipe"
  | 33 => "Numerical argument out of domain" | 34 => "Numerical result out of range"
  | 35 => "Resource deadlock avoided" | 36 => "File name too long"
  | 37 => "No locks available" | 38 => "Function not implemented"
  | 39 => "Directory not empty" | 40 => "Too many levels of symbolic links"
  | 42 => "No message of desired type" | 43 => "Identifier removed"
  | 44 => "Channel number out of range" | 45 => "Level 2 not synchronized"
  | 46 => "Level 3 halted" | 47 => "Level 3 reset" | 48 => "Link number out of range"
  | 49 => "Protocol driver not attached" | 50 => "No CSI structure available"
  | 51 => "Level 2 halted" | 52 => "Invalid exchange" | 53 => "Invalid request descriptor"
  | 54 => "Exchange full" | 55 => "No anode" | 56 => "Invalid request code"
  | 57 => "Invalid slot" | 59 => "Bad font file format" | 60 => "Device not a stream"
  | 61 => "No data available" | 62 => "Timer expired" | 63 => "Out of streams resources"
  | 64 => "Machine is not on the network" | 65 => "Package not installed"
  | 66 => "Object is remote" | 67 => "Link has been severed" | 68 => "Advertise error"
  | 69 => "Srmount error" | 70 => "Communication error on send" | 71 => "Protocol error"
  | 72 => "Multihop attempted" | 73 => "RFS specific error" | 74 => "Bad message"
  | 75 => "Value too large for defined data type" | 76 => "Name not unique on network"
  | 77 => "File descriptor in bad state" | 78 => "Remote address changed"
  | 79 => "Can not access a needed shared library"
  | 80 => "Accessing a corrupted shared library"
  | 81 => ".lib section in a.out corrupted"
  | 82 => "Attempting to link in too many shared libraries"
  | 83 => "Cannot exec a shared library directly"
  | 84 => "Invalid or incomplete multibyte or wide character"
  | 85 => "Interrupted system call should be restarted" | 86 => "Streams pipe error"
  | 87 => "Too many users" | 88 => "Socket operation on non-socket"
  | 89 => "Destination address required" | 90 => "Message too long"
  | 91 => "Protocol wrong type for socket" | 92 => "Protocol not available"
  | 93 => "Protocol not supported" | 94 => "Socket type not supported"
  | 95 => "Operation not supported" | 96 => "Protocol family not supported"
  | 97 => "Address family not supported by protocol" | 98 => "Address already in use"
  | 99 => "Cannot assign requested address" | 100 => "Network is down"
  | 101 => "Network is unreachable" | 102 => "Network dropped connection on reset"
  | 103 => "Software caused connection abort" | 104 => "Connection reset by peer"
  | 105 => "No buffer space available"
  | 106 => "Transport endpoint is already connected"
  | 107 => "Transport endpoint is not connected"
  | 108 => "Cannot send after transport endpoint shutdown"
  | 109 => "Too many references: cannot splice" | 110 => "Connection timed out"
  | 111 => "Connection refused" | 112 => "Host is down" | 113 => "No route to host"
  | 114 => "Operation already in progress" | 115 => "Operation now in progress"
  | 116 => "Stale file handle" | 117 => "Structure needs cleaning"
  | 118 => "Not a XENIX named type file" | 119 => "No XENIX semaphores available"
  | 120 => "Is a named type file" | 121 => "Remote I/O error" | 122 => "Disk quota exceeded"
  | 123 => "No medium found" | 124 => "Wrong medium type" | 125 => "Operation canceled"
  | 126 => "Required key not available" | 127 => "Key has expired"
  | 128 => "Key has been revoked" | 129 => "Key was rejected by service"
  | 130 => "Owner died" | 131 => "State not recoverable"
  | 132 => "Operation not possible due to RF-kill"
  | 133 => "Memory page has hardware error"
  | n => s!"Unknown error {n}"

-- The error numbers this library names.
namespace Errno
def notPermitted : Int := 1
def noEntry : Int := 2
def interrupted : Int := 4
def inputOutput : Int := 5
def noDeviceOrAddress : Int := 6
def again : Int := 11
def noMemory : Int := 12
def fault : Int := 14
def busy : Int := 16
def fileExists : Int := 17
def noDevice : Int := 19
def notDirectory : Int := 20
def isDirectory : Int := 21
def invalid : Int := 22
def notTty : Int := 25
def noSpace : Int := 28
def brokenPipe : Int := 32
def nameTooLong : Int := 36
def noData : Int := 61
def overflow : Int := 75
def badState : Int := 77
def streamsPipe : Int := 86
def timedOut : Int := 110
end Errno

/-- A facility a device may lack. -/
inductive Facility where
  | linking
  | mapping
  deriving DecidableEq, Repr

def Facility.text : Facility → String
  | .linking => "stream linking"
  | .mapping => "memory mapping"

/-- An error a device call returns: a numbered system error, an unsupported facility, or a
path holding a NUL byte. -/
inductive IoError where
  | os (code : Int)
  | unsupported (what : Facility)
  | nulInPath
  deriving DecidableEq, Repr

namespace IoError

/-- The error number, if the error has one. -/
def code? : IoError → Option Int
  | .os n => some n
  | .unsupported _ => none
  | .nulInPath => none

/-- The text of the error. -/
def message : IoError → String
  | .os n => s!"{errnoText n} (os error {n})"
  | .unsupported w => s!"{w.text} is not supported by this device"
  | .nulInPath => "file name contained an unexpected NUL byte"

def isWouldBlock (e : IoError) : Bool := e.code? == some Errno.again

def is (e : IoError) (n : Int) : Bool := e.code? == some n

end IoError

end SoundCard.Os
