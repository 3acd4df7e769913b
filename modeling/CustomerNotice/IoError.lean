import CustomerNotice.Text.Quoted

/-!
Failures of an output: those of the operating system, those that carry only a kind, those that
carry a message with its causes, and the failure to make any progress.
-/

namespace CustomerNotice

/-- The kinds of failure that an output reports. A write that is interrupted is tried again and is
no failure. -/
inductive IoKind
  | addressInUse
  | addressNotAvailable
  | alreadyExists
  | argumentListTooLong
  | brokenPipe
  | connectionAborted
  | connectionRefused
  | connectionReset
  | crossesDevices
  | deadlock
  | directoryNotEmpty
  | executableFileBusy
  | fileTooLarge
  | filesystemLoop
  | hostUnreachable
  | inProgress
  | invalidData
  | invalidFilename
  | invalidInput
  | isADirectory
  | networkDown
  | networkUnreachable
  | notADirectory
  | notConnected
  | notFound
  | notSeekable
  | other
  | outOfMemory
  | permissionDenied
  | quotaExceeded
  | readOnlyFilesystem
  | resourceBusy
  | staleNetworkFileHandle
  | storageFull
  | timedOut
  | tooManyLinks
  | uncategorized
  | unexpectedEnd
  | unsupported
  | wouldBlock
  | writeZero
  deriving DecidableEq, Repr

namespace IoKind

def all : List IoKind :=
  [addressInUse, addressNotAvailable, alreadyExists, argumentListTooLong, brokenPipe,
    connectionAborted, connectionRefused, connectionReset, crossesDevices, deadlock,
    directoryNotEmpty, executableFileBusy, fileTooLarge, filesystemLoop, hostUnreachable,
    inProgress, invalidData, invalidFilename, invalidInput, isADirectory, networkDown,
    networkUnreachable, notADirectory, notConnected, notFound, notSeekable, other, outOfMemory,
    permissionDenied, quotaExceeded, readOnlyFilesystem, resourceBusy, staleNetworkFileHandle,
    storageFull, timedOut, tooManyLinks, uncategorized, unexpectedEnd, unsupported, wouldBlock,
    writeZero]

def label : IoKind → String
  | addressInUse => "AddrInUse"
  | addressNotAvailable => "AddrNotAvailable"
  | alreadyExists => "AlreadyExists"
  | argumentListTooLong => "ArgumentListTooLong"
  | brokenPipe => "BrokenPipe"
  | connectionAborted => "ConnectionAborted"
  | connectionRefused => "ConnectionRefused"
  | connectionReset => "ConnectionReset"
  | crossesDevices => "CrossesDevices"
  | deadlock => "Deadlock"
  | directoryNotEmpty => "DirectoryNotEmpty"
  | executableFileBusy => "ExecutableFileBusy"
  | fileTooLarge => "FileTooLarge"
  | filesystemLoop => "FilesystemLoop"
  | hostUnreachable => "HostUnreachable"
  | inProgress => "InProgress"
  | invalidData => "InvalidData"
  | invalidFilename => "InvalidFilename"
  | invalidInput => "InvalidInput"
  | isADirectory => "IsADirectory"
  | networkDown => "NetworkDown"
  | networkUnreachable => "NetworkUnreachable"
  | notADirectory => "NotADirectory"
  | notConnected => "NotConnected"
  | notFound => "NotFound"
  | notSeekable => "NotSeekable"
  | other => "Other"
  | outOfMemory => "OutOfMemory"
  | permissionDenied => "PermissionDenied"
  | quotaExceeded => "QuotaExceeded"
  | readOnlyFilesystem => "ReadOnlyFilesystem"
  | resourceBusy => "ResourceBusy"
  | staleNetworkFileHandle => "StaleNetworkFileHandle"
  | storageFull => "StorageFull"
  | timedOut => "TimedOut"
  | tooManyLinks => "TooManyLinks"
  | uncategorized => "Uncategorized"
  | unexpectedEnd => "UnexpectedEof"
  | unsupported => "Unsupported"
  | wouldBlock => "WouldBlock"
  | writeZero => "WriteZero"

def description : IoKind → String
  | addressInUse => "address in use"
  | addressNotAvailable => "address not available"
  | alreadyExists => "entity already exists"
  | argumentListTooLong => "argument list too long"
  | brokenPipe => "broken pipe"
  | connectionAborted => "connection aborted"
  | connectionRefused => "connection refused"
  | connectionReset => "connection reset"
  | crossesDevices => "cross-device link or rename"
  | deadlock => "deadlock"
  | directoryNotEmpty => "directory not empty"
  | executableFileBusy => "executable file busy"
  | fileTooLarge => "file too large"
  | filesystemLoop => "filesystem loop or indirection limit (e.g. symlink loop)"
  | hostUnreachable => "host unreachable"
  | inProgress => "in progress"
  | invalidData => "invalid data"
  | invalidFilename => "invalid filename"
  | invalidInput => "invalid input parameter"
  | isADirectory => "is a directory"
  | networkDown => "network down"
  | networkUnreachable => "network unreachable"
  | notADirectory => "not a directory"
  | notConnected => "not connected"
  | notFound => "entity not found"
  | notSeekable => "seek on unseekable file"
  | other => "other error"
  | outOfMemory => "out of memory"
  | permissionDenied => "permission denied"
  | quotaExceeded => "quota exceeded"
  | readOnlyFilesystem => "read-only filesystem or storage medium"
  | resourceBusy => "resource busy"
  | staleNetworkFileHandle => "stale network file handle"
  | storageFull => "no storage space"
  | timedOut => "timed out"
  | tooManyLinks => "too many links"
  | uncategorized => "uncategorized error"
  | unexpectedEnd => "unexpected end of file"
  | unsupported => "unsupported"
  | wouldBlock => "operation would block"
  | writeZero => "write zero"

def ofLabel? (label : String) : Option IoKind := all.find? fun kind => kind.label = label

end IoKind

structure OsError where
  code : Nat
  kind : IoKind
  message : String
  deriving DecidableEq, Repr

namespace OsError

def noSuchFile : OsError := ⟨2, .notFound, "No such file or directory"⟩

def permissionDenied : OsError := ⟨13, .permissionDenied, "Permission denied"⟩

def noSpaceLeft : OsError := ⟨28, .storageFull, "No space left on device"⟩

def brokenPipe : OsError := ⟨32, .brokenPipe, "Broken pipe"⟩

def all : List OsError := [noSuchFile, permissionDenied, noSpaceLeft, brokenPipe]

def ofCode? (code : Nat) : Option OsError := all.find? fun error => error.code = code

def text (error : OsError) : String :=
  error.message ++ " (os error " ++ error.code.repr ++ ")"

end OsError

inductive IoError
  | os (error : OsError)
  | plain (kind : IoKind)
  | detailed (kind : IoKind) (message : String) (causes : List String)
  | noProgress
  deriving DecidableEq, Repr

namespace IoError

def noProgressMessage : String := "failed to write whole buffer"

def text : IoError → String
  | os error => error.text
  | plain kind => kind.description
  | detailed _ message _ => message
  | noProgress => noProgressMessage

/-- What lies behind the failure, outermost first. -/
def causes : IoError → List String
  | detailed _ _ causes => causes
  | _ => []

def debug : IoError → String
  | os error =>
      "Os \x7b code: " ++ error.code.repr ++ ", kind: " ++ error.kind.label ++ ", message: "
        ++ Text.quoted error.message ++ " \x7d"
  | plain kind => "Kind(" ++ kind.label ++ ")"
  | detailed kind message _ =>
      "Custom \x7b kind: " ++ kind.label ++ ", error: " ++ Text.quoted message ++ " \x7d"
  | noProgress =>
      "Error \x7b kind: " ++ IoKind.writeZero.label ++ ", message: "
        ++ Text.quoted noProgressMessage ++ " \x7d"

end IoError
end CustomerNotice
