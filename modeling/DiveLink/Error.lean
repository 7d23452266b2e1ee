import DiveLink.Family

/-!
# Errors

Every way in which an operation on a dive computer can fail, kept as a cause; the wording of all
of them is in this module.

## Main definitions

* `IoError` — a failure of the link itself.
* `ProtocolError` — bytes that arrived and are not what the device should have sent.
* `InvalidArgument`, `DataFault` — what is wrong with a request, and with a device's memory.
* `DeviceError` — the failure of an operation.
* `DeviceError.message`, `DeviceError.isRetryable`, `DeviceError.chain` — its text, whether a
  second attempt may succeed, and its text followed by those of the causes behind it.
-/

namespace DiveLink

/-! ### Failures of the link -/

/-- The kind of a failed input or output operation. -/
inductive IoErrorKind
  | notFound | permissionDenied | brokenPipe | timedOut | interrupted | wouldBlock | invalidInput
  | unexpectedEof | addrInUse | other
  deriving DecidableEq, Repr, Inhabited

namespace IoErrorKind

/-- Every kind. -/
def all : List IoErrorKind :=
  [notFound, permissionDenied, brokenPipe, timedOut, interrupted, wouldBlock, invalidInput,
    unexpectedEof, addrInUse, other]

/-- The name of a kind. -/
def name : IoErrorKind → String
  | notFound => "NotFound"
  | permissionDenied => "PermissionDenied"
  | brokenPipe => "BrokenPipe"
  | timedOut => "TimedOut"
  | interrupted => "Interrupted"
  | wouldBlock => "WouldBlock"
  | invalidInput => "InvalidInput"
  | unexpectedEof => "UnexpectedEof"
  | addrInUse => "AddrInUse"
  | other => "Other"

/-- The kind with a name. -/
def ofName? (s : String) : Option IoErrorKind := all.find? (·.name == s)

end IoErrorKind

/-- A failed input or output operation. -/
structure IoError where
  kind : IoErrorKind
  message : String
  deriving DecidableEq, Repr, Inhabited

/-! ### Answers that do not fit -/

/-- What is wrong with bytes that have arrived. -/
inductive ProtocolError
  | badHeader | badLength | badParameters | badChecksum
  deriving DecidableEq, Repr, Inhabited

/-- The text of a protocol error. -/
def ProtocolError.message : ProtocolError → String
  | badHeader => "unexpected answer header"
  | badLength => "unexpected answer size"
  | badParameters => "unexpected answer parameters"
  | badChecksum => "unexpected answer checksum"

/-! ### Requests that cannot be carried out -/

/-- What is wrong with a request. -/
inductive InvalidArgument
  /-- The buffer for the version block is too short. -/
  | versionBuffer
  /-- The buffer for the handshake frame is too short. -/
  | handshakeBuffer
  /-- A fingerprint has a length other than zero and that of the family. -/
  | fingerprintSize (expected got : Nat)
  /-- A range reaches beyond the device's memory. -/
  | memoryRange (address length : Nat)
  /-- A sample interval is not between 1 and 127 seconds. -/
  | sampleInterval (seconds : Nat)
  /-- The operation belongs to another family than the handle. -/
  | wrongFamily (family : Family)
  /-- An event flag word has bits that mean nothing. -/
  | flagBits (unknown : Nat)
  /-- The severity in an event flag word is none. -/
  | severity (code : Nat)
  /-- The remark in an event flag word is none. -/
  | remark (code : Nat)
  /-- A number is no kind of event. -/
  | eventKind (code : Nat)
  /-- Anything else, in words. -/
  | other (reason : String)
  deriving DecidableEq, Repr, Inhabited

/-- What is wrong with a request, in words. -/
def InvalidArgument.message : InvalidArgument → String
  | versionBuffer => "version buffer too small"
  | handshakeBuffer => "handshake buffer too small"
  | fingerprintSize expected got =>
    "fingerprint must be " ++ Digits.decimal expected ++ " bytes, got " ++ Digits.decimal got
  | memoryRange address length =>
    "range " ++ Digits.hexadecimal 4 address ++ "+" ++ Digits.decimal length ++
      " outside device memory"
  | sampleInterval seconds =>
    "sample interval " ++ Digits.decimal seconds ++ " out of range 1..=127"
  | wrongFamily family => "operation not available for " ++ family.name ++ " devices"
  | flagBits unknown => "unknown event flag bits " ++ Digits.hexadecimal 1 unknown
  | severity code => "bad event severity " ++ Digits.decimal code
  | remark code => "bad event type " ++ Digits.decimal code
  | eventKind code => "unknown event type " ++ Digits.decimal code
  | other reason => reason

/-! ### Memory that makes no sense -/

/-- What is wrong with the dives in a device's memory. -/
inductive DataFault
  /-- A pointer of the ring header lies outside the ring. -/
  | ringPointers (last count stop start : Nat)
  /-- A dive would be shorter than its links, or longer than what is left of the ring. -/
  | diveSize (address size : Nat)
  /-- A dive names another successor than the dive that follows it. -/
  | brokenChain (address next expected : Nat)
  /-- A dive ends before its fingerprint does. -/
  | noFingerprint (address : Nat)
  /-- A dive names a predecessor outside the ring. -/
  | linkOutside (address predecessor : Nat)
  /-- A dive has a start marker and no end marker. -/
  | noEndMarker (offset : Nat)
  /-- The data end before the timestamp of a dive does. -/
  | noTimestamp (offset : Nat)
  /-- Anything else, in words. -/
  | other (reason : String)
  deriving DecidableEq, Repr, Inhabited

/-- What is wrong with the memory, in words. -/
def DataFault.message : DataFault → String
  | ringPointers last count stop start =>
    "ring pointers out of range: RingHeader \x7b last: " ++ Digits.decimal last ++
      ", count: " ++ Digits.decimal count ++ ", end: " ++ Digits.decimal stop ++
      ", begin: " ++ Digits.decimal start ++ " \x7d"
  | diveSize address size =>
    "dive at " ++ Digits.hexadecimal 4 address ++ " has invalid size " ++ Digits.decimal size
  | brokenChain address next expected =>
    "dive at " ++ Digits.hexadecimal 4 address ++ " points to " ++ Digits.hexadecimal 4 next ++
      ", expected " ++ Digits.hexadecimal 4 expected
  | noFingerprint address =>
    "dive at " ++ Digits.hexadecimal 4 address ++ " too short for a fingerprint"
  | linkOutside address predecessor =>
    "dive at " ++ Digits.hexadecimal 4 address ++ " links to " ++
      Digits.hexadecimal 4 predecessor ++ " outside the ring"
  | noEndMarker offset => "dive at offset " ++ Digits.decimal offset ++ " has no end marker"
  | noTimestamp offset => "dive at offset " ++ Digits.decimal offset ++ " has no timestamp"
  | other reason => reason

/-! ### Failed operations -/

/-- Why an operation on a device failed. -/
inductive DeviceError
  /-- The request cannot be carried out; nothing was done. -/
  | invalidArgument (cause : InvalidArgument)
  | outOfMemory
  /-- The link failed. -/
  | io (cause : IoError)
  /-- The device stopped talking or listening. -/
  | timeout
  /-- An answer arrived and does not fit its request. -/
  | protocol (cause : ProtocolError)
  /-- The dives in memory make no sense. -/
  | dataFormat (cause : DataFault)
  /-- The caller's token was cancelled. -/
  | cancelled
  /-- The family has no such operation. -/
  | unsupported
  deriving DecidableEq, Repr, Inhabited

namespace DeviceError

/-- The text of an error. -/
def message : DeviceError → String
  | invalidArgument cause => "invalid argument: " ++ cause.message
  | outOfMemory => "out of memory"
  | io cause => "i/o error: " ++ cause.message
  | timeout => "timed out"
  | protocol cause => "protocol error: " ++ cause.message
  | dataFormat cause => "data format error: " ++ cause.message
  | cancelled => "operation cancelled"
  | unsupported => "operation not supported by this device"

/-- A second attempt may succeed after a silence or a failure of the link, and after nothing
else. -/
def isRetryable : DeviceError → Bool
  | timeout | io _ => true
  | _ => false

/-- The text of an error, and behind it that of the failure that it wraps. -/
def chain : DeviceError → List String
  | e@(io cause) => [e.message, cause.message]
  | e@(protocol cause) => [e.message, cause.message]
  | e => [e.message]

end DeviceError

end DiveLink
