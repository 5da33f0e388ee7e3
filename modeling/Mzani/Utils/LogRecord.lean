import Mzani.Core.Pool
import Mzani.Core.Request

/-!
# Log records

Structured log records and the texts that go into them.
-/

namespace Mzani

open Support

inductive LogLevel where
  | debug
  | info
  | warn
  | error
  deriving DecidableEq

inductive LogRole where
  | accept
  | worker
  | metrics
  | log
  | health
  deriving DecidableEq

structure LogRecord where
  level : LogLevel
  event : String
  role : LogRole
  reqId : Option U64
  workerId : Option Nat
  fields : List (Text × Text)
  deriving DecidableEq

namespace LogRecord

def new (level : LogLevel) (event : String) (role : LogRole) : LogRecord where
  level := level
  event := event
  role := role
  reqId := none
  workerId := none
  fields := []

def withRequest (record : LogRecord) (req : RequestContext) : LogRecord :=
  { record with reqId := some req.reqId, workerId := some req.workerId }

/-- `value` is the text that its `Display` gives. -/
def field (record : LogRecord) (key : String) (value : Text) : LogRecord :=
  { record with fields := record.fields ++ [(key.toList, value)] }

/-- Value of the first field with this key. -/
def value (record : LogRecord) (key : String) : Option Text :=
  (record.fields.find? fun field => field.1 = key.toList).map (·.2)

section

variable {record : LogRecord} {key : String}

theorem value_field_of_ne {other : String} (different : other.toList ≠ key.toList)
    (text : Text) : (record.field other text).value key = record.value key := by
  unfold value field
  rw [List.find?_append, List.find?_singleton, if_neg (by simpa using different),
    Option.or_none]

/-- A field is read where no field before it has its key. -/
theorem value_field_self (absent : record.value key = none) (text : Text) :
    (record.field key text).value key = some text := by
  unfold value at absent
  unfold value field
  rw [List.find?_append, Option.map_eq_none_iff.mp absent, Option.none_or,
    List.find?_singleton, if_pos (decide_eq_true rfl), Option.map_some]

end

end LogRecord

/-! ## Texts -/

/-- `Display` of an unsigned number. -/
def decimal (number : Nat) : Text :=
  Nat.toDigits 10 number

/-- `as_millis` of a duration, in decimal. -/
def millis (duration : Duration) : Text :=
  decimal (duration / 1000000)

/-- `Display for MzaniError` -/
def MzaniError.display : MzaniError → Text
  | .io message => "IO error: ".toList ++ message.toList
  | .parseError message => "Parse error: ".toList ++ message.toList
  | .timeout => "Timeout".toList
  | .emptyRequest => "Empty request".toList
  | .emptyServerList => "Target server list cannot be empty".toList
  | .loggerInit message => "Logger init error: ".toList ++ message.toList
  | .invalidTimestamp => "System time is before Unix epoch".toList
  | .poolFull => "Worker pool queue is full".toList
  | .shutdownInProgress => "Load balancer is shutting down".toList
  | .bodyTooLarge => "HTTP message exceeds size limit".toList
  | .noHealthyBackend => "No healthy backends available".toList
  | .shutdownTimeout => "Shutdown deadline exceeded".toList
  | .invalidConfig message => "Invalid configuration: ".toList ++ message.toList

/-- `Display for Ipv4Addr` -/
def formatIpv4 (ip : BitVec 32) : Text :=
  [24, 16, 8, 0].map (fun shift => decimal (ip.toNat >>> shift % 256))
    |>.intersperse ['.'] |>.flatten

/-- The groups of an IPv6 address, in order. -/
def ipv6Segments (ip : BitVec 128) : List Nat :=
  [112, 96, 80, 64, 48, 32, 16, 0].map fun shift => ip.toNat >>> shift % 65536

def formatSegments (segments : List Nat) : Text :=
  segments.map (Nat.toDigits 16) |>.intersperse [':'] |>.flatten

/-- The first of the longest runs of zero groups: where it starts and how long
it is. -/
def longestZeroes : (segments : List Nat) → (index : Nat) →
    (longest current : Nat × Nat) → Nat × Nat
  | [], _, longest, _ => longest
  | segment :: segments, index, longest, current =>
      if segment = 0 then
        let current := (if current.2 = 0 then index else current.1, current.2 + 1)
        longestZeroes segments (index + 1)
          (if longest.2 < current.2 then current else longest) current
      else longestZeroes segments (index + 1) longest (0, 0)

/-- `Display for Ipv6Addr` -/
def formatIpv6 (ip : BitVec 128) : Text :=
  -- an IPv4-mapped address
  if ip.toNat >>> 32 = 0xffff then
    "::ffff:".toList ++ formatIpv4 (ip.setWidth 32)
  else
    let segments := ipv6Segments ip
    let (start, length) := longestZeroes segments 0 (0, 0) (0, 0)
    if 1 < length then
      formatSegments (segments.take start) ++ "::".toList ++
        formatSegments (segments.drop (start + length))
    else formatSegments segments

/-- `format_addr`; the flow information does not show. -/
def formatAddr : SocketAddr → Text
  | .v4 ip port => formatIpv4 ip ++ ':' :: decimal port.toNat
  | .v6 ip port _ scopeId =>
      let scope := if scopeId = 0 then [] else '%' :: decimal scopeId.toNat
      '[' :: formatIpv6 ip ++ scope ++ "]:".toList ++ decimal port.toNat

example : formatAddr (.v6 1 9000 0 0) = "[::1]:9000".toList := by decide

/-- The path without its query string. -/
def pathForLog (path : Text) : Text :=
  firstPiece '?' path

/-- `log_record::parse_status_code` -/
def parseStatusForLog (response : Bytes) : Option Nat :=
  match fromUtf8 (response.take 128) with
  | none => none
  | some head =>
      match firstLine head with
      | none => none
      | some statusLine =>
          match splitWhitespace statusLine with
          | _ :: code :: _ => parseUnsigned u16Limit code
          | _ => none

end Mzani
