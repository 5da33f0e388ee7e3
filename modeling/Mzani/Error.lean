import Mzani.Support.ByteStream

/-!
# Errors

The domain errors of the balancer and their conversion from I/O errors.
-/

namespace Mzani

open Support

inductive MzaniError where
  | io (message : String)
  | parseError (message : String)
  | timeout
  | emptyRequest
  | emptyServerList
  | loggerInit (message : String)
  | invalidTimestamp
  | poolFull
  | shutdownInProgress
  | bodyTooLarge
  | noHealthyBackend
  | shutdownTimeout
  | invalidConfig (message : String)
  deriving DecidableEq, Repr

abbrev MzaniResult (α : Type) : Type := Except MzaniError α

/-- `parse_err` -/
def parseErr (message : String) : MzaniError :=
  .parseError message

/-- `From<io::Error>` -/
def MzaniError.ofIo (error : IoError) : MzaniError :=
  if error.kind = .timedOut then .timeout else .io error.message

/-- A computation of the balancer that reads from a stream. -/
abbrev ReadResult (σ α : Type) : Type := Reading MzaniError σ α

section

variable {σ : Type} [Read σ]

/-- `stream.read(&mut buf)?` -/
def readSome (size : Nat) : ReadResult σ Bytes :=
  Reading.mapError MzaniError.ofIo (Read.read size)

/-- `stream.read_exact(&mut buf)?` with a buffer of `need` bytes -/
def readFull (need : Nat) :
    ReadResult σ { bytes : Bytes // bytes.length = need } :=
  Reading.mapError MzaniError.ofIo (readBuffer need)

end

end Mzani
