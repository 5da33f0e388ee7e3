import Mzani.Config
import Mzani.Support.Number

/-!
# HTTP requests

Reading a request head from a byte stream, parsing it and taking the body
that follows it.
-/

namespace Mzani

open Support

/-- `b"\r\n\r\n"` -/
def headerEnd : Bytes := [13, 10, 13, 10]

abbrev HeaderFields : Type := List (Text × Text)

inductive HttpMethod where
  | get
  | post
  | put
  | delete
  | head
  | options
  | patch
  | other (token : Text)
  deriving DecidableEq

def HttpMethod.parse (token : Text) : HttpMethod :=
  if token = "GET".toList then .get
  else if token = "POST".toList then .post
  else if token = "PUT".toList then .put
  else if token = "DELETE".toList then .delete
  else if token = "HEAD".toList then .head
  else if token = "OPTIONS".toList then .options
  else if token = "PATCH".toList then .patch
  else .other token

def HttpMethod.asStr : HttpMethod → Text
  | .get => "GET".toList
  | .post => "POST".toList
  | .put => "PUT".toList
  | .delete => "DELETE".toList
  | .head => "HEAD".toList
  | .options => "OPTIONS".toList
  | .patch => "PATCH".toList
  | .other token => token

/-- The method token survives parsing. -/
theorem HttpMethod.asStr_parse (token : Text) :
    (HttpMethod.parse token).asStr = token := by
  unfold HttpMethod.parse
  split_ifs with get post put delete head options patch
  · exact get.symm
  · exact post.symm
  · exact put.symm
  · exact delete.symm
  · exact head.symm
  · exact options.symm
  · exact patch.symm
  · rfl

/-- `haystack.windows(needle.len()).position(|window| window == needle)` -/
def findSubslice (haystack needle : Bytes) : Option Nat :=
  if needle.length ≤ haystack.length then
    if haystack.take needle.length = needle then some 0
    else
      match haystack with
      | [] => none
      | _ :: tail => (findSubslice tail needle).map (· + 1)
  else none

/-- `str::split("\r\n")` -/
def splitCrlf (text : Text) : List Text :=
  splitPair '\r' '\n' text

section Reading

variable {σ : Type} [Read σ]

/-- The loop of `read_header_block`; each pass either stops or grows `buf`,
which the limit bounds. -/
def readHeaderLoop (maxHeaderBytes : Nat) (buf : Bytes) :
    ReadResult σ (Bytes × Bytes) :=
  if _full : maxHeaderBytes < buf.length then
    Reading.fail (parseErr "header block exceeds maximum size")
  else do
    let chunk ← readSome 4096
    if _ended : chunk = [] then
      Reading.fail .emptyRequest
    else
      let grown := buf ++ chunk
      match findSubslice grown headerEnd with
      | some endIndex =>
          let headLen := endIndex + headerEnd.length
          pure (grown.take headLen, grown.drop headLen)
      | none => readHeaderLoop maxHeaderBytes grown
termination_by maxHeaderBytes + 1 - buf.length
decreasing_by
  have positive : 0 < chunk.length := List.length_pos_iff.mpr _ended
  simp only [List.length_append]
  omega

/-- Reads bytes until the header terminator. -/
def readHeaderBlock (maxHeaderBytes : Nat) : ReadResult σ (Bytes × Bytes) :=
  readHeaderLoop maxHeaderBytes []

end Reading

/-- The loop over the header lines, up to the first empty one. -/
def parseHeaderLines : List Text → MzaniResult HeaderFields
  | [] => .ok []
  | line :: lines =>
      if line = [] then .ok []
      else
        match splitOnce ':' line with
        | none => .error (parseErr "malformed header line")
        | some (name, value) => do
            let headers ← parseHeaderLines lines
            pure ((trim name, trim value) :: headers)

/-- Header fields of a message head, request or response. -/
def parseHeaderFields (rawHead : Bytes) : MzaniResult HeaderFields :=
  match fromUtf8 rawHead with
  | none => .error (parseErr "invalid utf-8 in headers")
  | some head =>
      match splitCrlf head with
      | [] => .error (parseErr "missing start line")
      | _startLine :: lines => parseHeaderLines lines

def parseHead (rawHead : Bytes) :
    MzaniResult (HttpMethod × Text × HeaderFields) :=
  match fromUtf8 rawHead with
  | none => .error (parseErr "invalid utf-8 in headers")
  | some head =>
      match splitCrlf head with
      | [] => .error (parseErr "missing request line")
      | requestLine :: _ =>
          match splitWhitespace requestLine with
          | [] => .error (parseErr "missing method")
          | [_] => .error (parseErr "missing path")
          | method :: path :: _ => do
              let headers ← parseHeaderFields rawHead
              pure (HttpMethod.parse method, path, headers)

/-- Value of the first header with this name, letter case ignored. -/
def headerField (headers : HeaderFields) (name : Text) : Option Text :=
  (headers.find? fun field => eqIgnoreAsciiCase field.1 name).map (·.2)

def contentLength (headers : HeaderFields) : MzaniResult Nat :=
  match headerField headers "content-length".toList with
  | some value =>
      match parseUnsigned usizeLimit value with
      | some length => .ok length
      | none => .error (parseErr "invalid content-length")
  | none => .ok 0

structure Request where
  method : HttpMethod
  path : Text
  headers : HeaderFields
  body : Bytes
  rawHead : Bytes
  deriving DecidableEq

namespace Request

/-- Reads and parses a request; what the header scan read past the head is
the start of the body. -/
def fromStream {σ : Type} [Read σ] (limits : Limits) :
    ReadResult σ Request := do
  let (rawHead, bodyPrefix) ← readHeaderBlock limits.maxHeaderBytes
  let (method, path, headers) ← Reading.ofExcept (parseHead rawHead)
  let contentLength ← Reading.ofExcept (contentLength headers)
  if limits.maxBodyBytes < contentLength then
    Reading.fail .bodyTooLarge
  else if limits.maxBodyBytes < bodyPrefix.length then
    Reading.fail .bodyTooLarge
  else
    let remaining := contentLength - bodyPrefix.length
    if 0 < remaining then do
      let rest ← readFull remaining
      pure { method, path, headers, body := bodyPrefix ++ rest.val, rawHead }
    else
      pure { method, path, headers, body := bodyPrefix, rawHead }

/-- Serializes the request back to wire format. -/
def toBytes (request : Request) : Bytes :=
  request.rawHead ++ request.body

end Request

end Mzani
