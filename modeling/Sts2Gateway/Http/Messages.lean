/-
The messages of HTTP (`http.rs`, `http_response.rs`, `http_cancel.rs`).

* `splitLines`, `asciiWords`, `splitOnce`, `trim`: the operations on texts;
* `requestHead`, `responseHead`: what a header says;
* `readRequest`, `readResponseWithLimit`, `readResponseWithLimitCancelable`: **the three
  readers**, each the loops with its own header;
* `writeRequest`: the bytes of a request.
-/
import Mathlib.Tactic
import Sts2Gateway.Http.Framing
import Sts2Gateway.Library.OrderedMap
import Sts2Gateway.Library.Utf8

namespace Sts2Gateway.Http

open Procedure Std Utf8

/-! ### Texts -/

/-- The pieces between the line ends. -/
def splitLines : List Char → List (List Char)
  | [] => [[]]
  | '\r' :: '\n' :: text => [] :: splitLines text
  | c :: text =>
    match splitLines text with
    | [] => [[c]]
    | line :: lines => (c :: line) :: lines

def isAsciiWhitespace (c : Char) : Bool :=
  c == ' ' || c == '\t' || c == '\n' || c == '\x0c' || c == '\r'

/-- The pieces between white space. -/
def asciiWords : List Char → List (List Char)
  | [] => []
  | c :: text =>
    if isAsciiWhitespace c then asciiWords text
    else
      match text with
      | [] => [[c]]
      | next :: _ =>
        if isAsciiWhitespace next then [c] :: asciiWords text
        else
          match asciiWords text with
          | [] => [[c]]
          | word :: words => (c :: word) :: words

/-- What stands before and after the first occurrence of a character. -/
def splitOnce (mark : Char) : List Char → Option (List Char × List Char)
  | [] => none
  | c :: text =>
    if c = mark then some ([], text)
    else (splitOnce mark text).map fun (name, value) => (c :: name, value)

/-- The characters with the property `White_Space`. -/
def isWhitespace (c : Char) : Bool :=
  (9 ≤ c.toNat && c.toNat ≤ 13) || c.toNat == 32 || c.toNat == 0x85 || c.toNat == 0xa0 ||
    c.toNat == 0x1680 || (0x2000 ≤ c.toNat && c.toNat ≤ 0x200a) || c.toNat == 0x2028 ||
    c.toNat == 0x2029 || c.toNat == 0x202f || c.toNat == 0x205f || c.toNat == 0x3000

def trim (text : List Char) : List Char :=
  ((text.dropWhile isWhitespace).reverse.dropWhile isWhitespace).reverse

def toAsciiLowercase (text : List Char) : List Char :=
  text.map fun c => if 'A' ≤ c ∧ c ≤ 'Z' then Char.ofNat (c.toNat + 32) else c

def eqIgnoreAsciiCase (text other : List Char) : Bool :=
  toAsciiLowercase text = toAsciiLowercase other

def isTokenChar (c : Char) : Bool :=
  c.isAlphanum || c ∈ ['!', '#', '$', '%', '&', '\x27', '*', '+', '-', '.', '^', '_', '\x60', '|', '~']

def validHeader (name value : List Char) : Bool :=
  !name.isEmpty && name.all isTokenChar &&
    value.all fun c => c == '\t' || (32 ≤ c.toNat && c.toNat ≤ 126)

def decimalValue (digits : List Char) : ℕ :=
  digits.foldl (fun value digit => 10 * value + (digit.toNat - 48)) 0

/-- A length in 64 bits. -/
def parseLength (value : List Char) : Option ℕ :=
  if value ≠ [] ∧ value.all Char.isDigit ∧ decimalValue value < 2 ^ 64 then
    some (decimalValue value)
  else none

/-- A status in 16 bits, which may have a sign. -/
def parseStatus (text : List Char) : Option ℕ :=
  let digits := match text with
    | '+' :: digits => digits
    | digits => digits
  if digits ≠ [] ∧ digits.all Char.isDigit ∧ decimalValue digits < 2 ^ 16 then
    some (decimalValue digits)
  else none

/-! ### Requests -/

abbrev Headers := ExtTreeMap String String

structure HttpRequest where
  method : String
  path : String
  headers : Headers
  body : List UInt8

structure RequestHead where
  method : String
  path : String
  headers : Headers

def readHeader (headers : Headers) (line : List Char) : Except ℕ Headers :=
  if line.isEmpty then .ok headers
  else do
    let (name, value) ← okOr (splitOnce ':' line) 400
    refuse (¬ validHeader name value) 400
    let name := String.ofList (toAsciiLowercase name)
    let value := String.ofList (trim value)
    refuse (name.isEmpty ∨ value.utf8ByteSize > maxHeaderBytes ∨ name ∈ headers) 400
    return headers.insert name value

def requestLine (line : List Char) : Except ℕ (String × String) :=
  match asciiWords line with
  | [method, path, version] =>
    if version = "HTTP/1.1".toList then .ok (String.ofList method, String.ofList path)
    else .error 400
  | _ => .error 400

def contentLength (headers : Headers) : Except ℕ ℕ :=
  match headers["content-length"]? with
  | some value => okOr (parseLength value.toList) 400
  | none => .ok 0

def requestHead (header : List UInt8) : Except ℕ (RequestHead × ℕ) := do
  let text ← okOr (decode header) 400
  match splitLines text with
  | [] => .error 400
  | first :: lines => do
    let (method, path) ← requestLine first
    let headers ← lines.foldlM readHeader ∅
    refuse ("transfer-encoding" ∈ headers) 400
    let length ← contentLength headers
    refuse (length > maxBodyBytes) 413
    return ({ method, path, headers }, length)

def requestIoStatus (error : ReadError) : ℕ := if error = .timeout then 408 else 400

def requestFraming : Framing ℕ RequestHead where
  tooLong := 413
  cutOff := 400
  surplus := 400
  readError := requestIoStatus
  maxBuffered := some (maxHeaderBytes + maxBodyBytes)
  roomy := by
    intro bound hbound
    obtain rfl := Option.some.inj hbound
    decide
  head := requestHead

def readRequest (source : Source) : Except ℕ HttpRequest := do
  let (head, body) ← readMessage requestFraming read source
  return { method := head.method, path := head.path, headers := head.headers, body }

/-- The bytes of a request, as they are sent. -/
def writeRequest (method path : String) (headers : Headers) (body : List UInt8) : List UInt8 :=
  bytesOf (method.toList ++ ' ' :: (path.toList ++ " HTTP/1.1\r\n".toList ++
    headers.toList.flatMap (fun (name, value) =>
      name.toList ++ ": ".toList ++ value.toList ++ "\r\n".toList) ++
    "Connection: close\r\n\r\n".toList)) ++ body

/-! ### Responses -/

structure HttpResponse where
  status : ℕ
  body : List UInt8
deriving DecidableEq, Repr

def statusLine (line : List Char) : Except ReadError ℕ :=
  match asciiWords line with
  | version :: status :: _ =>
    if version = "HTTP/1.1".toList then do
      let status ← okOr (parseStatus status) .malformed
      refuse (¬ (100 ≤ status ∧ status ≤ 599)) .malformed
      return status
    else .error .malformed
  | _ => .error .malformed

def readLengthHeader (length : Option ℕ) (line : List Char) : Except ReadError (Option ℕ) := do
  let (name, value) ← okOr (splitOnce ':' line) .malformed
  refuse (¬ validHeader name value ∨ eqIgnoreAsciiCase name "transfer-encoding".toList) .malformed
  if eqIgnoreAsciiCase name "content-length".toList then do
    refuse length.isSome .malformed
    let length ← okOr (parseLength (trim value)) .malformed
    return some length
  else return length

def responseHead (maxResponseBytes : ℕ) (header : List UInt8) : Except ReadError (ℕ × ℕ) := do
  let text ← okOr (decode header) .malformed
  match splitLines text with
  | [] => .error .malformed
  | first :: lines => do
    let status ← statusLine first
    let length ← lines.foldlM readLengthHeader none
    let length ← okOr length .malformed
    refuse (length > maxResponseBytes) .oversized
    return (status, length)

def responseFraming (maxResponseBytes : ℕ) : Framing ReadError ℕ where
  tooLong := .oversized
  cutOff := .malformed
  surplus := .malformed
  readError := id
  maxBuffered := none
  roomy := by
    intro bound hbound
    cases hbound
  head := responseHead maxResponseBytes

def readResponseWithLimit (source : Source) (maxResponseBytes : ℕ) :
    Except ReadError HttpResponse := do
  let (status, body) ← readMessage (responseFraming maxResponseBytes) read source
  return { status, body }

def readResponseWithLimitCancelable (source : Source) (maxResponseBytes : ℕ) :
    Except ReadError HttpResponse := do
  let (status, body) ← readMessage (responseFraming maxResponseBytes) readWithCancellation source
  return { status, body }

end Sts2Gateway.Http
