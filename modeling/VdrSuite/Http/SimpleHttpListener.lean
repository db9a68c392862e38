import VdrSuite.Library.Chunks
import VdrSuite.Library.Netstring
import VdrSuite.Library.Numerals
import VdrSuite.Library.Table

/-! The request reader of the HTTP listener: the two receive loops, the parser of what has been
received, and the length that the body is waited for. -/

set_option autoImplicit false

namespace VdrSuite.Http.SimpleHttpListener

open Library

structure HttpServerRequest where
  method : Bytes := []
  path : Bytes := []
  headers : List (Bytes × Bytes) := []
  body : Bytes := []
  peerIsTrustedLan : Bool := false
  peerIsDirectPrivateLan : Bool := false
  deriving DecidableEq

structure Peer where
  trustedLan : Bool
  beyondLoopback : Bool
  deriving DecidableEq

def headerEnd : Bytes := [13, 10, 13, 10]

def isSpace (byte : UInt8) : Bool := byte == 32 || (9 ≤ byte && byte ≤ 13)

/-! ## The parser -/

/-- The lines that `std::getline` yields. -/
def getLines : Bytes → List Bytes
  | [] => []
  | byte :: rest =>
    if byte = 10 then [] :: getLines rest
    else
      match getLines rest with
      | [] => [[byte]]
      | line :: lines => (byte :: line) :: lines

def withoutCarriageReturn (line : Bytes) : Bytes :=
  if line.getLast? = some 13 then line.dropLast else line

/-- What `operator>>` extracts, and what is left. -/
def nextWord (input : Bytes) : Bytes × Bytes :=
  ((input.dropWhile isSpace).takeWhile fun byte => !isSpace byte,
    (input.dropWhile isSpace).dropWhile fun byte => !isSpace byte)

def headerFields : List Bytes → List (Bytes × Bytes)
  | [] => []
  | line :: later =>
    if (withoutCarriageReturn line).isEmpty then []
    else
      match splitAtFirst [58] (withoutCarriageReturn line) with
      | none => headerFields later
      | some (key, value) => (key, value.dropWhile (· == 32)) :: headerFields later

def headersOf (fields : List (Bytes × Bytes)) : List (Bytes × Bytes) :=
  fields.foldl (fun headers field => Table.upsert Prod.fst field headers) []

def parseHeaderBlock (headerBlock body : Bytes) : HttpServerRequest :=
  match getLines headerBlock with
  | [] => { body := body }
  | requestLine :: lines =>
    { method := (nextWord (withoutCarriageReturn requestLine)).1
      path := (nextWord (nextWord (withoutCarriageReturn requestLine)).2).1
      headers := headersOf (headerFields lines)
      body := body }

def parseRequest (rawRequest : Bytes) : HttpServerRequest :=
  match splitAtFirst headerEnd rawRequest with
  | none => parseHeaderBlock rawRequest []
  | some (headerBlock, body) => parseHeaderBlock headerBlock body

/-! ## The receive loops -/

/-- `std::strtoul` in base ten: blanks and a sign are skipped, a numeral that is too large is cut to
the largest number, and without digits the result is zero. -/
def strtoul (input : Bytes) : Nat :=
  let digits := fun (rest : Bytes) => digitsValue (rest.takeWhile isDigit)
  let clipped := fun (magnitude : Nat) => min magnitude Netstring.uint64Max
  match input.dropWhile isSpace with
  | 45 :: rest =>
    if digits rest > Netstring.uint64Max then Netstring.uint64Max
    else (Netstring.uint64Max + 1 - digits rest) % (Netstring.uint64Max + 1)
  | 43 :: rest => clipped (digits rest)
  | rest => clipped (digits rest)

def hasCompleteHeaders (rawRequest : Bytes) : Bool := (splitAtFirst headerEnd rawRequest).isSome

def contentLength (request : HttpServerRequest) : Nat :=
  match Table.lookup Prod.fst (text "Content-Length") request.headers with
  | none => 0
  | some field => strtoul field.2

def hasCompleteBody (request : HttpServerRequest) (expectedContentLength : Nat) : Bool :=
  decide (expectedContentLength ≤ request.body.length)

def prepareRequest (peer : Peer) (chunks : List Bytes) : Option HttpServerRequest :=
  match Chunks.receiveUntil hasCompleteHeaders [] chunks with
  | none => none
  | some (rawRequest, later) =>
    match Chunks.receiveUntil
        (fun raw => hasCompleteBody (parseRequest raw) (contentLength (parseRequest rawRequest)))
        rawRequest later with
    | none => none
    | some (rawRequest, _) =>
      some { parseRequest rawRequest with
        peerIsTrustedLan := peer.trustedLan
        peerIsDirectPrivateLan := peer.trustedLan && peer.beyondLoopback }

end VdrSuite.Http.SimpleHttpListener
