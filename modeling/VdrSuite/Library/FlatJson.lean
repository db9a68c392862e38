import VdrSuite.Library.Bytes

/-! Flat JSON objects: one level of strings, unsigned numbers and, where allowed, booleans. -/

set_option autoImplicit false

namespace VdrSuite.Library.FlatJson

inductive Value where
  | string (value : Bytes)
  | unsigned (value : Nat)
  | boolean (value : Bool)
  deriving DecidableEq

def isSpace (byte : UInt8) : Bool := (9 ≤ byte && byte ≤ 13) || byte == 32

def skip (input : Bytes) : Bytes := input.dropWhile isSpace

def consume (expected : UInt8) : Bytes → Option Bytes
  | byte :: rest => if byte = expected then some rest else none
  | [] => none

/-- The characters up to the closing quote; only quotes, backslashes and slashes are escaped. -/
def parseCharacters : Bytes → Bytes → Option (Bytes × Bytes)
  | _, [] => none
  | value, byte :: rest =>
    if byte = 34 then some (value, rest)
    else if byte < 32 ∨ byte = 127 then none
    else if byte = 92 then
      match rest with
      | [] => none
      | escaped :: remaining =>
        if escaped = 34 ∨ escaped = 92 ∨ escaped = 47 then
          if (value ++ [escaped]).length > 1024 then none
          else parseCharacters (value ++ [escaped]) remaining
        else none
    else if (value ++ [byte]).length > 1024 then none
    else parseCharacters (value ++ [byte]) rest

def parseString (input : Bytes) : Option (Bytes × Bytes) :=
  match consume 34 input with
  | none => none
  | some rest => parseCharacters [] rest

def parseNumber (input : Bytes) : Option (Nat × Bytes) :=
  let digits := input.takeWhile isDigit
  if digits.isEmpty ∨ digits.length > 19 ∨ (digits.length > 1 ∧ digits.head? = some 48) then none
  else
    match parseDecimal int64Max digits with
    | none => none
    | some value => some (value, input.drop digits.length)

def parseValue (booleans : Bool) (input : Bytes) : Option (Value × Bytes) :=
  if input.head? = some 34 then (parseString input).map fun (value, rest) => (.string value, rest)
  else if booleans && (text "true").isPrefixOf input then some (.boolean true, input.drop 4)
  else if booleans && (text "false").isPrefixOf input then some (.boolean false, input.drop 5)
  else (parseNumber input).map fun (value, rest) => (.unsigned value, rest)

/-- The members from the next key on; a member is never empty, so the length of the whole input
is fuel enough. -/
def parseMembers (booleans : Bool) : Nat → List (Bytes × Value) → Bytes →
    Option (List (Bytes × Value))
  | 0, _, _ => none
  | fuel + 1, values, input => do
      let (key, rest) ← parseString input
      if key.isEmpty ∨ key.length > 64 then none
      else
        let rest ← consume 58 (skip rest)
        let (value, rest) ← parseValue booleans (skip rest)
        if key ∈ values.map Prod.fst ∨ values.length + 1 > 24 then none
        else
          let rest := skip rest
          match consume 125 rest with
          | some remaining =>
            if (skip remaining).isEmpty then some (values ++ [(key, value)]) else none
          | none =>
            let rest ← consume 44 rest
            parseMembers booleans fuel (values ++ [(key, value)]) (skip rest)

def parse (booleans : Bool) (input : Bytes) : Option (List (Bytes × Value)) :=
  if input.isEmpty ∨ input.length > 4096 then none
  else do
    let rest ← consume 123 (skip input)
    let rest := skip rest
    match consume 125 rest with
    | some remaining => if remaining.isEmpty then some [] else none
    | none => parseMembers booleans input.length [] rest

def string (values : List (Bytes × Value)) (key : String) : Option Bytes :=
  match values.find? fun entry => entry.1 == text key with
  | some (_, .string value) => some value
  | _ => none

def unsigned (values : List (Bytes × Value)) (key : String) : Option Nat :=
  match values.find? fun entry => entry.1 == text key with
  | some (_, .unsigned value) => some value
  | _ => none

end VdrSuite.Library.FlatJson
