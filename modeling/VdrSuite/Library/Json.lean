import VdrSuite.Library.FlatJson

/-! The UTF-8 check of the JSON reader. -/

set_option autoImplicit false

namespace VdrSuite.Library.Json

def utf8Lead (first : UInt8) : Option (Nat × Nat) :=
  if first &&& 0xe0 = 0xc0 then some (1, (first &&& 0x1f).toNat)
  else if first &&& 0xf0 = 0xe0 then some (2, (first &&& 0x0f).toNat)
  else if first &&& 0xf8 = 0xf0 then some (3, (first &&& 0x07).toNat)
  else none

def utf8CodePointValid (continuations codePoint : Nat) : Bool :=
  !((continuations == 1 && codePoint < 0x80) || (continuations == 2 && codePoint < 0x800) ||
    (continuations == 3 && codePoint < 0x10000) || 0x10ffff < codePoint ||
    (0xd800 ≤ codePoint && codePoint ≤ 0xdfff))

def validUtf8Within : Nat → Bytes → Bool
  | _, [] => true
  | 0, _ => false
  | fuel + 1, first :: rest =>
    if first ≤ 0x7f then validUtf8Within fuel rest
    else
      match utf8Lead first with
      | none => false
      | some (count, bits) =>
        let following := rest.take count
        following.length == count && (following.all fun next => next &&& 0xc0 == 0x80) &&
        utf8CodePointValid count
          (following.foldl (fun codePoint next => codePoint * 64 + (next &&& 0x3f).toNat) bits) &&
        validUtf8Within fuel (rest.drop count)

def validUtf8 (value : Bytes) : Bool := validUtf8Within value.length value

theorem validUtf8_of_ascii {value : Bytes} (ascii : ∀ byte ∈ value, byte ≤ 0x7f) :
    validUtf8 value = true := by
  unfold validUtf8
  induction value with
  | nil => rfl
  | cons first rest ih =>
    rw [List.length_cons, validUtf8Within, if_pos (ascii first List.mem_cons_self)]
    exact ih fun byte member => ascii byte (List.mem_cons_of_mem first member)

end VdrSuite.Library.Json
