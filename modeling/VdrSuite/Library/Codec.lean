import VdrSuite.Library.Netstring

/-! Codecs of records of length-prefixed fields that read only the texts they write. -/

set_option autoImplicit false

namespace VdrSuite.Library.Codec

variable {α : Type}

/-- A codec of values up to a normal form: a text that is written is read back as the normal form, no
other text is read, and values with one text have one normal form. -/
structure Exact (valid : α → Bool) (normal : α → α) (serialize : α → Bytes)
    (parse : Bytes → Option α) : Prop where
  reads : ∀ value, valid value = true → serialize value ≠ [] →
    parse (serialize value) = some (normal value)
  only : ∀ encoded value, parse encoded = some value →
    valid value = true ∧ serialize value = encoded
  separates : ∀ left right, valid left = true → valid right = true → serialize left ≠ [] →
    serialize left = serialize right → normal left = normal right

def Separates (valid : α → Bool) (normal : α → α) (fingerprint : α → Bytes) : Prop :=
  ∀ left right, valid left = true → valid right = true →
    fingerprint left = fingerprint right → normal left = normal right

def readCanonical (limit count : Nat) (heading : Bytes) (ofFields : List Bytes → Option α)
    (valid : α → Bool) (serialize : α → Bytes) (encoded : Bytes) : Option α := do
  let fields ← Netstring.readDocument limit count heading encoded
  let candidate ← ofFields fields
  if valid candidate = false ∨ serialize candidate ≠ encoded then none else some candidate

section Canonical

variable {limit count : Nat} {heading : Bytes} {fields : α → List Bytes}
  {ofFields : List Bytes → Option α} {valid : α → Bool} {normal : α → α} {serialize : α → Bytes}

theorem readCanonical_eq_some_iff {encoded : Bytes} {value : α} :
    readCanonical limit count heading ofFields valid serialize encoded = some value ↔
      (∃ listed, Netstring.readDocument limit count heading encoded = some listed ∧
        ofFields listed = some value) ∧ valid value = true ∧ serialize value = encoded := by
  simp only [readCanonical, Option.bind_eq_bind, Option.bind_eq_some_iff]
  constructor
  · rintro ⟨listed, read, candidate, built, accepted⟩
    split at accepted
    case isTrue => cases accepted
    case isFalse admitted =>
    obtain rfl := Option.some.inj accepted
    simp only [not_or, Bool.not_eq_false, ne_eq, not_not] at admitted
    exact ⟨⟨listed, read, built⟩, admitted⟩
  · rintro ⟨⟨listed, read, built⟩, admitted, same⟩
    refine ⟨listed, read, value, built, ?_⟩
    rw [if_neg (by simp [admitted, same])]

theorem exact_readCanonical
    (written : ∀ value, valid value = true → serialize value ≠ [] →
      serialize value = heading ++ Netstring.record (fields value))
    (few : ∀ value, (fields value).length ≤ count)
    (short : ∀ value, valid value = true → ∀ field ∈ fields value, field.length ≤ limit)
    (back : ∀ value, valid value = true → ofFields (fields value) = some (normal value))
    (normalValid : ∀ value, valid value = true → valid (normal value) = true)
    (normalText : ∀ value, valid value = true → serialize (normal value) = serialize value) :
    Exact valid normal serialize
      (readCanonical limit count heading ofFields valid serialize) := by
  have reads (value : α) (admitted : valid value = true) (produced : serialize value ≠ []) :
      readCanonical limit count heading ofFields valid serialize (serialize value) =
        some (normal value) := by
    have listed := Netstring.readDocument_record limit count heading (fields value) (few value)
      (short value admitted)
    rw [← written value admitted produced] at listed
    exact (readCanonical_eq_some_iff).mpr ⟨⟨fields value, listed, back value admitted⟩,
      normalValid value admitted, normalText value admitted⟩
  constructor
  · exact reads
  · intro encoded value accepted
    exact ((readCanonical_eq_some_iff).mp accepted).2
  · intro left right leftValid rightValid produced same
    have leftRead := reads left leftValid produced
    have rightRead := reads right rightValid (same ▸ produced)
    rw [same, rightRead] at leftRead
    exact (Option.some.inj leftRead).symm

theorem separates_record {fingerprint : α → Bytes}
    (written : ∀ value, valid value = true →
      fingerprint value = heading ++ Netstring.record (fields value))
    (back : ∀ value, valid value = true → ofFields (fields value) = some (normal value)) :
    Separates valid normal fingerprint := by
  intro left right leftValid rightValid same
  rw [written left leftValid, written right rightValid] at same
  have listed := Netstring.record_injective (List.append_cancel_left same)
  have values := back left leftValid
  rw [listed, back right rightValid] at values
  exact (Option.some.inj values).symm

end Canonical

end VdrSuite.Library.Codec
