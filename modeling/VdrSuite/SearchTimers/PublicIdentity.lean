import VdrSuite.SearchTimers.SearchTimer
import VdrSuite.Library.Hex
import VdrSuite.Library.Table

/-! Public identities of search timers: what one authoritative snapshot makes of them. -/

set_option autoImplicit false

namespace VdrSuite.SearchTimers

open Library

structure Binding where
  publicId : Bytes
  signature : Bytes
  deriving DecidableEq

/-- A row of `public_search_timer_identity`, and of the table of retired ones. -/
structure IdentityRow where
  publicId : Bytes
  backendId : Bytes
  nativeId : Bytes
  deriving DecidableEq

/-- A row of `public_search_timer_identity_signature`. -/
structure SignatureRow where
  publicId : Bytes
  signature : Bytes
  deriving DecidableEq

structure IdentityStore where
  identities : List IdentityRow := []
  signatures : List SignatureRow := []
  retired : List IdentityRow := []
  deriving DecidableEq

/-- What `randomblob(16)` gives. -/
abbrev RandomBlob : Type := { blob : Bytes // blob.length = 16 }

def candidateId (blob : RandomBlob) : Bytes :=
  text "st_" ++ Hex.encode blob.val

/-! ## Statements -/

/-- `COALESCE(s.signature, '')` of the joined signature. -/
def signatureOf (store : IdentityStore) (publicId : Bytes) : Bytes :=
  match Table.lookup SignatureRow.publicId publicId store.signatures with
  | none => []
  | some row => row.signature

/-- The bindings of a backend by native id. Every column is read up to its first NUL byte, and two
rows of one native id end the reading. -/
def currentBindings (store : IdentityStore) (backend : Bytes) : Option (List (Bytes × Binding)) :=
  let rows := (store.identities.filter (·.backendId == backend)).map fun row =>
    (cString row.nativeId, ⟨cString row.publicId, cString (signatureOf store row.publicId)⟩)
  if (rows.map Prod.fst).Nodup then some rows else none

def retire (backend native : Bytes) (previous : Binding) (store : IdentityStore) :
    Option IdentityStore :=
  if (Table.lookup IdentityRow.publicId previous.publicId store.retired).isSome then none
  else
    some {
      retired := store.retired ++ [⟨previous.publicId, backend, native⟩]
      signatures := Table.delete (fun row => row.publicId == previous.publicId) store.signatures
      identities := Table.delete (fun row => row.publicId == previous.publicId &&
        row.backendId == backend && row.nativeId == native) store.identities }

def publicIdForNative (identities : List IdentityRow) (backend native : Bytes) : Option Bytes :=
  (identities.find? fun row => row.backendId == backend && row.nativeId == native).map
    fun row => cString row.publicId

/-- A candidate that is retired inserts no row; one that is in use, or a native id that is, violates
a constraint. -/
def insertNew (backend native signature candidate : Bytes) (store : IdentityStore) :
    Option (Bytes × IdentityStore) :=
  if (Table.lookup IdentityRow.publicId candidate store.retired).isSome then none
  else if store.identities.any fun row => row.publicId == candidate ||
      row.backendId == backend && row.nativeId == native then none
  else
    let identities := store.identities ++ [⟨candidate, backend, native⟩]
    match publicIdForNative identities backend native with
    | none => none
    | some id =>
      if (Table.lookup SignatureRow.publicId id store.signatures).isSome then none
      else
        some (id, { store with
          identities := identities
          signatures := store.signatures ++ [⟨id, signature⟩] })

/-! ## Lookup -/

def lowerHex (byte : UInt8) : Bool :=
  48 ≤ byte && byte ≤ 57 || 97 ≤ byte && byte ≤ 102

def resolveActiveNativeId (store : IdentityStore) (backendId publicSearchTimerId : Bytes) :
    Option Bytes :=
  if backendId = [] ∨ backendId.length > 128 ∨ publicSearchTimerId.length ≠ 35 ∨
      publicSearchTimerId.take 3 ≠ text "st_" ∨
      (publicSearchTimerId.drop 3).all lowerHex = false then none
  else
    match store.identities.filter fun row =>
        row.backendId == backendId && row.publicId == publicSearchTimerId &&
        (store.signatures.any fun signature =>
          signature.publicId == row.publicId && signature.signature != []) &&
        !store.retired.any fun gone => gone.publicId == row.publicId with
    | [row] => if row.nativeId = [] then none else some (cString row.nativeId)
    | _ => none

/-! ## Reconciliation -/

def acceptable (backend : Bytes) (timer : SearchTimer) : Bool :=
  timer.backendId == backend && timer.backendNativeId != [] &&
    timer.backendNativeId.length ≤ 64 && timer.name != [] && timer.query != [] &&
    timer.name.length ≤ 1024 && timer.query.length ≤ 1024 && (fingerprint timer).length ≤ 16384

def signaturesOf (backend : Bytes) : List SearchTimer → Option (List (Bytes × Bytes))
  | [] => some []
  | timer :: rest =>
    match signaturesOf backend rest with
    | none => none
    | some signatures =>
      if acceptable backend timer = false ∨
          (signatures.lookup timer.backendNativeId).isSome then none
      else some ((timer.backendNativeId, fingerprint timer) :: signatures)

/-- A binding stays if its native id is observed with its own signature; a row without a signature
is rotated once. -/
def stays (signatures : List (Bytes × Bytes)) (entry : Bytes × Binding) : Bool :=
  match signatures.lookup entry.1 with
  | none => false
  | some observed => entry.2.signature != [] && observed == entry.2.signature

def existingId (old : List (Bytes × Binding)) (timer : SearchTimer) : Option Bytes :=
  match old.lookup timer.backendNativeId with
  | none => none
  | some binding =>
    if binding.signature ≠ [] ∧ binding.signature = fingerprint timer then some binding.publicId
    else none

def retireAll (backend : Bytes) : List (Bytes × Binding) → IdentityStore → Option IdentityStore
  | [], store => some store
  | entry :: rest, store =>
    match retire backend entry.1 entry.2 store with
    | none => none
    | some next => retireAll backend rest next

def assignAll (backend : Bytes) (old : List (Bytes × Binding)) :
    List SearchTimer → List RandomBlob → IdentityStore → Option (List Bytes × IdentityStore)
  | [], _, store => some ([], store)
  | timer :: rest, blobs, store =>
    match existingId old timer with
    | some id =>
      (assignAll backend old rest blobs store).map fun (ids, final) => (id :: ids, final)
    | none =>
      match blobs with
      | [] => none
      | blob :: blobs =>
        match insertNew backend timer.backendNativeId (fingerprint timer) (candidateId blob)
            store with
        | none => none
        | some (id, next) =>
          (assignAll backend old rest blobs next).map fun (ids, final) => (id :: ids, final)

/-- One call: its arguments, what `randomblob` draws in it and what else the database makes of it. -/
structure SnapshotCall where
  backend : Bytes
  observations : List SearchTimer
  blobs : List RandomBlob := []
  begins : Bool := true
  bindingsRead : Bool := true
  statementsCarriedOut : Bool := true
  commits : Bool := true
  deriving DecidableEq

def reconcileBindings (call : SnapshotCall) (signatures : List (Bytes × Bytes))
    (store : IdentityStore) : Option (List Bytes × IdentityStore) :=
  if call.bindingsRead = false then none
  else
    match currentBindings store call.backend with
    | none => none
    | some old =>
      if call.statementsCarriedOut = false then none
      else
        match retireAll call.backend (old.filter fun entry => !stays signatures entry) store with
        | none => none
        | some next => assignAll call.backend old call.observations call.blobs next

def reconcileAuthoritativeSnapshot (store : IdentityStore) (call : SnapshotCall) :
    IdentityStore × Option (List Bytes) :=
  if call.backend = [] ∨ call.backend.length > 128 ∨ call.observations.length > 10000 then
    (store, none)
  else
    match signaturesOf call.backend call.observations with
    | none => (store, none)
    | some signatures =>
      if call.begins = false then (store, none)
      else
        match reconcileBindings call signatures store with
        | none => (store, none)
        | some (assigned, next) =>
          if call.commits then (next, some assigned) else (store, none)

end VdrSuite.SearchTimers
