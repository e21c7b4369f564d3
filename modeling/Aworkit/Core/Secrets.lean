import Aworkit.Collections.Rebuild
import Aworkit.Logic.Hoare
import Aworkit.Protocol.Identity

/-! The secret broker (`secrets.rs`): credentials in a platform store, and leases that redeem their fields. The time
and the store's answer are inputs of the call. -/
namespace Aworkit.Core
open Protocol Fallible OrderedMap Hoare Std Prog

abbrev CredentialRef := StableId

/-- The named values of a credential. -/
abbrev SecretFields := ExtTreeMap String (List UInt8)

/-- Fifteen minutes in nanoseconds. -/
def maxLeaseTtl : Nat := 15 * 60 * 1000000000
def maxLeaseUses : Nat := 64

structure CredentialMetadataV1 where
  credential : CredentialRef
  fieldNames : ExtTreeSet String
  revision : Nat

inductive SecretError where
  | unknown
  | unknownCredential
  | used
  | audience
  | invocationMismatch
  | fieldDenied
  | expired
  | identityConflict
  | storeUnavailable
  | storeLocked
  | storeAccessControlInvalid
  | secretTooLarge
  | invalidMetadata
  deriving DecidableEq

structure SecretLease where
  leaseId : StableId
  credential : CredentialRef
  audienceGeneration : Nat
  (decisionId invocationId runId : Option StableId)
  permittedFields : ExtTreeSet String
  (expiresAt remainingUses : Nat)
  identityHash : String

structure ScopedLeaseRequestV1 where
  leaseId : StableId
  credential : CredentialRef
  (decisionId invocationId runId : StableId)
  audienceGeneration : Nat
  permittedFields : ExtTreeSet String
  (ttl maximumUses : Nat)

structure RedeemLeaseRequestV1 where
  (leaseId decisionId invocationId : StableId)
  audienceGeneration : Nat
  requestedFields : ExtTreeSet String

inductive SecretLeaseAuditKindV1 where
  | issued | redeemed | revoked | expired
  deriving DecidableEq

structure SecretLeaseAuditV1 where
  leaseId : StableId
  kind : SecretLeaseAuditKindV1

/-- How the platform store answers. A write reported as failed may have been made: the native store reads it back. -/
inductive StoreAnswer where
  | works
  | fails (error : SecretError)
  | unreported (error : SecretError)

/-- What identifies a lease, as it is hashed. -/
structure LeaseIdentity where
  (leaseId credential : String)
  (decisionId invocationId runId : Option String)
  generation : Nat
  fields : List String
  (ttl maximumUses : Nat)

/-- SHA-256 of the encoding of an identity, and the last instant of the clock. -/
structure SecretHost where
  identityDigest : LeaseIdentity → Sha256Digest
  lastInstant : Nat

/-- The broker, with the contents of its store. -/
structure SecretBroker where
  store : ExtTreeMap String SecretFields
  metadata : ExtTreeMap String CredentialMetadataV1
  leases : ExtTreeMap String SecretLease
  audit : List SecretLeaseAuditV1

abbrev SecretProg := Prog SecretError SecretBroker

/-- `Instant::checked_add`. -/
def SecretHost.checkedAdd (host : SecretHost) (now ttl : Nat) : Option Nat :=
  if now + ttl ≤ host.lastInstant then some (now + ttl) else none

def leaseIdentity (host : SecretHost) (identity : LeaseIdentity) : String := "sha256:" ++ (host.identityDigest identity).text

def secretFieldChar (c : Char) : Bool := c.isAlphanum || c == '.' || c == '_' || c == '-'

def validateFields (fields : List String) : Except SecretError Unit :=
  refuseIf (fields.isEmpty || fields.any fun field =>
    field.isEmpty || decide (128 < field.utf8ByteSize) || !field.toList.all secretFieldChar) .fieldDenied

/-- The values of the named fields; every name must be there. -/
def select (fields : SecretFields) (names : ExtTreeSet String) : Except SecretError SecretFields :=
  names.toList.foldlM (fun selected name => do
    let value ← require fields[name]? .fieldDenied
    return selected.insert name value) ∅

def subset (names others : ExtTreeSet String) : Bool := names.toList.all others.contains

namespace SecretBroker

variable (answer : StoreAnswer)

variable (credential : CredentialRef)

def storePut (fields : SecretFields) : SecretProg Unit :=
  match answer with
  | .works => update fun b => { b with store := b.store.insert credential.val fields }
  | .fails e => fail e
  | .unreported e => do
    update fun b => { b with store := b.store.insert credential.val fields }
    fail e

def storeRetrieve : SecretProg SecretFields := do
  let b ← read
  match answer with
  | .works => lift (require b.store[credential.val]? .unknownCredential)
  | .fails e | .unreported e => fail e

def storeDelete : SecretProg Unit := do
  let b ← read
  match answer with
  | .works =>
    lift (refuseIf (!b.store.contains credential.val) .unknownCredential)
    update fun b => { b with store := b.store.erase credential.val }
  | .fails e => fail e
  | .unreported e => do
    update fun b => { b with store := b.store.erase credential.val }
    fail e

variable (b : SecretBroker)

variable (leaseId : StableId)

def note (kind : SecretLeaseAuditKindV1) : SecretBroker :=
  { b with audit := b.audit ++ [⟨leaseId, kind⟩] }

def revoke : SecretBroker :=
  if b.leases.contains leaseId.val then { b with leases := b.leases.erase leaseId.val }.note leaseId .revoked else b

/-- Revokes the leases of a kind, one after the other. -/
def revokeWhere (kind : SecretLease → Bool) : SecretBroker :=
  (((values b.leases).filter kind).map SecretLease.leaseId).foldl revoke b

def revokeGeneration (generation : Nat) : SecretBroker :=
  b.revokeWhere fun lease => lease.audienceGeneration == generation

def revokeRun (runId : StableId) : SecretBroker :=
  b.revokeWhere fun lease => lease.runId == some runId

def putCredential (credential : CredentialRef) (fields : SecretFields) (answer : StoreAnswer) :
    SecretProg CredentialMetadataV1 := do
  lift (validateFields fields.keys)
  lift (refuseIf (decide (64 < fields.size) ||
    (values fields).any (fun value => value.isEmpty || decide (64 * 1024 < value.length)) ||
    decide (256 * 1024 < sumValues List.length fields)) .secretTooLarge)
  let b ← read
  let revision := (b.metadata[credential.val]?).elim 1 fun metadata => saturatingAdd u64Max metadata.revision 1
  storePut answer credential fields
  update fun b => b.revokeWhere fun lease => lease.credential == credential
  let metadata : CredentialMetadataV1 := ⟨credential, ExtTreeSet.ofList fields.keys, revision⟩
  update fun b => { b with metadata := b.metadata.insert credential.val metadata }
  return metadata

def deleteCredential (credential : CredentialRef) (answer : StoreAnswer) : SecretProg Unit := do
  storeDelete answer credential
  update fun b => { b with metadata := b.metadata.erase credential.val }
  update fun b => b.revokeWhere fun lease => lease.credential == credential

def insertLease (lease : SecretLease) : SecretProg SecretLease := do
  let b ← read
  match b.leases[lease.leaseId.val]? with
  | some existing =>
    lift (refuseIf (existing.identityHash != lease.identityHash) .identityConflict)
    return existing
  | none =>
    update (·.note lease.leaseId .issued)
    update fun b => { b with leases := b.leases.insert lease.leaseId.val lease }
    return lease

variable (host : SecretHost)

/-- A compatibility lease: one use, no fields, bound to a generation only. -/
def legacyLease (leaseId : StableId) (credential : CredentialRef) (generation ttl expiresAt : Nat) : SecretLease where
  leaseId := leaseId
  credential := credential
  audienceGeneration := generation
  decisionId := none
  invocationId := none
  runId := none
  permittedFields := ∅
  expiresAt := expiresAt
  remainingUses := 1
  identityHash := leaseIdentity host ⟨leaseId.val, credential.val, none, none, none, generation, [], ttl, 1⟩

def scopedLease (request : ScopedLeaseRequestV1) (expiresAt : Nat) : SecretLease where
  leaseId := request.leaseId
  credential := request.credential
  audienceGeneration := request.audienceGeneration
  decisionId := some request.decisionId
  invocationId := some request.invocationId
  runId := some request.runId
  permittedFields := request.permittedFields
  expiresAt := expiresAt
  remainingUses := request.maximumUses
  identityHash := leaseIdentity host ⟨request.leaseId.val, request.credential.val, some request.decisionId.val,
    some request.invocationId.val, some request.runId.val, request.audienceGeneration, request.permittedFields.toList,
    request.ttl, request.maximumUses⟩

def issue (leaseId : StableId) (credential : CredentialRef) (generation ttl now : Nat) : SecretProg SecretLease := do
  let expiresAt ← lift (require (host.checkedAdd now ttl) .expired)
  lift (refuseIf (ttl == 0 || decide (maxLeaseTtl < ttl)) .expired)
  insertLease (legacyLease host leaseId credential generation ttl expiresAt)

def issueScoped (request : ScopedLeaseRequestV1) (now : Nat) : SecretProg SecretLease := do
  lift (refuseIf (request.ttl == 0 || decide (maxLeaseTtl < request.ttl) || request.maximumUses == 0 ||
    decide (maxLeaseUses < request.maximumUses)) .expired)
  lift (validateFields request.permittedFields.toList)
  let b ← read
  let metadata ← lift (require b.metadata[request.credential.val]? .unknownCredential)
  lift (refuseIf (!subset request.permittedFields metadata.fieldNames) .fieldDenied)
  let expiresAt ← lift (require (host.checkedAdd now request.ttl) .expired)
  insertLease (scopedLease host request expiresAt)

/-- An expired lease stays in the table; only its refusal is noted. -/
def validateLease (generation : Nat) (decisionId invocationId : Option StableId)
    (fields : ExtTreeSet String) (now : Nat) : SecretProg SecretLease := do
  let b ← read
  let lease ← lift (require b.leases[leaseId.val]? .unknown)
  if lease.expiresAt ≤ now then
    update (·.note leaseId .expired)
    fail .expired
  else
    lift (refuseIf (lease.remainingUses == 0) .used)
    lift (refuseIf (lease.audienceGeneration != generation) .audience)
    lift (refuseIf (lease.decisionId != decisionId || lease.invocationId != invocationId) .invocationMismatch)
    lift (refuseIf (!subset fields lease.permittedFields) .fieldDenied)
    let lease := { lease with remainingUses := lease.remainingUses - 1 }
    update fun b => { b with leases := b.leases.insert leaseId.val lease }
    update (·.note leaseId .redeemed)
    return lease

def redeem (generation now : Nat) : SecretProg CredentialRef := do
  let lease ← validateLease leaseId generation none none ∅ now
  return lease.credential

def redeemScoped (request : RedeemLeaseRequestV1) (now : Nat) (answer : StoreAnswer) : SecretProg SecretFields := do
  let lease ← validateLease request.leaseId request.audienceGeneration (some request.decisionId)
    (some request.invocationId) request.requestedFields now
  let secret ← storeRetrieve answer lease.credential
  lift (select secret request.requestedFields)

end SecretBroker

inductive SecretCall where
  | putCredential (credential : CredentialRef) (fields : SecretFields) (answer : StoreAnswer)
  | deleteCredential (credential : CredentialRef) (answer : StoreAnswer)
  | issue (leaseId : StableId) (credential : CredentialRef) (generation ttl now : Nat)
  | issueScoped (request : ScopedLeaseRequestV1) (now : Nat)
  | redeem (leaseId : StableId) (generation now : Nat)
  | redeemScoped (request : RedeemLeaseRequestV1) (now : Nat) (answer : StoreAnswer)
  | revoke (leaseId : StableId)
  | revokeGeneration (generation : Nat)
  | revokeRun (runId : StableId)

inductive SecretAnswer where
  | metadata (metadata : CredentialMetadataV1)
  | lease (lease : SecretLease)
  | credential (credential : CredentialRef)
  | delivery (fields : SecretFields)
  | done

structure SecretEvent where
  call : SecretCall
  answer : Except SecretError SecretAnswer

namespace SecretBroker

def perform (host : SecretHost) : SecretCall → SecretProg SecretAnswer
  | .putCredential credential fields answer => do return .metadata (← putCredential credential fields answer)
  | .deleteCredential credential answer => do
    deleteCredential credential answer
    return .done
  | .issue leaseId credential generation ttl now => do return .lease (← issue host leaseId credential generation ttl now)
  | .issueScoped request now => do return .lease (← issueScoped host request now)
  | .redeem leaseId generation now => do return .credential (← redeem leaseId generation now)
  | .redeemScoped request now answer => do return .delivery (← redeemScoped request now answer)
  | .revoke leaseId => do
    update (·.revoke leaseId)
    return .done
  | .revokeGeneration generation => do
    update (·.revokeGeneration generation)
    return .done
  | .revokeRun runId => do
    update (·.revokeRun runId)
    return .done

def run (host : SecretHost) (b : SecretBroker) (calls : List SecretCall) : SecretBroker :=
  calls.foldl (fun b call => (perform host call b).2) b

def history (host : SecretHost) (b : SecretBroker) : List SecretCall → List SecretEvent
  | [] => []
  | call :: rest => ⟨call, (perform host call b).1⟩ :: history host (perform host call b).2 rest

/-- The lease a call asks for. -/
def requested (host : SecretHost) : SecretCall → Option SecretLease
  | .issue leaseId credential generation ttl now =>
    some (legacyLease host leaseId credential generation ttl (now + ttl))
  | .issueScoped request now => some (scopedLease host request (now + request.ttl))
  | _ => none

end SecretBroker
end Aworkit.Core
