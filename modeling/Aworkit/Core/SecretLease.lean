import Aworkit.Core.Secrets

/-! The safety of a lease from its issue to its end, over all calls. -/
namespace Aworkit.Core
open Protocol Fallible OrderedMap Hoare Std StableId Option Outcome

variable {credential : CredentialRef} {event : SecretEvent}

def redeems (leaseId : StableId) (event : SecretEvent) : Bool :=
  match event.call, event.answer with
  | .redeem id _ _, .ok _ => decide (id = leaseId)
  | .redeemScoped request _ _, .ok _ => decide (request.leaseId = leaseId)
  | _, _ => false

/-- A successful issue under the id of the lease. -/
def issues (leaseId : StableId) (event : SecretEvent) : Bool :=
  match event.call, event.answer with
  | .issue id _ _ _ _, .ok _ => decide (id = leaseId)
  | .issueScoped request _, .ok _ => decide (request.leaseId = leaseId)
  | _, _ => false

/-- What ends a lease: a revocation of it, its run or generation, a put or delete of its credential. -/
def ends (lease : SecretLease) (event : SecretEvent) : Bool :=
  match event.call, event.answer with
  | .revoke id, _ => decide (id = lease.leaseId)
  | .revokeRun runId, _ => decide (lease.runId = some runId)
  | .revokeGeneration generation, _ => decide (lease.audienceGeneration = generation)
  | .putCredential credential _ _, .ok _ => decide (lease.credential = credential)
  | .deleteCredential credential _, .ok _ => decide (lease.credential = credential)
  | _, _ => false

/-- A write of the lease's credential that was made but reported as failed. -/
def rewrites (lease : SecretLease) (event : SecretEvent) : Bool :=
  match event.call with
  | .putCredential credential _ (.unreported _) => decide (lease.credential = credential)
  | .deleteCredential credential (.unreported _) => decide (lease.credential = credential)
  | _ => false

/-- The call names the generation, decision and invocation of the lease, before its expiry. -/
def Names (lease : SecretLease) : SecretCall → Prop
  | .redeem _ generation now =>
    lease.audienceGeneration = generation ∧ lease.decisionId = none ∧ lease.invocationId = none ∧ now < lease.expiresAt
  | .redeemScoped request now _ =>
    lease.audienceGeneration = request.audienceGeneration ∧ lease.decisionId = some request.decisionId ∧
      lease.invocationId = some request.invocationId ∧ now < lease.expiresAt
  | _ => False

/-- The events up to the end of a lease. -/
def lifetime (lease : SecretLease) (events : List SecretEvent) : List SecretEvent :=
  events.takeWhile fun event => !ends lease event

/-- The events from the end of a lease up to the next issue under its id. -/
def afterwards (lease : SecretLease) (events : List SecretEvent) : List SecretEvent :=
  (events.dropWhile fun event => !ends lease event).takeWhile fun event => !issues lease.leaseId event

def delivered (event : SecretEvent) : SecretFields :=
  match event.answer with
  | .ok (.delivery fields) => fields
  | _ => ∅

/-- The values of the lease's permitted fields in a store, and no others. -/
def DeliversFrom (lease : SecretLease) (store : ExtTreeMap String SecretFields) (event : SecretEvent) : Prop :=
  ∀ (name : String) (value : List UInt8), (delivered event)[name]? = some value →
    name ∈ lease.permittedFields ∧ ∃ fields, store[lease.credential.val]? = some fields ∧ fields[name]? = some value

/-- The safety of a lease over the events after its issue. -/
structure LeaseSafe (lease : SecretLease) (store : ExtTreeMap String SecretFields) (events : List SecretEvent) :
    Prop where
  uses : (lifetime lease events).countP (redeems lease.leaseId) ≤ lease.remainingUses
  named : ∀ event ∈ lifetime lease events, redeems lease.leaseId event = true →
    Names lease event.call ∧ ∀ name ∈ delivered event, name ∈ lease.permittedFields
  version : ∀ event ∈ (lifetime lease events).takeWhile fun event => !rewrites lease event,
    redeems lease.leaseId event = true → DeliversFrom lease store event
  silent : ∀ event ∈ afterwards lease events, redeems lease.leaseId event = false

theorem subset_iff (names others : ExtTreeSet String) : subset names others = true ↔ ∀ name ∈ names, name ∈ others := by
  simp [subset, ExtTreeSet.mem_toList, ExtTreeSet.contains_iff_mem]

theorem select_ok (h : select fields names = .ok selected) (hvalue : selected[name]? = some value) :
    name ∈ names ∧ fields[name]? = some value := by
  have hkept := foldlM_keeps (fun (selected : SecretFields) (name : String) => (do
      let value ← require fields[name]? SecretError.fieldDenied
      return selected.insert name value : Except SecretError SecretFields))
    (fun done selected => ∀ name value, selected[name]? = some value →
      name ∈ done ∧ fields[name]? = some value) ?_ names.toList [] ∅ selected (by simp) h
  · obtain ⟨hmem, hfound⟩ := hkept name value hvalue
    exact ⟨ExtTreeSet.mem_toList.mp hmem, hfound⟩
  · intro done selected name next hdone hnext other found hfound
    simp only [passes] at hnext
    obtain ⟨value, hvalue, hnext⟩ := hnext
    cases hnext
    rcases found_insert hfound with ⟨rfl, rfl⟩ | ⟨_, hold⟩
    · exact ⟨List.mem_append_right _ List.mem_cons_self, hvalue⟩
    · obtain ⟨hmem, hold⟩ := hdone other found hold
      exact ⟨List.mem_append_left _ hmem, hold⟩

theorem forall_takeWhile_cons {α : Type} {p : α → Bool} {q : α → Prop} {a : α} {l : List α}
    (h : p a = true → q a ∧ ∀ b ∈ l.takeWhile p, q b) : ∀ b ∈ (a :: l).takeWhile p, q b := by
  by_cases hp : p a = true
  · rw [List.takeWhile_cons_of_pos hp, List.forall_mem_cons]
    exact h hp
  · rw [List.takeWhile_cons_of_neg hp]
    exact fun _ hb => absurd hb List.not_mem_nil

namespace SecretBroker
variable {host : SecretHost} {b : SecretBroker} {lease : SecretLease}

/-- Each lease is filed under its own id. -/
def Keyed (b : SecretBroker) : Prop := OrderedMap.Keyed (fun lease : SecretLease => lease.leaseId.val) b.leases

section
variable (b)

theorem revoke_leases (leaseId : StableId) :
    (b.revoke leaseId).leases = b.leases.erase leaseId.val := by
  unfold revoke
  split
  · rfl
  · rename_i h
    apply ExtTreeMap.ext_getElem?
    intro k
    by_cases hk : leaseId.val = k
    · subst hk
      rw [ExtTreeMap.getElem?_erase_self]
      exact ExtTreeMap.getElem?_eq_none fun hmem => h (ExtTreeMap.contains_iff_mem.mpr hmem)
    · rw [erase_ne _ hk]

theorem revoke_store (leaseId : StableId) : (b.revoke leaseId).store = b.store := by
  unfold revoke
  split <;> rfl

private theorem revokeAll_leases (ids : List StableId) (k : String) :
    (ids.foldl revoke b).leases[k]? = if k ∈ ids.map val then none else b.leases[k]? := by
  induction ids generalizing b with
  | nil => simp
  | cons id rest ih =>
    rw [List.foldl_cons, ih, revoke_leases]
    by_cases hk : id.val = k
    · subst hk
      simp
    · rw [erase_ne _ hk]
      simp [Ne.symm hk]

private theorem revokeAll_store (ids : List StableId) : (ids.foldl revoke b).store = b.store := by
  induction ids generalizing b with
  | nil => rfl
  | cons id rest ih => rw [List.foldl_cons, ih, revoke_store]

theorem revokeWhere_store (kind : SecretLease → Bool) : (b.revokeWhere kind).store = b.store :=
  revokeAll_store _ _

end

theorem revokeWhere_leases (h : b.Keyed) (kind : SecretLease → Bool) (k : String) :
    (b.revokeWhere kind).leases[k]? = b.leases[k]?.filter fun lease => !kind lease := by
  have hids : k ∈ (((values b.leases).filter kind).map SecretLease.leaseId).map val ↔
      ∃ lease, b.leases[k]? = some lease ∧ kind lease = true := by
    simp only [List.mem_map, List.mem_filter, exists_exists_and_eq_and]
    constructor
    · rintro ⟨lease, ⟨hmem, hkind⟩, rfl⟩
      exact ⟨lease, (h.mem_values lease).mp hmem, hkind⟩
    · rintro ⟨lease, hlease, hkind⟩
      exact ⟨lease, ⟨(mem_values _ _).mpr ⟨k, hlease⟩, hkind⟩, h k lease hlease⟩
  rw [revokeWhere, revokeAll_leases]
  cases hk : b.leases[k]? with
  | none => simp
  | some lease =>
    simp only [hids, hk, some.injEq, exists_eq_left', filter_some]
    cases kind lease <;> simp

/-- A write of the store that is made: the leases of its credential end. -/
def Written (b : SecretBroker) (credential : CredentialRef) (store : ExtTreeMap String SecretFields)
    (b' : SecretBroker) : Prop :=
  (∀ k : String, b'.leases[k]? = b.leases[k]?.filter fun lease => !(lease.credential == credential)) ∧ b'.store = store

/-- A write reported as failed leaves the leases; it may have been made. -/
def Unwritten (b : SecretBroker) (answer : StoreAnswer) (store : ExtTreeMap String SecretFields)
    (b' : SecretBroker) : Prop :=
  b'.leases = b.leases ∧ (b'.store = b.store ∨ (∃ e, answer = .unreported e) ∧ b'.store = store)

theorem putCredential_outcome (h : b.Keyed) (credential : CredentialRef) (fields : SecretFields)
    (answer : StoreAnswer) : Outcome (putCredential credential fields answer) b
      (fun _ => Written b credential (b.store.insert credential.val fields))
      fun _ => Unwritten b answer (b.store.insert credential.val fields) := by
  apply lift_bind (fun _ _ => ⟨rfl, .inl rfl⟩)
  intro _ _
  apply lift_bind (fun _ _ => ⟨rfl, .inl rfl⟩)
  intro _ _
  apply read_bind
  cases answer with
  | works =>
    apply update_bind
    apply update_bind
    apply update_bind
    constructor
    · intro k
      exact revokeWhere_leases (b := { b with store := b.store.insert credential.val fields }) h _ k
    · exact revokeWhere_store _ _
  | fails e => exact ⟨rfl, .inl rfl⟩
  | unreported e => exact ⟨rfl, .inr ⟨⟨e, rfl⟩, rfl⟩⟩

theorem deleteCredential_outcome (h : b.Keyed) (credential : CredentialRef) (answer : StoreAnswer) :
    Outcome (deleteCredential credential answer) b (fun _ => Written b credential (b.store.erase credential.val))
      fun _ => Unwritten b answer (b.store.erase credential.val) := by
  cases answer with
  | works =>
    apply Outcome.bind
    · apply read_bind
      apply lift_bind (fun _ _ => ⟨rfl, .inl rfl⟩)
      intro _ _
      show Outcome (Prog.update _) b (fun _ b' => b' = { b with store := b.store.erase credential.val }) _
      exact rfl
    · rintro _ _ rfl
      apply update_bind
      constructor
      · intro k
        exact revokeWhere_leases
          (b := { b with store := b.store.erase credential.val, metadata := b.metadata.erase credential.val }) h _ k
      · exact revokeWhere_store _ _
  | fails e => exact ⟨rfl, .inl rfl⟩
  | unreported e => exact ⟨rfl, .inr ⟨⟨e, rfl⟩, rfl⟩⟩

/-- A lease under the id is found again, else the lease is filed. -/
def Filed (b : SecretBroker) (lease found : SecretLease) (b' : SecretBroker) : Prop :=
  (b.leases[lease.leaseId.val]? = some found ∧ b' = b) ∨ (b.leases[lease.leaseId.val]? = none ∧ found = lease ∧
    b'.leases = b.leases.insert lease.leaseId.val lease ∧ b'.store = b.store)

theorem insertLease_outcome (lease : SecretLease) :
    Outcome (insertLease lease) b (Filed b lease) fun _ b' => b' = b := by
  apply read_bind
  cases hfound : b.leases[lease.leaseId.val]? with
  | some existing =>
    apply check_bind
    intro _ _
    exact .inl ⟨hfound, rfl⟩
  | none => exact .inr ⟨hfound, rfl, rfl, rfl⟩

theorem expiresAt_eq (h : require (host.checkedAdd now ttl) SecretError.expired = .ok expiresAt) :
    expiresAt = now + ttl := by
  rw [require_eq_ok, SecretHost.checkedAdd] at h
  split at h
  · exact (some.inj h).symm
  · cases h

theorem issue_outcome (leaseId : StableId) (credential : CredentialRef) (generation ttl now : Nat) :
    Outcome (issue host leaseId credential generation ttl now) b
      (Filed b (legacyLease host leaseId credential generation ttl (now + ttl))) fun _ b' => b' = b := by
  apply check_bind
  intro expiresAt hexpires
  apply check_bind
  intro _ _
  rw [expiresAt_eq hexpires]
  exact insertLease_outcome _

theorem issueScoped_outcome (request : ScopedLeaseRequestV1) (now : Nat) : Outcome (issueScoped host request now) b
    (Filed b (scopedLease host request (now + request.ttl))) fun _ b' => b' = b := by
  apply check_bind
  intro _ _
  apply check_bind
  intro _ _
  apply read_bind
  apply check_bind
  intro metadata _
  apply check_bind
  intro _ _
  apply check_bind
  intro expiresAt hexpires
  rw [expiresAt_eq hexpires]
  exact insertLease_outcome _

/-- The checks a use of a lease has passed, and the use it has taken. -/
structure Validated (b b' : SecretBroker) (leaseId : StableId) (generation : Nat)
    (decisionId invocationId : Option StableId)
    (fields : ExtTreeSet String) (now : Nat) (found : SecretLease) : Prop where
  lookup : b.leases[leaseId.val]? = some found
  live : now < found.expiresAt
  left : 0 < found.remainingUses
  audience : found.audienceGeneration = generation
  decision : found.decisionId = decisionId
  invocation : found.invocationId = invocationId
  permitted : ∀ name ∈ fields, name ∈ found.permittedFields
  taken : b'.leases = b.leases.insert leaseId.val { found with remainingUses := found.remainingUses - 1 }
  store : b'.store = b.store

theorem validateLease_outcome (leaseId : StableId) (generation : Nat) (decisionId invocationId : Option StableId)
    (fields : ExtTreeSet String) (now : Nat) :
    Outcome (validateLease leaseId generation decisionId invocationId fields now) b
      (fun answer b' => ∃ found, Validated b b' leaseId generation decisionId invocationId fields now found ∧
        answer = { found with remainingUses := found.remainingUses - 1 })
      fun _ b' => b'.leases = b.leases ∧ b'.store = b.store := by
  apply read_bind
  apply lift_bind (fun _ _ => ⟨rfl, rfl⟩)
  intro found hfound
  rw [require_eq_ok] at hfound
  split
  · exact ⟨rfl, rfl⟩
  · rename_i hlive
    apply lift_bind (fun _ _ => ⟨rfl, rfl⟩)
    intro _ hleft
    apply lift_bind (fun _ _ => ⟨rfl, rfl⟩)
    intro _ hgeneration
    apply lift_bind (fun _ _ => ⟨rfl, rfl⟩)
    intro _ hinvocation
    apply lift_bind (fun _ _ => ⟨rfl, rfl⟩)
    intro _ hpermitted
    simp only [refuseIf_eq_ok, beq_eq_false_iff_ne, unmet, subset_iff] at hleft hgeneration hinvocation hpermitted
    exact ⟨found, ⟨hfound, Nat.lt_of_not_le hlive, Nat.pos_of_ne_zero hleft, hgeneration, hinvocation.1, hinvocation.2,
      hpermitted, rfl, rfl⟩, rfl⟩

theorem redeem_outcome (leaseId : StableId) (generation now : Nat) :
    Outcome (redeem leaseId generation now) b
      (fun _ b' => ∃ found, Validated b b' leaseId generation none none ∅ now found)
      fun _ b' => b'.leases = b.leases ∧ b'.store = b.store := by
  apply bind (validateLease_outcome leaseId generation none none ∅ now)
  rintro _ b' ⟨found, hvalid, _⟩
  exact ⟨found, hvalid⟩

/-- A scoped redemption that fails after its checks has still taken a use. -/
theorem redeemScoped_outcome (request : RedeemLeaseRequestV1) (now : Nat) (answer : StoreAnswer) :
    Outcome (redeemScoped request now answer) b
      (fun fields b' => ∃ found, Validated b b' request.leaseId request.audienceGeneration (some request.decisionId)
        (some request.invocationId) request.requestedFields now found ∧
        ∃ secret, b.store[found.credential.val]? = some secret ∧ select secret request.requestedFields = .ok fields)
      fun _ b' => (b'.leases = b.leases ∧ b'.store = b.store) ∨
        ∃ found, Validated b b' request.leaseId request.audienceGeneration (some request.decisionId)
          (some request.invocationId) request.requestedFields now found := by
  apply Outcome.bind
  · apply (validateLease_outcome _ _ _ _ _ _).conseq (fun _ _ => id)
    intro _ _ h
    exact .inl h
  rintro _ b' ⟨found, hvalid, rfl⟩
  cases answer with
  | works =>
    apply lift_bind (fun _ _ => .inr ⟨found, hvalid⟩)
    intro secret hsecret
    rw [require_eq_ok, hvalid.store] at hsecret
    apply lift
    · intro _ _
      exact .inr ⟨found, hvalid⟩
    · intro fields hfields
      exact ⟨found, hvalid, secret, hsecret, hfields⟩
  | fails e | unreported e => exact .inr ⟨found, hvalid⟩

theorem insertLease_fresh (lease : SecretLease) (h : b.leases[lease.leaseId.val]? = none) :
    insertLease lease b =
      (.ok lease, { b.note lease.leaseId .issued with leases := b.leases.insert lease.leaseId.val lease }) := by
  unfold insertLease
  simp only [Bind.bind, Prog.read, h]
  rfl

variable {leaseId : StableId} {found : SecretLease} {b' : SecretBroker}
  {store store' : ExtTreeMap String SecretFields}

theorem validateLease_accepts {fields : ExtTreeSet String} {now : Nat}
    (hlookup : b.leases[leaseId.val]? = some found) (hlive : now < found.expiresAt) (hleft : 0 < found.remainingUses)
    (hpermitted : subset fields found.permittedFields = true) :
    validateLease leaseId found.audienceGeneration found.decisionId found.invocationId fields now b =
      (.ok { found with remainingUses := found.remainingUses - 1 },
        { b with leases := b.leases.insert leaseId.val { found with remainingUses := found.remainingUses - 1 } }.note
          leaseId .redeemed) := by
  apply (Prog.run_lift ((require_eq_ok ..).mpr hlookup)).trans
  rw [if_neg (Nat.not_le_of_lt hlive)]
  apply (Prog.run_lift ((refuseIf_eq_ok _ _ ()).mpr (beq_false_of_ne (Nat.ne_of_gt hleft)))).trans
  apply (Prog.run_lift ((refuseIf_eq_ok _ _ ()).mpr (bne_self_eq_false _))).trans
  apply (Prog.run_lift ((refuseIf_eq_ok _ _ ()).mpr (by rw [bne_self_eq_false, bne_self_eq_false]; rfl))).trans
  apply (Prog.run_lift ((refuseIf_eq_ok _ _ ()).mpr (congrArg not hpermitted))).trans
  rfl

/-- What a call can do to the table: leave it, revoke leases, file a new one, or take a use of one. -/
inductive Moves (b b' : SecretBroker) (event : SecretEvent) : Prop
  | same (hleases : b'.leases = b.leases) (hends : ∀ lease, ends lease event = false)
      (hredeems : ∀ leaseId, redeems leaseId event = false)
      (hstore : ∀ lease : SecretLease, rewrites lease event = false →
        b'.store[lease.credential.val]? = b.store[lease.credential.val]?)
  | revoked (kind : SecretLease → Bool)
      (hleases : ∀ k : String, b'.leases[k]? = b.leases[k]?.filter fun lease => !kind lease)
      (hends : ∀ lease, ends lease event = kind lease) (hredeems : ∀ leaseId, redeems leaseId event = false)
      (hstore : ∀ lease : SecretLease, kind lease = false →
        b'.store[lease.credential.val]? = b.store[lease.credential.val]?)
  | issued (new : SecretLease) (hnone : b.leases[new.leaseId.val]? = none)
      (hleases : b'.leases = b.leases.insert new.leaseId.val new) (hissues : issues new.leaseId event = true)
      (hends : ∀ lease, ends lease event = false) (hredeems : ∀ leaseId, redeems leaseId event = false)
      (hstore : b'.store = b.store)
  | used (leaseId : StableId) (found : SecretLease) (hlookup : b.leases[leaseId.val]? = some found)
      (hleft : 0 < found.remainingUses)
      (hleases : b'.leases = b.leases.insert leaseId.val { found with remainingUses := found.remainingUses - 1 })
      (hends : ∀ lease, ends lease event = false) (hredeems : ∀ other, leaseId ≠ other → redeems other event = false)
      (hnames : Names found event.call) (hdelivers : DeliversFrom found b.store event) (hstore : b'.store = b.store)

theorem Written.moves (h : Written b credential store b')
    (hends : ∀ lease, ends lease event = decide (lease.credential = credential))
    (hredeems : ∀ leaseId, redeems leaseId event = false)
    (hstore : ∀ k : String, credential.val ≠ k → store[k]? = b.store[k]?) : Moves b b' event := by
  apply Moves.revoked (fun lease => lease.credential == credential) h.1 _ hredeems
  · intro lease hother
    rw [h.2]
    apply hstore
    intro heq
    rw [val_injective heq, beq_self_eq_true] at hother
    cases hother
  · intro lease
    rw [hends, beq_eq_decide]

theorem Unwritten.moves {answer : StoreAnswer} (h : Unwritten b answer store b')
    (hends : ∀ lease, ends lease event = false) (hredeems : ∀ leaseId, redeems leaseId event = false)
    (hrewrites : ∀ lease e, answer = .unreported e → rewrites lease event = decide (lease.credential = credential))
    (hstore : ∀ k : String, credential.val ≠ k → store[k]? = b.store[k]?) : Moves b b' event := by
  apply Moves.same h.1 hends hredeems
  intro lease hkept
  rcases h.2 with hsame | ⟨⟨e, he⟩, hwritten⟩
  · rw [hsame]
  · rw [hrewrites lease e he] at hkept
    rw [hwritten]
    apply hstore
    intro heq
    exact of_decide_eq_false hkept (val_injective heq.symm)

theorem Filed.moves (h : Filed b lease found b') (hissues : issues lease.leaseId event = true)
    (hends : ∀ lease, ends lease event = false) (hredeems : ∀ leaseId, redeems leaseId event = false) :
    Moves b b' event := by
  rcases h with ⟨_, rfl⟩ | ⟨hnone, rfl, hleases, hstore⟩
  · exact .same rfl hends hredeems fun _ _ => rfl
  · exact .issued found hnone hleases hissues hends hredeems hstore

theorem Moves.of_validated (hvalid : Validated b b' leaseId generation decisionId invocationId fields now found)
    (hends : ∀ lease, ends lease event = false) (hredeems : ∀ other, leaseId ≠ other → redeems other event = false)
    (hnames : Names found event.call) (hdelivers : DeliversFrom found b.store event) : Moves b b' event :=
  .used leaseId found hvalid.lookup hvalid.left hvalid.taken hends hredeems hnames hdelivers hvalid.store

theorem DeliversFrom.of_nothing (h : delivered event = ∅) : DeliversFrom lease store event := by
  intro name value hdelivered
  rw [h, ExtTreeMap.getElem?_empty] at hdelivered
  cases hdelivered

theorem revoke_filter (h : b.Keyed) (leaseId : StableId) (k : String) :
    (b.revoke leaseId).leases[k]? = b.leases[k]?.filter fun lease => !decide (leaseId = lease.leaseId) := by
  rw [revoke_leases]
  by_cases hk : leaseId.val = k
  · subst hk
    rw [ExtTreeMap.getElem?_erase_self]
    cases hfound : b.leases[leaseId.val]? with
    | none => rfl
    | some found =>
      have hid : found.leaseId = leaseId := val_injective (h _ _ hfound)
      rw [filter_some, decide_eq_true hid.symm]
      rfl
  · rw [erase_ne _ hk]
    cases hfound : b.leases[k]? with
    | none => rfl
    | some found =>
      have hid : leaseId ≠ found.leaseId := fun heq => hk (heq ▸ h _ _ hfound)
      rw [filter_some, decide_eq_false hid]
      rfl

/-- Each call is one of these moves. -/
theorem perform_moves (hkeyed : b.Keyed) (call : SecretCall) :
    Moves b (perform host call b).2 ⟨call, (perform host call b).1⟩ := by
  apply @Outcome.result _ _ _ _ _ fun answer b' => Moves b b' ⟨call, answer⟩
  cases call with
  | putCredential credential fields answer =>
    apply bind ((putCredential_outcome hkeyed credential fields answer).refail _)
    · exact fun _ b' h => h.moves (fun _ => rfl) (fun _ => rfl) fun _ => insert_ne _ _
    · intro e b' h
      refine h.moves (fun _ => rfl) (fun _ => rfl) ?_ fun _ => insert_ne _ _
      rintro _ _ rfl
      rfl
  | deleteCredential credential answer =>
    apply bind ((deleteCredential_outcome hkeyed credential answer).refail _)
    · exact fun _ b' h => h.moves (fun _ => rfl) (fun _ => rfl) fun _ => erase_ne _
    · intro e b' h
      refine h.moves (fun _ => rfl) (fun _ => rfl) ?_ fun _ => erase_ne _
      rintro _ _ rfl
      rfl
  | issue leaseId credential generation ttl now =>
    apply bind ((issue_outcome leaseId credential generation ttl now).refail _)
    · exact fun found b' h => h.moves (decide_eq_true rfl) (fun _ => rfl) fun _ => rfl
    · rintro e _ rfl
      exact .same rfl (fun _ => rfl) (fun _ => rfl) fun _ _ => rfl
  | issueScoped request now =>
    apply bind ((issueScoped_outcome request now).refail _)
    · exact fun found b' h => h.moves (decide_eq_true rfl) (fun _ => rfl) fun _ => rfl
    · rintro e _ rfl
      exact .same rfl (fun _ => rfl) (fun _ => rfl) fun _ _ => rfl
  | redeem leaseId generation now =>
    apply bind ((redeem_outcome leaseId generation now).refail _)
    · rintro _ b' ⟨found, hvalid⟩
      apply Moves.of_validated hvalid (fun _ => rfl) (fun _ => decide_eq_false)
      · exact ⟨hvalid.audience, hvalid.decision, hvalid.invocation, hvalid.live⟩
      · exact DeliversFrom.of_nothing rfl
    · rintro e b' ⟨hleases, hstore⟩
      exact .same hleases (fun _ => rfl) (fun _ => rfl) fun _ _ => by rw [hstore]
  | redeemScoped request now answer =>
    apply bind ((redeemScoped_outcome request now answer).refail _)
    · rintro fields b' ⟨found, hvalid, secret, hsecret, hfields⟩
      apply Moves.of_validated hvalid (fun _ => rfl) (fun _ => decide_eq_false)
      · exact ⟨hvalid.audience, hvalid.decision, hvalid.invocation, hvalid.live⟩
      · intro name value hdelivered
        obtain ⟨hname, hvalue⟩ := select_ok hfields hdelivered
        exact ⟨hvalid.permitted name hname, secret, hsecret, hvalue⟩
    · rintro e b' (⟨hleases, hstore⟩ | ⟨found, hvalid⟩)
      · exact .same hleases (fun _ => rfl) (fun _ => rfl) fun _ _ => by rw [hstore]
      · apply Moves.of_validated hvalid (fun _ => rfl) (fun _ _ => rfl)
        · exact ⟨hvalid.audience, hvalid.decision, hvalid.invocation, hvalid.live⟩
        · exact DeliversFrom.of_nothing rfl
  | revoke leaseId =>
    apply Moves.revoked _ (revoke_filter hkeyed leaseId) (fun _ => rfl) (fun _ => rfl)
    intro lease _
    exact congrArg (·[lease.credential.val]?) (revoke_store _ _)
  | revokeGeneration generation | revokeRun runId =>
    refine .revoked _ (revokeWhere_leases hkeyed _) (fun _ => (beq_eq_decide ..).symm) (fun _ => rfl) fun lease _ => ?_
    exact congrArg (·[lease.credential.val]?) (revokeWhere_store _ _)

theorem Moves.keyed (hkeyed : b.Keyed) (h : Moves b b' event) : b'.Keyed := by
  cases h with
  | same hleases =>
    unfold Keyed
    rw [hleases]
    exact hkeyed
  | revoked kind hleases =>
    intro k found hfound
    rw [hleases, filter_eq_some_iff] at hfound
    exact hkeyed k found hfound.1
  | issued new hnone hleases =>
    unfold Keyed
    rw [hleases]
    exact OrderedMap.Keyed.insert hkeyed rfl
  | used leaseId found hlookup hleft hleases =>
    unfold Keyed
    rw [hleases]
    obtain rfl : found.leaseId = leaseId := val_injective (hkeyed _ _ hlookup)
    exact OrderedMap.Keyed.insert hkeyed rfl

theorem run_keyed (calls : List SecretCall) (hkeyed : b.Keyed) : (run host b calls).Keyed := by
  induction calls generalizing b with
  | nil => exact hkeyed
  | cons call rest ih => exact ih ((perform_moves hkeyed call).keyed hkeyed)

/-- A lease not in the table cannot be redeemed; only an issue brings it back. -/
theorem Moves.absent (h : Moves b b' event) (hnone : b.leases[leaseId.val]? = none) :
    redeems leaseId event = false ∧ (issues leaseId event = false → b'.leases[leaseId.val]? = none) := by
  cases h with
  | same hleases _ hredeems =>
    refine ⟨hredeems _, fun _ => ?_⟩
    rw [hleases, hnone]
  | revoked kind hleases _ hredeems =>
    refine ⟨hredeems _, fun _ => ?_⟩
    rw [hleases, hnone, filter_none]
  | issued new _ hleases hissues _ hredeems =>
    refine ⟨hredeems _, fun hother => ?_⟩
    rw [hleases, insert_ne, hnone]
    intro heq
    rw [val_injective heq, hother] at hissues
    cases hissues
  | used other found hlookup _ hleases _ hredeems =>
    have hne : other ≠ leaseId := by
      rintro rfl
      rw [hlookup] at hnone
      cases hnone
    refine ⟨hredeems _ hne, fun _ => ?_⟩
    rw [hleases, insert_ne _ _ fun heq => hne (val_injective heq), hnone]

/-- Until an issue under its id, a lease not in the table is never redeemed. -/
theorem absent_silent (later : List SecretCall) (hkeyed : b.Keyed) (hnone : b.leases[leaseId.val]? = none) :
    ∀ event ∈ (history host b later).takeWhile fun event => !issues leaseId event, redeems leaseId event = false := by
  induction later generalizing b with
  | nil => exact fun _ hevent => absurd hevent List.not_mem_nil
  | cons call rest ih =>
    have hmoves := @perform_moves host _ hkeyed call
    obtain ⟨hredeems, hstays⟩ := hmoves.absent hnone
    refine forall_takeWhile_cons fun hissues => ⟨hredeems, ?_⟩
    exact ih (hmoves.keyed hkeyed) (hstays ((Bool.not_eq_true' _).mp hissues))

/-- A call ends a lease in the table, leaves it, or takes one of its uses. -/
inductive Treated (lease : SecretLease) (b b' : SecretBroker) (event : SecretEvent) : Prop
  | ended (hgone : b'.leases[lease.leaseId.val]? = none) (hends : ends lease event = true)
      (hredeems : redeems lease.leaseId event = false)
  | kept (hkept : b'.leases[lease.leaseId.val]? = some lease) (hends : ends lease event = false)
      (hredeems : redeems lease.leaseId event = false)
      (hstore : rewrites lease event = false → b'.store[lease.credential.val]? = b.store[lease.credential.val]?)
  | used (hused : b'.leases[lease.leaseId.val]? = some { lease with remainingUses := lease.remainingUses - 1 })
      (hleft : 0 < lease.remainingUses) (hends : ends lease event = false) (hnames : Names lease event.call)
      (hdelivers : DeliversFrom lease b.store event) (hstore : b'.store = b.store)

theorem Moves.treated (h : Moves b b' event)
    (hlease : b.leases[lease.leaseId.val]? = some lease) : Treated lease b b' event := by
  cases h with
  | same hleases hends hredeems hstore =>
    apply Treated.kept _ (hends _) (hredeems _) (hstore lease)
    rw [hleases, hlease]
  | revoked kind hleases hends hredeems hstore =>
    have hleft := hleases lease.leaseId.val
    rw [hlease, filter_some] at hleft
    cases hkind : kind lease with
    | true =>
      rw [hkind] at hleft
      exact .ended hleft ((hends lease).trans hkind) (hredeems _)
    | false =>
      rw [hkind] at hleft
      exact .kept hleft ((hends lease).trans hkind) (hredeems _) fun _ => hstore lease hkind
  | issued new hnone hleases _ hends hredeems hstore =>
    apply Treated.kept _ (hends _) (hredeems _)
    · intro _
      rw [hstore]
    · rw [hleases]
      exact insert_fresh new hnone hlease
  | used leaseId found hlookup hleft hleases hends hredeems hnames hdelivers hstore =>
    by_cases hid : leaseId = lease.leaseId
    · subst hid
      obtain rfl := some.inj (hlease.symm.trans hlookup)
      apply Treated.used _ hleft (hends _) hnames hdelivers hstore
      rw [hleases, ExtTreeMap.getElem?_insert_self]
    · apply Treated.kept _ (hends _) (hredeems _ hid)
      · intro _
        rw [hstore]
      · rw [hleases, insert_ne _ _ fun heq => hid (val_injective heq), hlease]

end SecretBroker

section Events
variable {lease : SecretLease} {events : List SecretEvent}

theorem DeliversFrom.congr (h : DeliversFrom lease store' event)
    (hstore : store'[lease.credential.val]? = store[lease.credential.val]?) : DeliversFrom lease store event := by
  intro name value hvalue
  rw [← hstore]
  exact h name value hvalue

theorem DeliversFrom.permitted (h : DeliversFrom lease store event) (hname : name ∈ delivered event) :
    name ∈ lease.permittedFields :=
  (h name _ (ExtTreeMap.getElem?_eq_some_getElem hname)).1

theorem lifetime_cons (hends : ends lease event = false) :
    lifetime lease (event :: events) = event :: lifetime lease events := by
  rw [lifetime, List.takeWhile_cons_of_pos]
  · rfl
  · rw [hends]
    rfl

private theorem afterwards_cons (hends : ends lease event = false) :
    afterwards lease (event :: events) = afterwards lease events := by
  rw [afterwards, List.dropWhile_cons_of_pos]
  · rfl
  · rw [hends]
    rfl

/-- Of a lease that is over only the silence is left to show. -/
theorem LeaseSafe.ended (hover : lifetime lease events = [])
    (hsilent : ∀ event ∈ afterwards lease events, redeems lease.leaseId event = false) :
    LeaseSafe lease store events := by
  refine ⟨?_, ?_, ?_, hsilent⟩ <;> simp [hover]

/-- An event that does not end the lease, with at most one of its uses taken. -/
theorem LeaseSafe.cons {uses : Nat} (h : LeaseSafe { lease with remainingUses := uses } store' events)
    (hends : ends lease event = false)
    (huses : uses + (if redeems lease.leaseId event then 1 else 0) ≤ lease.remainingUses)
    (hused : redeems lease.leaseId event = true → Names lease event.call ∧ DeliversFrom lease store event)
    (hstore : rewrites lease event = false → store'[lease.credential.val]? = store[lease.credential.val]?) :
    LeaseSafe lease store (event :: events) where
  uses := by
    rw [lifetime_cons hends, List.countP_cons]
    exact (Nat.add_le_add_right h.uses _).trans huses
  named := by
    rw [lifetime_cons hends, List.forall_mem_cons]
    exact ⟨fun hredeems => ⟨(hused hredeems).1, fun _ => (hused hredeems).2.permitted⟩, h.named⟩
  version := by
    rw [lifetime_cons hends]
    refine forall_takeWhile_cons fun hkept => ⟨fun hredeems => (hused hredeems).2, fun other hother hredeems => ?_⟩
    exact (h.version other hother hredeems).congr (hstore ((Bool.not_eq_true' _).mp hkept))
  silent := by
    rw [afterwards_cons hends]
    exact h.silent

theorem LeaseSafe.cons_ended (hends : ends lease event = true) (hredeems : redeems lease.leaseId event = false)
    (hsilent : ∀ event ∈ events.takeWhile fun event => !issues lease.leaseId event,
      redeems lease.leaseId event = false) : LeaseSafe lease store (event :: events) := by
  apply ended
  · rw [lifetime, List.takeWhile_cons, hends]
    rfl
  · rw [afterwards, List.dropWhile_cons_of_neg (by simp [hends])]
    exact forall_takeWhile_cons fun _ => ⟨hredeems, hsilent⟩

end Events

namespace SecretBroker
variable {host : SecretHost} {b : SecretBroker} {lease : SecretLease}

theorem held_safe (later : List SecretCall) (hkeyed : b.Keyed) (hlease : b.leases[lease.leaseId.val]? = some lease) :
    LeaseSafe lease b.store (history host b later) := by
  induction later generalizing b lease with
  | nil => exact .ended rfl fun _ hevent => absurd hevent List.not_mem_nil
  | cons call rest ih =>
    have hmoves := @perform_moves host _ hkeyed call
    rw [history]
    cases hmoves.treated hlease with
    | ended hgone hends hredeems =>
      exact .cons_ended hends hredeems (absent_silent rest (hmoves.keyed hkeyed) hgone)
    | kept hkept hends hredeems hstore =>
      refine (ih (hmoves.keyed hkeyed) hkept).cons hends ?_ (fun hused => ?_) hstore
      · rw [hredeems]
        exact Nat.le_refl _
      · cases hredeems.symm.trans hused
    | used hused hleft hends hnames hdelivers hstore =>
      have hlater := @ih _ { lease with remainingUses := lease.remainingUses - 1 } (hmoves.keyed hkeyed) hused
      refine hlater.cons hends ?_ (fun _ => ⟨hnames, hdelivers⟩) fun _ => by rw [hstore]
      split <;> omega

theorem Filed.stored (h : Filed b lease found b') (hnone : b.leases[lease.leaseId.val]? = none) :
    b'.leases[lease.leaseId.val]? = some lease ∧ b'.store = b.store := by
  rcases h with ⟨hfound, _⟩ | ⟨_, rfl, hleases, hstore⟩
  · cases hnone.symm.trans hfound
  · refine ⟨?_, hstore⟩
    rw [hleases]
    exact ExtTreeMap.getElem?_insert_self

private theorem perform_issued (hrequested : requested host call = some lease)
    (hnone : b.leases[lease.leaseId.val]? = none) (hanswer : (perform host call b).1 = .ok answer) :
    (perform host call b).2.leases[lease.leaseId.val]? = some lease ∧ (perform host call b).2.store = b.store := by
  have hinserted : Outcome (perform host call) b
      (fun _ b' => b'.leases[lease.leaseId.val]? = some lease ∧ b'.store = b.store) fun _ _ => True := by
    cases call with
    | issue leaseId credential generation ttl now =>
      cases hrequested
      apply bind
        ((issue_outcome leaseId credential generation ttl now).refail fun _ _ _ => trivial)
      exact fun found b' h => h.stored hnone
    | issueScoped request now =>
      cases hrequested
      apply bind ((issueScoped_outcome request now).refail fun _ _ _ => trivial)
      exact fun found b' h => h.stored hnone
    | _ => cases hrequested
  have hresult := @Outcome.result _ _ _ _ _ (fun answer b' => ∀ lease', answer = .ok lease' →
    b'.leases[lease.leaseId.val]? = some lease ∧ b'.store = b.store) (hinserted.conseq (fun _ _ h _ _ => h) nofun)
  exact hresult answer hanswer

/-- From its issue to its end a lease is redeemed at most as often as its uses; each redemption names the exact
generation, decision and invocation before the expiry and hands out permitted fields only, with their values at the issue
unless a write was made but reported as failed. After the end there is none until the id is issued anew. -/
theorem issued_lease_safe (host : SecretHost) (start : SecretBroker) (hstart : start.leases = ∅)
    (before later : List SecretCall) (call : SecretCall) (lease : SecretLease) (answer : SecretAnswer)
    (hrequested : requested host call = some lease) (hnew : (run host start before).leases[lease.leaseId.val]? = none)
    (hissued : (perform host call (run host start before)).1 = .ok answer) :
    LeaseSafe lease (run host start before).store
      (history host (perform host call (run host start before)).2 later) := by
  have hkeyed : (run host start before).Keyed := by
    apply run_keyed
    intro k found hfound
    rw [hstart, ExtTreeMap.getElem?_empty] at hfound
    cases hfound
  obtain ⟨hfiled, hstore⟩ := perform_issued hrequested hnew hissued
  rw [← hstore]
  exact held_safe later ((perform_moves hkeyed call).keyed hkeyed) hfiled

section Sample
variable (digest : LeaseIdentity → Sha256Digest) (runId : StableId)

def sampleHost : SecretHost := ⟨digest, 1000⟩

def sampleCredential : CredentialRef := ⟨"credential", by decide⟩

def sampleNames : ExtTreeSet String := ExtTreeSet.ofList ["token"]

variable (value : UInt8)

def sampleFields : SecretFields := (∅ : SecretFields).insert "token" [value]

/-- A broker with one credential of one field, and its leases. -/
def sampleBroker (leases : ExtTreeMap String SecretLease) (audit : List SecretLeaseAuditV1) : SecretBroker where
  store := (∅ : ExtTreeMap String SecretFields).insert sampleCredential.val (sampleFields value)
  metadata := (∅ : ExtTreeMap String CredentialMetadataV1).insert sampleCredential.val
    ⟨sampleCredential, sampleNames, 1⟩
  leases := leases
  audit := audit

def sampleRequest : ScopedLeaseRequestV1 where
  leaseId := ⟨"lease", by decide⟩
  credential := sampleCredential
  decisionId := ⟨"decision", by decide⟩
  invocationId := ⟨"invocation", by decide⟩
  runId := runId
  audienceGeneration := 1
  permittedFields := sampleNames
  ttl := 10
  maximumUses := 2

def sampleLease : SecretLease := scopedLease (sampleHost digest) (sampleRequest runId) 10

def sampleRedemption : RedeemLeaseRequestV1 where
  leaseId := ⟨"lease", by decide⟩
  decisionId := ⟨"decision", by decide⟩
  invocationId := ⟨"invocation", by decide⟩
  audienceGeneration := 1
  requestedFields := sampleNames

def sampleIssued : SecretBroker :=
  sampleBroker value ((∅ : ExtTreeMap String SecretLease).insert "lease" (sampleLease digest runId))
    [⟨⟨"lease", by decide⟩, .issued⟩]

private theorem sample_issues : perform (sampleHost digest) (.issueScoped (sampleRequest runId) 0) (sampleBroker 1 ∅ []) =
    (.ok (.lease (sampleLease digest runId)), sampleIssued digest runId 1) := by
  have hfields : validateFields sampleNames.toList = .ok () := by decide +kernel
  have hsubset : subset sampleNames sampleNames = true := by decide +kernel
  have hmetadata : (sampleBroker 1 ∅ []).metadata[sampleCredential.val]? = some ⟨sampleCredential, sampleNames, 1⟩ :=
    ExtTreeMap.getElem?_insert_self
  apply Prog.run_bind
  apply (Prog.run_lift rfl).trans
  apply (Prog.run_lift hfields).trans
  show (Prog.lift _ >>= _) _ = _
  apply (Prog.run_lift ((require_eq_ok ..).mpr hmetadata)).trans
  apply (Prog.run_lift ((refuseIf_eq_ok _ _ ()).mpr (congrArg not hsubset))).trans
  apply (Prog.run_lift rfl).trans
  exact insertLease_fresh (sampleLease digest runId) ExtTreeMap.getElem?_empty

private theorem sample_selects : select (sampleFields value) sampleNames = .ok (sampleFields value) := rfl

private theorem sample_redeems :
    (perform (sampleHost digest) (.redeemScoped sampleRedemption 5 .works) (sampleIssued digest runId value)).1 =
      .ok (.delivery (sampleFields value)) := by
  have hsubset : subset sampleNames sampleNames = true := by decide +kernel
  have hstored : (sampleIssued digest runId value).store[sampleCredential.val]? = some (sampleFields value) :=
    ExtTreeMap.getElem?_insert_self
  have hvalid := @validateLease_accepts (sampleIssued digest runId value) sampleRedemption.leaseId
    (sampleLease digest runId) sampleNames 5 ExtTreeMap.getElem?_insert_self
    (by decide : 5 < 10) (by decide : 0 < 2) hsubset
  have hredeemed := Prog.run_bind (k := fun lease => do
      let secret ← storeRetrieve .works lease.credential
      Prog.lift (select secret sampleNames)) hvalid
  have hdelivered := hredeemed.trans (Prog.run_lift ((require_eq_ok ..).mpr hstored))
  rw [sample_selects] at hdelivered
  exact congrArg Prod.fst (Prog.run_bind hdelivered)

/-- A put made but reported as failed replaces the value and keeps the lease. -/
private theorem sample_rewrites : perform (sampleHost digest)
    (.putCredential sampleCredential (sampleFields 2) (.unreported .storeUnavailable)) (sampleIssued digest runId 1) =
      (.error .storeUnavailable, sampleIssued digest runId 2) := rfl

/-- A redemption names no run, so one request redeems a lease of every run; and a put reported as failed although made
gives a lease the next version's fields. -/
theorem redemption_of_any_run_and_next_version :
    (∀ digest runId, (perform (sampleHost digest) (.redeemScoped sampleRedemption 5 .works)
      (run (sampleHost digest) (sampleBroker 1 ∅ []) [.issueScoped (sampleRequest runId) 0])).1 =
        .ok (.delivery (sampleFields 1))) ∧
    ∀ digest runId, (perform (sampleHost digest) (.redeemScoped sampleRedemption 5 .works)
      (run (sampleHost digest) (sampleBroker 1 ∅ []) [.issueScoped (sampleRequest runId) 0,
        .putCredential sampleCredential (sampleFields 2) (.unreported .storeUnavailable)])).1 =
        .ok (.delivery (sampleFields 2)) := by
  simp only [run, List.foldl_cons, List.foldl_nil, sample_issues, sample_rewrites]
  exact ⟨fun digest runId => sample_redeems digest runId 1, fun digest runId => sample_redeems digest runId 2⟩

/-- A lease that is redeemed, revoked and asked for again. -/
theorem sample_lease_safe :
    (∀ digest runId, (perform (sampleHost digest) (.issueScoped (sampleRequest runId) 0) (sampleBroker 1 ∅ [])).1 =
      .ok (.lease (sampleLease digest runId))) ∧ ∀ digest runId,
    LeaseSafe (sampleLease digest runId) (sampleBroker 1 ∅ []).store
      (history (sampleHost digest) (sampleIssued digest runId 1)
        [.redeemScoped sampleRedemption 5 .works, .revoke sampleRedemption.leaseId,
          .redeemScoped sampleRedemption 6 .works]) := by
  refine ⟨fun digest runId => congrArg Prod.fst (sample_issues digest runId), fun digest runId => ?_⟩
  have hsafe := issued_lease_safe (sampleHost digest) (sampleBroker 1 ∅ []) rfl []
    [.redeemScoped sampleRedemption 5 .works, .revoke sampleRedemption.leaseId, .redeemScoped sampleRedemption 6 .works]
    (.issueScoped (sampleRequest runId) 0) (sampleLease digest runId) (.lease (sampleLease digest runId)) rfl
    ExtTreeMap.getElem?_empty (congrArg Prod.fst (sample_issues digest runId))
  rw [run, List.foldl_nil, sample_issues] at hsafe
  exact hsafe

end Sample
end SecretBroker
end Aworkit.Core
