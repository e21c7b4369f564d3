import Mathlib.Data.List.Sort
import Aworkit.Worker.Policy

/-! Histories of the attempt ledger: what a decision may do, what every history keeps, and when a decision or
checkpoint contradicts the bars. -/
namespace Aworkit.Worker
open Protocol Fallible OrderedMap List UInt32 AttemptLedger
open Std (ExtTreeMap ExtTreeSet)

namespace AttemptLedger

variable {input : AttemptInputV1} {read : ExtTreeMap String AttemptRecordV1 × OrdinalTable} {id : String}

/-- A step of a history: a decision, or a checkpoint that is restored. -/
inductive Call where
  | decide (policy : AttemptPolicyV1) (input : AttemptInputV1)
  | reload

/-- The ledger after a step. A refused checkpoint leaves the ledger in use. -/
def perform (l : AttemptLedger) : Call → AttemptLedger
  | .decide policy input => (l.decide policy input).2
  | .reload => (restore l.checkpoint).toOption.getD l

def run (l : AttemptLedger) (calls : List Call) : AttemptLedger := calls.foldl perform l

/-- An attempt that is decided for the first time. -/
structure Decided (l : AttemptLedger) (policy : AttemptPolicyV1) (input : AttemptInputV1)
    (decision : AttemptDecisionV1) : Prop where
  fresh : l.records[input.attemptId]? = none
  next : input.attemptOrdinal = saturatingSucc (l.lastOrdinal[input.operationId]?.getD 0)
  evaluated : evaluate policy input = .ok decision

section Decide
variable {l : AttemptLedger} {policy : AttemptPolicyV1} {decision : AttemptDecisionV1}

theorem decide_of_decided (h : Decided l policy input decision) :
    l.decide policy input = (.ok decision, l.record input decision) := by
  simp [decide, h.fresh, ← h.next, h.evaluated]

def Repeated (l : AttemptLedger) (input : AttemptInputV1) (existing : AttemptRecordV1) : Prop :=
  l.records[input.attemptId]? = some existing ∧ existing.operationId = input.operationId ∧
    existing.attemptOrdinal = input.attemptOrdinal ∧ existing.outcome = input.outcome

theorem decide_of_repeated {existing : AttemptRecordV1} (h : Repeated l input existing) :
    l.decide policy input = (.ok existing.decision, l) := by
  simp [decide, h.1, h.2]

/-- A call decides a new attempt, repeats an old answer, or changes nothing. -/
theorem decide_cases (l : AttemptLedger) (policy : AttemptPolicyV1) (input : AttemptInputV1) :
    (∃ decision, Decided l policy input decision) ∨ (∃ existing, Repeated l input existing) ∨
      ∃ e, l.decide policy input = (.error e, l) := by
  cases hfound : l.records[input.attemptId]? with
  | some existing =>
    by_cases hsame : existing.operationId = input.operationId ∧ existing.attemptOrdinal = input.attemptOrdinal ∧
        existing.outcome = input.outcome
    · exact .inr (.inl ⟨existing, hfound, hsame⟩)
    · exact .inr (.inr ⟨.attemptIdentityConflict, by simp [decide, hfound, hsame]⟩)
  | none =>
    by_cases hnext : input.attemptOrdinal = saturatingSucc (l.lastOrdinal[input.operationId]?.getD 0)
    · cases heval : evaluate policy input with
      | error e => exact .inr (.inr ⟨e, by simp [decide, hfound, ← hnext, heval]⟩)
      | ok decision => exact .inl ⟨decision, hfound, hnext, heval⟩
    · exact .inr (.inr ⟨.attemptOrdinalGap, by simp [decide, hfound, hnext]⟩)

/-- What holds before and after a new record holds after every decision. -/
theorem decide_keeps {kept : AttemptLedger → Prop} (h : kept l)
    (hrecord : ∀ decision, Decided l policy input decision → kept (l.record input decision)) :
    kept (l.decide policy input).2 := by
  rcases decide_cases l policy input with ⟨decision, hdecided⟩ | ⟨existing, hrepeated⟩ | ⟨e, he⟩
  · rw [decide_of_decided hdecided]
    exact hrecord decision hdecided
  · rw [decide_of_repeated hrepeated]
    exact h
  · rw [he]
    exact h

/-- A known-started outcome whose proof admits the same invocation again, with nothing in the way. -/
structure Reconcilable (policy : AttemptPolicyV1) (input : AttemptInputV1) (proof : RetryProof) : Prop where
  uncancelled : input.cancelled = false
  evaluator : input.evaluatorPassed = some false → policy.evaluatorTransitionId = none
  gate : input.gatePassed = some false → policy.approvalGateId = none
  outcome : input.outcome = .failedKnownStarted ∨ input.outcome = .cancelledWithEvidence
  presented : input.retryProof = some proof
  repeatable : proof.descriptorIdempotent = true ∧ proof.sameIdDeduplicated = true

private theorem nonRepeatingExit_ne (policy : AttemptPolicyV1) (reason id : String) :
    nonRepeatingExit policy reason ≠ .ok (.reconcileSameInvocation id) := by
  unfold nonRepeatingExit
  split <;> simp

private theorem evaluateOutcome_reconcile_iff (policy : AttemptPolicyV1) (input : AttemptInputV1) (id : String) :
    evaluateOutcome policy input = .ok (.reconcileSameInvocation id) ↔
      (input.outcome = .failedKnownStarted ∨ input.outcome = .cancelledWithEvidence) ∧
        ∃ proof, input.retryProof = some proof ∧
          (proof.descriptorIdempotent = true ∧ proof.sameIdDeduplicated = true) ∧ proof.invocationId = id := by
  have hexit := nonRepeatingExit_ne policy
  have hretry : ∀ reason, (if input.attemptOrdinal < policy.maxAttempts then
      .ok (.retryWithNewAttempt (input.attemptOrdinal + 1))
      else nonRepeatingExit policy reason) ≠ .ok (.reconcileSameInvocation id) := by
    intro reason
    split
    · simp
    · exact hexit reason id
  cases hproof : input.retryProof with
  | none => cases houtcome : input.outcome <;> simp [evaluateOutcome, houtcome, hproof, hexit, hretry]
  | some proof =>
    by_cases hrepeat : proof.descriptorIdempotent = true ∧ proof.sameIdDeduplicated = true
    · cases houtcome : input.outcome <;> simp [evaluateOutcome, houtcome, hproof, hrepeat, hexit, hretry]
    · have hnone : ¬∃ found, some proof = some found ∧
          (found.descriptorIdempotent = true ∧ found.sameIdDeduplicated = true) ∧ found.invocationId = id := by
        rintro ⟨found, hfound, hfoundRepeat, _⟩
        exact hrepeat (Option.some.inj hfound ▸ hfoundRepeat)
      simp only [hnone, and_false, iff_false]
      cases houtcome : input.outcome <;>
        simp [evaluateOutcome, houtcome, hproof, hrepeat]
      case definiteNotStarted | contractFailure => exact hretry _
      case failedKnownStarted | cancelledWithEvidence | denied => exact hexit _ id

theorem evaluate_reconcile_iff (policy : AttemptPolicyV1) (input : AttemptInputV1) (id : String) :
    evaluate policy input = .ok (.reconcileSameInvocation id) ↔
      ∃ proof, Reconcilable policy input proof ∧ proof.invocationId = id := by
  have hassemble : (∃ proof, Reconcilable policy input proof ∧ proof.invocationId = id) ↔
      input.cancelled = false ∧ (input.evaluatorPassed = some false → policy.evaluatorTransitionId = none) ∧
        (input.gatePassed = some false → policy.approvalGateId = none) ∧
          evaluateOutcome policy input = .ok (.reconcileSameInvocation id) := by
    rw [evaluateOutcome_reconcile_iff]
    constructor
    · rintro ⟨proof, ⟨hcancel, heval, hgate, hout, hproof, hrepeat⟩, hid⟩
      exact ⟨hcancel, heval, hgate, hout, proof, hproof, hrepeat, hid⟩
    · rintro ⟨hcancel, heval, hgate, hout, proof, hproof, hrepeat, hid⟩
      exact ⟨proof, ⟨hcancel, heval, hgate, hout, hproof, hrepeat⟩, hid⟩
  rw [hassemble]
  unfold evaluate
  cases input.cancelled with
  | true => simp
  | false =>
    by_cases heval : input.evaluatorPassed = some false
    · cases policy.evaluatorTransitionId with
      | some transition => simp [heval]
      | none =>
        by_cases hgate : input.gatePassed = some false
        · cases policy.approvalGateId <;> simp [heval, hgate]
        · simp [heval, hgate]
    · by_cases hgate : input.gatePassed = some false
      · cases policy.approvalGateId <;> simp [heval, hgate]
      · simp [heval, hgate]

end Decide

section Barred
variable {l : AttemptLedger}

private theorem record_barred (input : AttemptInputV1) (decision : AttemptDecisionV1)
    (h : id ∈ l.noResendInvocations) : id ∈ (l.record input decision).noResendInvocations := by
  simp only [record]
  split
  · split
    · exact ExtTreeSet.mem_insert.mpr (.inr h)
    · exact h
  · exact h

private theorem restore_barred {l : AttemptLedger} (h : restore saved = .ok l)
    (id : String) : id ∈ l.noResendInvocations ↔ id ∈ saved.2 := by
  simp only [restore, bind_ok_iff, Except.ok.injEq] at h
  obtain ⟨_, _, _, _, barred, hbarred, _, _, rfl⟩ := h
  have hall := foldlM_keeps restoreInvocation (fun done barred => ∀ id, id ∈ barred ↔ id ∈ done) ?_ saved.2 [] ∅
    barred (by simp) hbarred
  · exact hall id
  · intro done state item next hdone hstep other
    simp only [restoreInvocation, passes, Except.ok.injEq] at hstep
    obtain ⟨_, _, rfl⟩ := hstep
    rw [ExtTreeSet.mem_insert, Std.LawfulEqOrd.compare_eq_iff_eq, hdone, mem_append, mem_singleton,
      or_comm, @eq_comm _ item]

private theorem perform_barred (call : Call) (h : id ∈ l.noResendInvocations) : id ∈ (l.perform call).noResendInvocations := by
  cases call with
  | decide policy input =>
    exact @decide_keeps _ _ _ (fun l => id ∈ l.noResendInvocations) h fun decision _ => record_barred input decision h
  | reload =>
    show id ∈ ((restore l.checkpoint).toOption.getD l).noResendInvocations
    cases hrestore : restore l.checkpoint with
    | error e => exact h
    | ok restored =>
      apply (restore_barred hrestore id).mpr
      exact ExtTreeSet.mem_toList.mpr h

theorem run_barred (calls : List Call) (h : id ∈ l.noResendInvocations) : id ∈ (l.run calls).noResendInvocations := by
  induction calls generalizing l with
  | nil => exact h
  | cons call rest ih => exact ih (perform_barred call h)

theorem maySendInvocation_eq_false (id : String) : l.maySendInvocation id = false ↔ id ∈ l.noResendInvocations := by
  simp [maySendInvocation]

/-- The call neither repeats a recorded reconciliation of a barred invocation nor presents a proof that would
reconcile one. -/
def Permits (l : AttemptLedger) (policy : AttemptPolicyV1) (input : AttemptInputV1) : Prop :=
  (∀ existing, Repeated l input existing → contradicts l.noResendInvocations existing = false) ∧
    (l.records[input.attemptId]? = none →
      input.attemptOrdinal = saturatingSucc (l.lastOrdinal[input.operationId]?.getD 0) →
        ∀ proof, Reconcilable policy input proof → l.maySendInvocation proof.invocationId = true)

theorem contradicts_eq_false (barred : ExtTreeSet String) (record : AttemptRecordV1) :
    contradicts barred record = false ↔ ∀ id ∈ barred, record.decision ≠ .reconcileSameInvocation id := by
  unfold contradicts
  cases record.decision with
  | reconcileSameInvocation invocationId =>
    simp only [ne_eq, AttemptDecisionV1.reconcileSameInvocation.injEq]
    constructor
    · intro h id hid heq
      subst heq
      exact absurd (ExtTreeSet.contains_iff_mem.mpr hid) (by simp [h])
    · intro h
      rw [Bool.eq_false_iff]
      intro hcontains
      exact h invocationId (ExtTreeSet.contains_iff_mem.mp hcontains) rfl
  | _ => simp

private theorem permits_iff (l : AttemptLedger) (policy : AttemptPolicyV1) (input : AttemptInputV1) :
    (∀ id, l.maySendInvocation id = false → (l.decide policy input).1 ≠ .ok (.reconcileSameInvocation id)) ↔
      Permits l policy input := by
  simp only [maySendInvocation_eq_false]
  rcases decide_cases l policy input with ⟨decision, hdecided⟩ | ⟨existing, hrepeated⟩ | ⟨e, he⟩
  · rw [decide_of_decided hdecided]
    constructor
    · intro h
      refine ⟨fun existing hrepeated => ?_, fun _ _ proof hproof => ?_⟩
      · cases hdecided.fresh.symm.trans hrepeated.1
      · by_contra hbarred
        rw [Bool.not_eq_true, maySendInvocation_eq_false] at hbarred
        have hevaluated := (evaluate_reconcile_iff policy input _).mpr ⟨proof, hproof, rfl⟩
        exact h _ hbarred (hdecided.evaluated.symm.trans hevaluated)
    · rintro ⟨_, hproofs⟩ id hid hanswer
      obtain ⟨proof, hproof, rfl⟩ := (evaluate_reconcile_iff policy input id).mp (hdecided.evaluated.trans hanswer)
      have hsend := hproofs hdecided.fresh hdecided.next proof hproof
      rw [(maySendInvocation_eq_false _).mpr hid] at hsend
      cases hsend
  · rw [decide_of_repeated hrepeated]
    constructor
    · intro h
      refine ⟨fun other hother => ?_, fun hnone => ?_⟩
      · obtain rfl := Option.some.inj (hrepeated.1.symm.trans hother.1)
        apply (contradicts_eq_false _ _).mpr
        intro id hid hdecision
        exact h id hid (congrArg Except.ok hdecision)
      · cases hrepeated.1.symm.trans hnone
    · rintro ⟨hrecords, _⟩ id hid hanswer
      exact (contradicts_eq_false _ _).mp (hrecords existing hrepeated) id hid (Except.ok.inj hanswer)
  · rw [he]
    refine iff_of_true (fun _ _ => by simp) ⟨fun existing hrepeated => ?_, fun hfresh hnext proof hproof => ?_⟩
    · rw [decide_of_repeated hrepeated] at he
      cases (Prod.mk.inj he).1
    · have hevaluated := (evaluate_reconcile_iff policy input _).mpr ⟨proof, hproof, rfl⟩
      rw [decide_of_decided ⟨hfresh, hnext, hevaluated⟩] at he
      cases (Prod.mk.inj he).1

/-- An invocation once barred stays barred, and in every state of a history a decision reconciles none exactly if
permitted. -/
theorem no_resend_permanent_iff (calls : List Call) :
    (∀ later id, (run empty calls).maySendInvocation id = false →
      (run empty (calls ++ later)).maySendInvocation id = false) ∧
    ∀ policy input, (∀ id, (run empty calls).maySendInvocation id = false →
        ((run empty calls).decide policy input).1 ≠ .ok (.reconcileSameInvocation id)) ↔
      Permits (run empty calls) policy input := by
  refine ⟨?_, fun policy input => permits_iff _ policy input⟩
  intro later id hid
  rw [maySendInvocation_eq_false] at hid ⊢
  have happend : run empty (calls ++ later) = (run empty calls).run later := foldl_append
  rw [happend]
  exact run_barred later hid

def samplePolicy : AttemptPolicyV1 := ⟨"p", 1, none, none, none, none⟩

/-- A first attempt, with a proof that invocation `i` may be repeated. -/
def sampleAttempt (operation attempt : String) (outcome : OutcomeClass) : AttemptInputV1 :=
  ⟨operation, attempt, 1, outcome, some ⟨"i", true, true, false⟩, none, none, false⟩

/-- Operation `a` leaves the outcome of invocation `i` uncertain. -/
def sampleUncertain : List Call := [.decide samplePolicy (sampleAttempt "a" "a1" .outcomeUncertain)]

/-- Operation `b` then presents the same invocation as known to have started. -/
def sampleReused : List Call := sampleUncertain ++ [.decide samplePolicy (sampleAttempt "b" "b1" .failedKnownStarted)]

theorem sample_no_resend_permanent :
    (run empty sampleUncertain).maySendInvocation "i" = false ∧
      (∀ later, (run empty (sampleUncertain ++ later)).maySendInvocation "i" = false) ∧
      ∀ id, (run empty sampleUncertain).maySendInvocation id = false →
        ((run empty sampleUncertain).decide samplePolicy (sampleAttempt "b" "b1" .denied)).1 ≠
          .ok (.reconcileSameInvocation id) := by
  have hbarred : (run empty sampleUncertain).maySendInvocation "i" = false := by decide
  have hlaw := no_resend_permanent_iff sampleUncertain
  refine ⟨hbarred, fun later => hlaw.1 later "i" hbarred, (hlaw.2 _ _).mpr ⟨?_, ?_⟩⟩
  · intro existing hrepeated
    have hfresh : (run empty sampleUncertain).records["b1"]? = none := by decide
    cases hfresh.symm.trans hrepeated.1
  · intro _ _ proof hproof
    cases hproof.outcome <;> contradiction

/-- An uncertain outcome bars the invocation; another operation's attempt is told to reconcile it. -/
theorem barred_invocation_reconciled :
    (run empty sampleUncertain).maySendInvocation "i" = false ∧
      ((run empty sampleUncertain).decide samplePolicy (sampleAttempt "b" "b1" .failedKnownStarted)).1 =
        .ok (.reconcileSameInvocation "i") := by
  decide

end Barred

variable {ordinals : ExtTreeSet UInt32} {last : UInt32}

section RoundTrip
variable {l : AttemptLedger}

/-- The ids of the call pass the id rule of a restored ledger. -/
def ValidIds (input : AttemptInputV1) : Prop :=
  invalidId input.operationId = false ∧ invalidId input.attemptId = false ∧
    ∀ proof, input.retryProof = some proof → invalidId proof.invocationId = false

/-- What a restored ledger asks of a record by itself. -/
def ValidRecord (record : AttemptRecordV1) : Prop :=
  invalidId record.operationId = false ∧ invalidId record.attemptId = false ∧ decisionMatchesOutcome record = true

/-- What every history of valid calls keeps: the recorded ordinals of an operation are those from one to its last. -/
structure Sound (l : AttemptLedger) : Prop where
  keyed : OrderedMap.Keyed AttemptRecordV1.attemptId l.records
  valid : ∀ record ∈ values l.records, ValidRecord record
  ordinals : ∀ operation (ordinal : UInt32),
    (∃ record ∈ values l.records, record.operationId = operation ∧ record.attemptOrdinal = ordinal) ↔
      0 < ordinal.toNat ∧ ordinal.toNat ≤ (l.lastOrdinal[operation]?.getD 0).toNat
  started : ∀ (operation : String) (ordinal : UInt32), l.lastOrdinal[operation]? = some ordinal → 0 < ordinal.toNat
  barred : ∀ id ∈ l.noResendInvocations, invalidId id = false

theorem empty_sound : Sound empty where
  keyed := by simp [OrderedMap.Keyed, empty]
  valid := by simp [empty, mem_values]
  ordinals operation ordinal := by
    simp only [empty, mem_values, ExtTreeMap.getElem?_empty, reduceCtorEq, exists_false, false_and, false_iff,
      Option.getD_none, UInt32.toNat_zero]
    omega
  started := by simp [empty]
  barred := by simp [empty]

/-- A decision fits its outcome in the table a restored ledger checks. -/
theorem evaluate_matches (h : evaluate policy input = .ok decision) : decisionMatchesOutcome
      ⟨input.operationId, input.attemptId, input.attemptOrdinal, input.outcome, decision⟩ = true := by
  have hexit : ∀ reason, nonRepeatingExit policy reason = .ok decision → decisionMatchesOutcome
      ⟨input.operationId, input.attemptId, input.attemptOrdinal, input.outcome, decision⟩ = true := by
    intro reason hreason
    unfold nonRepeatingExit at hreason
    split at hreason <;> cases hreason <;> cases input.outcome <;> rfl
  have hretry : input.attemptOrdinal < policy.maxAttempts →
      input.attemptOrdinal + 1 = saturatingSucc input.attemptOrdinal := by
    intro hlt
    have hbound := policy.maxAttempts.toNat_lt
    rw [lt_iff_toNat_lt] at hlt
    rw [saturatingSucc, if_neg (by unfold u32Max; omega)]
  unfold evaluate at h
  split at h
  · cases h
    cases input.outcome <;> rfl
  · split at h
    · cases h
      cases input.outcome <;> rfl
    · split at h
      · cases h
        cases input.outcome <;> rfl
      · unfold evaluateOutcome at h
        split at h
        case h_1 houtcome | h_6 houtcome =>
          cases h
          rw [houtcome]
          rfl
        case h_2 houtcome | h_3 houtcome =>
          split at h
          case isTrue hlt =>
            cases h
            simp [decisionMatchesOutcome, houtcome, hretry hlt]
          case isFalse => exact hexit _ h
        case h_4 houtcome | h_5 houtcome =>
          split at h
          · split at h
            · cases h
              simp [decisionMatchesOutcome, houtcome]
            · exact hexit _ h
          · exact hexit _ h
        case h_7 => exact hexit _ h

theorem mem_values_record (decision : AttemptDecisionV1)
    (hfresh : l.records[input.attemptId]? = none) (record : AttemptRecordV1) :
    record ∈ values (l.record input decision).records ↔ record ∈ values l.records ∨ record =
      ⟨input.operationId, input.attemptId, input.attemptOrdinal, input.outcome, decision⟩ := by
  simp only [mem_values, AttemptLedger.record]
  constructor
  · rintro ⟨k, hk⟩
    rcases found_insert hk with ⟨_, rfl⟩ | ⟨_, hold⟩
    · exact .inr rfl
    · exact .inl ⟨k, hold⟩
  · rintro (⟨k, hk⟩ | rfl)
    · exact ⟨k, insert_fresh _ hfresh hk⟩
    · exact ⟨input.attemptId, ExtTreeMap.getElem?_insert_self⟩

private theorem record_sound (h : Sound l)
    (hids : ValidIds input) (hdecided : Decided l policy input decision) : Sound (l.record input decision) where
  keyed := h.keyed.insert rfl
  valid := by
    intro record hrecord
    rcases (mem_values_record decision hdecided.fresh record).mp hrecord with hold | rfl
    · exact h.valid record hold
    · exact ⟨hids.1, hids.2.1, evaluate_matches hdecided.evaluated⟩
  ordinals := by
    intro operation ordinal
    have hnew := hdecided.next
    have hsplit : (∃ record ∈ values (l.record input decision).records, record.operationId = operation ∧
        record.attemptOrdinal = ordinal) ↔
        (∃ record ∈ values l.records, record.operationId = operation ∧ record.attemptOrdinal = ordinal) ∨
          (input.operationId = operation ∧ input.attemptOrdinal = ordinal) := by
      simp only [mem_values_record decision hdecided.fresh]
      constructor
      · rintro ⟨record, hold | rfl, hmatch⟩
        · exact .inl ⟨record, hold, hmatch⟩
        · exact .inr hmatch
      · rintro (⟨record, hold, hmatch⟩ | hmatch)
        · exact ⟨record, .inl hold, hmatch⟩
        · exact ⟨_, .inr rfl, hmatch⟩
    rw [hsplit, h.ordinals operation ordinal]
    show _ ↔ 0 < ordinal.toNat ∧
      ordinal.toNat ≤ ((l.lastOrdinal.insert input.operationId input.attemptOrdinal)[operation]?.getD 0).toNat
    by_cases hoperation : input.operationId = operation
    · subst hoperation
      have hnat := congrArg toNat hnew
      rw [toNat_saturatingSucc] at hnat
      have hbound := (l.lastOrdinal[input.operationId]?.getD 0).toNat_lt
      have hordinal := ordinal.toNat_lt
      rw [ExtTreeMap.getElem?_insert_self, Option.getD_some, ← UInt32.toNat_inj, hnat]
      unfold u32Max
      constructor
      · rintro (⟨hpos, hle⟩ | ⟨_, hordinal⟩) <;> omega
      · rintro ⟨hpos, hle⟩
        simp only [true_and]
        omega
    · rw [insert_ne _ _ hoperation]
      simp [hoperation]
  started := by
    refine all_insert h.started ?_
    rw [hdecided.next, toNat_saturatingSucc]
    unfold u32Max
    omega
  barred := by
    intro id hid
    simp only [record] at hid
    split at hid
    case h_1 proof hproof =>
      split at hid
      · rcases ExtTreeSet.mem_insert.mp hid with hsame | hold
        · rw [← Std.LawfulEqOrd.compare_eq_iff_eq.mp hsame]
          exact hids.2.2 proof hproof
        · exact h.barred id hold
      · exact h.barred id hid
    case h_2 => exact h.barred id hid

theorem decide_sound (h : Sound l) (policy : AttemptPolicyV1) (hids : ValidIds input) :
    Sound (l.decide policy input).2 :=
  decide_keeps h fun _ hdecided => record_sound h hids hdecided

theorem toList_contiguous (h : ∀ ordinal : UInt32, ordinal ∈ ordinals ↔ 0 < ordinal.toNat ∧ ordinal.toNat ≤ last.toNat)
    : ordinals.toList.map toNat = range' 1 last.toNat := by
  have hsorted : (ordinals.toList.map toNat).Pairwise (· < ·) := by
    rw [pairwise_map]
    apply ordinals.ordered_toList.imp
    intro a b hlt
    exact lt_iff_toNat_lt.mp (Std.compare_eq_lt.mp hlt)
  have hrange : (range' 1 last.toNat).Pairwise (· < ·) := pairwise_lt_range'
  apply List.Perm.eq_of_pairwise (fun a b _ _ hab hba => absurd (hab.trans hba) (lt_irrefl a)) hsorted hrange
  rw [perm_ext_iff_of_nodup (hsorted.imp ne_of_lt) (hrange.imp ne_of_lt)]
  intro n
  rw [mem_range'_1, mem_map]
  constructor
  · rintro ⟨ordinal, hmem, rfl⟩
    have hbounds := (h ordinal).mp (ExtTreeSet.mem_toList.mp hmem)
    omega
  · intro hn
    have hlast := last.toNat_lt
    have hround : (ofNat n).toNat = n := toNat_ofNat_of_lt' (lt_of_le_of_lt (by omega) hlast)
    refine ⟨ofNat n, ExtTreeSet.mem_toList.mpr ((h _).mpr ?_), hround⟩
    rw [hround]
    omega

section
variable (hpos : 0 < last.toNat)
  (h : ∀ ordinal : UInt32, ordinal ∈ ordinals ↔ 0 < ordinal.toNat ∧ ordinal.toNat ≤ last.toNat)
include hpos h

theorem last_contiguous :
    ordinals.toList.getLast?.getD 0 = last := by
  have hget : (ordinals.toList.map toNat).getLast? = some last.toNat := by
    rw [toList_contiguous h, getLast?_range', if_neg (by omega)]
    congr 1
    omega
  rw [getLast?_map, Option.map_eq_some_iff] at hget
  obtain ⟨found, hfound, hsame⟩ := hget
  rw [hfound, Option.getD_some]
  exact UInt32.toNat_inj.mp hsame

theorem restoreOrdinals_contiguous
    (read : ExtTreeMap String UInt32) (operation : String) :
    restoreOrdinals read (operation, ordinals) = .ok (read.insert operation last) := by
  have hlist := toList_contiguous h
  have hsize : ordinals.size = last.toNat := by
    rw [← ExtTreeSet.length_toList, ← length_map toNat, hlist, length_range']
  simp only [restoreOrdinals, last_contiguous hpos h, hsize, hlist, bne_self_eq_false, Bool.or_self]
  rfl

end

/-- The records read so far and their ordinals by operation. -/
structure ReadBack (done : List AttemptRecordV1) (read : ExtTreeMap String AttemptRecordV1 × OrdinalTable) :
    Prop where
  filed : Filed AttemptRecordV1.attemptId done read.1
  known : ∀ operation, (∃ ordinals, read.2[operation]? = some ordinals) ↔
    ∃ record ∈ done, record.operationId = operation
  ordinals : ∀ operation ordinal, ordinal ∈ read.2[operation]?.getD ∅ ↔
    ∃ record ∈ done, record.operationId = operation ∧ record.attemptOrdinal = ordinal

private theorem restoreRecord_readBack {record : AttemptRecordV1} (h : ReadBack done read) (hvalid : ValidRecord record)
    (hordinal : 0 < record.attemptOrdinal.toNat) (hnew : ∀ other ∈ done, other.attemptId ≠ record.attemptId) :
    ∃ next, restoreRecord read record = .ok next ∧ ReadBack (done ++ [record]) next := by
  have hpos : (record.attemptOrdinal == 0) = false := by
    rw [beq_eq_false_iff_ne]
    intro hzero
    rw [hzero] at hordinal
    cases hordinal
  refine ⟨_, by simp [restoreRecord, refuseIf, hvalid.1, hvalid.2.1, hvalid.2.2, hpos, h.filed.absent hnew]; rfl,
    h.filed.snoc hnew, ?_, ?_⟩
  · intro operation
    simp only [mem_append, mem_singleton, or_and_right, exists_or, exists_eq_left, ← h.known operation]
    by_cases hoperation : record.operationId = operation
    · simp [hoperation]
    · simp [insert_ne _ _ hoperation, hoperation]
  · intro operation ordinal
    simp only [mem_append, mem_singleton, or_and_right, exists_or, exists_eq_left,
      ← h.ordinals operation ordinal]
    by_cases hoperation : record.operationId = operation
    · subst hoperation
      rw [ExtTreeMap.getElem?_insert_self, Option.getD_some, ExtTreeSet.mem_insert,
        Std.LawfulEqOrd.compare_eq_iff_eq, or_comm]
      simp
    · simp [insert_ne _ _ hoperation, hoperation]

theorem restoreRecords_readBack (h : Sound l) :
    ∃ read, (values l.records).foldlM restoreRecord (∅, ∅) = .ok read ∧ ReadBack (values l.records) read := by
  apply values_loop h.keyed restoreRecord ReadBack
  · intro before read record hrecord hbefore hread
    have hmem := (h.keyed.mem_values record).mpr hrecord
    have hordinal := (h.ordinals record.operationId record.attemptOrdinal).mp ⟨record, hmem, rfl, rfl⟩
    exact restoreRecord_readBack hread (h.valid record hmem) hordinal.1 fun other hother => (hbefore other hother).2
  · exact ⟨by simp [Filed], by simp, by simp⟩

theorem restoreOrdinals_all (h : Sound l)
    (hread : ReadBack (values l.records) read) : read.2.toList.foldlM restoreOrdinals ∅ = .ok l.lastOrdinal := by
  have hmembers : ∀ (operation : String) ordinal, ordinal ∈ read.2[operation]?.getD ∅ ↔
      0 < ordinal.toNat ∧ ordinal.toNat ≤ (l.lastOrdinal[operation]?.getD 0).toNat := by
    intro operation ordinal
    rw [hread.ordinals, h.ordinals]
  have hknown : ∀ (operation : String) last, l.lastOrdinal[operation]? = some last →
      ∃ ordinals, read.2[operation]? = some ordinals := by
    intro operation last hlast
    have hpos := h.started operation last hlast
    obtain ⟨record, hrecord, hoperation, _⟩ := (h.ordinals operation last).mpr ⟨hpos, by simp [hlast]⟩
    exact (hread.known operation).mpr ⟨record, hrecord, hoperation⟩
  have hlast : ∀ (operation : String) ordinals, read.2[operation]? = some ordinals →
      ∃ last : UInt32, l.lastOrdinal[operation]? = some last ∧ 0 < last.toNat ∧
        ∀ ordinal : UInt32, ordinal ∈ ordinals ↔ 0 < ordinal.toNat ∧ ordinal.toNat ≤ last.toNat := by
    intro operation ordinals hfound
    obtain ⟨record, hrecord, rfl⟩ := (hread.known operation).mp ⟨ordinals, hfound⟩
    have hbounds := (h.ordinals record.operationId record.attemptOrdinal).mp ⟨record, hrecord, rfl, rfl⟩
    have hmember := hmembers record.operationId
    rw [hfound] at hmember
    cases hget : l.lastOrdinal[record.operationId]? with
    | none =>
      rw [hget, Option.getD_none, UInt32.toNat_zero] at hbounds
      omega
    | some last =>
      rw [hget] at hmember
      exact ⟨last, rfl, h.started _ last hget, hmember⟩
  have hrebuild := foldlM_rebuild read.2 (fun entry => entry) (fun ordinals => ordinals.toList.getLast?.getD 0)
    restoreOrdinals ?_
  · rw [map_id'] at hrebuild
    rw [hrebuild]
    congr 1
    apply ExtTreeMap.ext_getElem?
    intro operation
    rw [ExtTreeMap.getElem?_map]
    cases hfound : read.2[operation]? with
    | none =>
      symm
      rw [Option.map_none, Option.eq_none_iff_forall_ne_some]
      intro last hsome
      obtain ⟨ordinals, hordinals⟩ := hknown operation last hsome
      cases hfound.symm.trans hordinals
    | some ordinals =>
      obtain ⟨last, hsome, hpos, hmember⟩ := hlast operation ordinals hfound
      rw [Option.map_some, last_contiguous hpos hmember, hsome]
  · intro table operation ordinals hfound _
    obtain ⟨last, _, hpos, hmember⟩ := hlast operation ordinals hfound
    rw [restoreOrdinals_contiguous hpos hmember, last_contiguous hpos hmember]

private theorem restoreInvocations_all (h : Sound l) :
    l.noResendInvocations.toList.foldlM restoreInvocation ∅ = .ok l.noResendInvocations := by
  have hrebuild := members_rebuild l.noResendInvocations (fun id => id) restoreInvocation ?_
  · rwa [map_id'] at hrebuild
  · intro read id hid habsent
    simp only [restoreInvocation, h.barred id hid, habsent, Bool.or_self]
    rfl

/-- No recorded decision reconciles a barred invocation. -/
def Coherent (l : AttemptLedger) : Prop :=
  ∀ record ∈ values l.records, ∀ id ∈ l.noResendInvocations, record.decision ≠ .reconcileSameInvocation id

/-- A checkpoint is read back as its ledger, or refused as contradictory. -/
theorem restore_checkpoint (h : Sound l) : restore l.checkpoint =
    if (values l.records).any (contradicts l.noResendInvocations) then .error .invalidCheckpoint else .ok l := by
  obtain ⟨read, hrecords, hread⟩ := restoreRecords_readBack h
  have htable : read.1 = l.records := hread.filed.eq h.keyed
  simp only [restore, checkpoint, hrecords, ok_bind, restoreOrdinals_all h hread, restoreInvocations_all h, htable]
  unfold refuseIf
  split <;> rfl

private theorem restore_checkpoint_iff (h : Sound l) : restore l.checkpoint = .ok l ↔ Coherent l := by
  rw [restore_checkpoint h]
  have hcoherent : Coherent l ↔ (values l.records).any (contradicts l.noResendInvocations) = false := by
    simp [Coherent, any_eq_false, contradicts_eq_false]
  rw [hcoherent]
  split
  · next hany => simp [hany]
  · next hany => simpa using hany

private theorem perform_sound (h : Sound l)
    (hcall : ∀ policy input, call = .decide policy input → ValidIds input) : Sound (l.perform call) := by
  cases call with
  | decide policy input => exact decide_sound h policy (hcall policy input rfl)
  | reload =>
    simp only [perform, restore_checkpoint h]
    split
    · exact h
    · exact h

theorem run_sound (h : Sound l)
    (hcalls : ∀ policy input, .decide policy input ∈ calls → ValidIds input) : Sound (l.run calls) := by
  induction calls generalizing l with
  | nil => exact h
  | cons call rest ih =>
    apply ih (perform_sound h ?_)
    · intro policy input hmem
      exact hcalls policy input (mem_cons_of_mem call hmem)
    · rintro policy input rfl
      exact hcalls policy input mem_cons_self

/-- In every history of calls with valid ids, a checkpoint restores its ledger exactly when no recorded decision
reconciles a barred invocation. -/
theorem attempts_restored_iff (calls : List Call)
    (hcalls : ∀ policy input, .decide policy input ∈ calls → ValidIds input) :
    restore (run empty calls).checkpoint = .ok (run empty calls) ↔ Coherent (run empty calls) :=
  restore_checkpoint_iff (run_sound empty_sound hcalls)

private theorem sampleReused_valid : ∀ policy input, .decide policy input ∈ sampleReused → ValidIds input := by
  intro policy input hmem
  have hinput : input = sampleAttempt "a" "a1" .outcomeUncertain ∨
      input = sampleAttempt "b" "b1" .failedKnownStarted := by
    simp only [sampleReused, sampleUncertain, singleton_append, mem_cons, Call.decide.injEq, not_mem_nil,
      or_false] at hmem
    rcases hmem with ⟨_, h⟩ | ⟨_, h⟩
    · exact .inl h
    · exact .inr h
  rcases hinput with rfl | rfl
  all_goals
    refine ⟨by decide, by decide, ?_⟩
    rintro proof hproof
    cases hproof
    decide

theorem sample_attempts_restored :
    restore (run empty sampleUncertain).checkpoint = .ok (run empty sampleUncertain) := by
  apply (attempts_restored_iff sampleUncertain ?_).mpr
  · have hdecisions : ∀ record ∈ values (run empty sampleUncertain).records, record.decision = .requireUserDecision := by
      decide
    intro record hrecord id _ hdecision
    cases (hdecisions record hrecord).symm.trans hdecision
  · intro policy input hmem
    exact sampleReused_valid policy input (mem_append_left _ hmem)

/-- The checkpoint behind the contradiction is refused, all ids valid. -/
theorem contradictory_checkpoint_refused :
    (∀ policy input, .decide policy input ∈ sampleReused → ValidIds input) ∧
      restore (run empty sampleReused).checkpoint ≠ .ok (run empty sampleReused) := by
  refine ⟨sampleReused_valid, fun hrestored => ?_⟩
  have hrefused : (restore (run empty sampleReused).checkpoint).isOk = false := by decide
  rw [hrestored] at hrefused
  cases hrefused

/-- In every history of calls with valid ids, restores included, each attempt is filed under its own id and the recorded
ordinals of an operation run from one to its last without a gap. -/
theorem attempts_numbered (calls : List Call)
    (hcalls : ∀ policy input, .decide policy input ∈ calls → ValidIds input) : Sound (run empty calls) :=
  run_sound empty_sound hcalls

theorem sample_attempts_numbered : Sound (run empty sampleReused) := attempts_numbered _ sampleReused_valid

end RoundTrip

end AttemptLedger
end Aworkit.Worker
