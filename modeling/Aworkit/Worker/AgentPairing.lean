import Aworkit.Logic.Once
import Aworkit.Text.Separated
import Aworkit.Worker.Agent
import Aworkit.Worker.LimitConservation

/-! The agent loop and its ledger: each pending turn has its reservation, each outcome is charged once, and the turn
counter is right until it saturates. -/
namespace Aworkit.Worker
open Protocol Fallible Hoare OrderedMap LimitLedger Std StableId List Prog Option

variable {call : AgentCall}

theorem validateLogicalId_stable {value : String} (h : stableIdText value = true) : validateLogicalId value = .ok () := by
  simp only [stableIdText, met, List.all_eq_true] at h
  obtain ⟨⟨hempty, hsize⟩, hchars⟩ := h
  have hlogical : value.toList.all logicalIdChar = true := by
    rw [List.all_eq_true]
    intro c hc
    have hchar := hchars c hc
    simp only [stableIdChar, logicalIdChar, Bool.or_eq_true] at hchar ⊢
    tauto
  simp [validateLogicalId, hempty, hlogical, hsize]

/-- The identifier that the loop derives from a digest. -/
def digestId (digest : Sha256Digest) : StableId :=
  ⟨"agent." ++ String.ofList (digest.text.toList.take 48), stableIdText_digest "agent." digest 48 (by decide) (by decide)⟩

theorem agentStableId_eq (sha256 : String → Sha256Digest) (material : String) :
    agentStableId sha256 material = .ok (digestId (sha256 material)) := by
  have hval : "agent." ++ String.ofList ((sha256 material).text.toList.take 48) = (digestId (sha256 material)).val := rfl
  rw [agentStableId, hval, parse_val, require]

namespace AgentLoopV1

/-- The reservation of the turn that comes next, or is pending. -/
def reservationId (l : AgentLoopV1) : String := reservationName l.config l.nextTurn.toNat

theorem reservationName_injective (config : AgentLoopConfigV1) : Function.Injective (reservationName config) := by
  intro turn other h
  have hdigits : toString turn = toString other := by simpa [reservationName, String.append_right_inj] using h
  exact Nat.repr_injective hdigits

end AgentLoopV1

namespace AgentStores
variable {s s' : AgentStores} {sha256 : String → Sha256Digest}

/-- Invocation and reservation are pending together, and it can be settled. -/
structure Sound (s : AgentStores) : Prop where
  paired : s.loop.pendingReservationId = s.loop.pendingInvocationId.map fun _ => s.loop.reservationId
  held : s.loop.pendingInvocationId.isSome → ∃ record : ReservationRecord,
    s.limits.reservations[s.loop.reservationId]? = some record ∧ record.reservationId = s.loop.reservationId ∧
      LimitLedger.Refundable s.limits record
  named : ∀ id ∈ s.loop.completedOutcomeIds, stableIdText id = true

/-- What a call may do, put in flight and settle. -/
inductive Moves (s : AgentStores) : List StableId → List String → AgentStores → Prop where
  | idle : Moves s [] [] s
  | proposed {invocationId : StableId} {limits : LimitLedger} (hcancelled : s.loop.cancelled = false)
      (hnone : s.loop.pendingInvocationId = none)
      (heffect : LimitLedger.Effect s.limits (.reserve s.loop.config.scopeId s.loop.reservationId
        (resourceUsage s.loop.config.turnReservation)) limits) :
      Moves s [invocationId] [] ⟨{ s.loop with
        pendingInvocationId := some invocationId
        pendingReservationId := some s.loop.reservationId }, limits⟩
  | settled {outcome : CapabilityOutcomeV1} {usage : Usage} {limits : LimitLedger}
      (hnew : outcome.outcomeId.val ∉ s.loop.completedOutcomeIds)
      (hpending : s.loop.pendingInvocationId = some outcome.invocationId)
      (heffect : LimitLedger.Effect s.limits (.charge s.loop.reservationId outcome.outcomeId.val usage) limits) :
      Moves s [] [outcome.outcomeId.val] ⟨s.loop.settle outcome, limits⟩
  | cancelled (hnone : s.loop.pendingInvocationId = none) :
      Moves s [] [] { s with loop := { s.loop with cancelled := true } }

/-- The reservation of a turn whose context is refused is released, and the ledger is as it was. -/
theorem giveBack_outcome {limits : LimitLedger} {scopeId reservationId : String} {usage : Usage} (error : AgentErrorV1)
    (hreserved : LimitLedger.Effect s.limits (.reserve scopeId reservationId usage) limits) :
    Outcome (onLimits (release reservationId) >>= fun _ => (fail error : AgentProg WorkerInvocationProposalV1))
      { s with limits } (fun _ _ => False) (fun _ s' => s' = s) := by
  have hback : Ends (onLimits (release reservationId)) { s with limits } fun s' => s' = s := by
    apply Outcome.zoom
    apply (release_reserved hreserved).never.weaken
    rintro _ _ rfl
    rfl
  apply Outcome.bind hback
  rintro _ _ rfl
  rfl

theorem propose_outcome (context : Value) (s : AgentStores) :
    Outcome (proposeModelTurn sha256 context) s (fun proposal => Moves s [proposal.invocationId] [])
      (fun _ s' => s' = s) := by
  apply read_bind
  apply check_bind
  intro _ hcancelled
  apply check_bind
  intro _ hnone
  apply check_bind
  intro invocationId _
  rw [refuseIf_eq_ok] at hcancelled hnone
  rw [isSome_eq_false_iff, isNone_iff_eq_none] at hnone
  apply Outcome.bind (.zoom_same (reserve_atomic _ _ _) rfl)
  rintro _ _ ⟨limits, rfl, heffect⟩
  cases projectContext context s.loop.config.contextPointers with
  | error error =>
    exact (giveBack_outcome error heffect).weaken fun _ _ hfalse => hfalse.elim
  | ok projected =>
    apply update_bind
    apply lift_bind
    · intro e he
      cases (agentStableId_eq _ _).symm.trans he
    · intro _ _
      exact .proposed hcancelled hnone heffect

private theorem settleReserved_outcome (h : Sound s) (outcome : CapabilityOutcomeV1) (usage : Usage)
    (hnew : outcome.outcomeId.val ∉ s.loop.completedOutcomeIds)
    (hpending : s.loop.pendingInvocationId = some outcome.invocationId) :
    Outcome (settleReservedOutcome outcome usage) s
      (fun answer s' => Moves s [] (charged outcome (.ok answer)) s' ∧ s'.loop = s.loop.settle outcome)
      (fun _ s' => s' = s) := by
  apply read_bind
  apply check_bind
  intro reservationId hreservation
  rw [require_eq_ok, h.paired, hpending] at hreservation
  cases hreservation
  obtain ⟨record, hrecord, hkey, hrefundable⟩ := h.held (by rw [hpending]; rfl)
  have hcharge := (charge_atomic (.of_found hrecord hkey hrefundable) outcome.outcomeId.val usage).refail fun _ _ hrefused => hrefused.1
  apply Outcome.bind (.zoom_same hcharge rfl)
  rintro _ _ ⟨limits, rfl, heffect⟩
  exact ⟨.settled hnew hpending heffect, rfl⟩

/-- Both settlements: a known outcome is ignored, and the usage is checked before the charge. -/
theorem settle_outcome (h : Sound s) (outcome : CapabilityOutcomeV1) (usage : Usage) (check : Except AgentErrorV1 Unit) :
    Outcome (do
        let s ← read
        let duplicate ← lift (s.loop.outcomeIsDuplicateOrMatching outcome)
        if duplicate then pure false
        else
          lift check
          settleReservedOutcome outcome usage) s
      (fun answer s' => Moves s [] (charged outcome (.ok answer)) s' ∧ (answer = true → s'.loop = s.loop.settle outcome))
      (fun _ s' => s' = s) := by
  apply read_bind
  apply check_bind
  intro duplicate hmatch
  unfold AgentLoopV1.outcomeIsDuplicateOrMatching at hmatch
  split at hmatch
  · cases hmatch
    exact ⟨.idle, fun hfalse => absurd hfalse Bool.false_ne_true⟩
  next hnew =>
    split at hmatch
    · cases hmatch
    next hpending =>
      cases hmatch
      apply check_bind
      intro _ _
      apply (settleReserved_outcome h outcome usage (by simpa using hnew) (not_not.mp hpending)).conseq
      · exact fun _ _ hsettled => ⟨hsettled.1, fun _ => hsettled.2⟩
      · exact fun _ _ hsame => hsame

theorem cancel_outcome (s : AgentStores) :
    Outcome cancel s (fun _ s' => s'.loop.cancelled = true ∧ Moves s [] [] s') (fun _ s' => s' = s) := by
  apply read_bind
  by_cases hcancelled : s.loop.cancelled = true
  · rw [if_pos hcancelled]
    exact ⟨hcancelled, .idle⟩
  rw [if_neg hcancelled]
  apply check_bind
  intro _ hnone
  rw [refuseIf_eq_ok, isSome_eq_false_iff, isNone_iff_eq_none] at hnone
  exact ⟨rfl, .cancelled hnone⟩

private theorem parse_all {ids : List String} (h : ∀ id ∈ ids, stableIdText id = true) :
    (ids.filterMap parse).map val = ids := by
  induction ids with
  | nil => rfl
  | cons id rest ih =>
    rw [forall_mem_cons] at h
    simp [parse, h.1, ih h.2]

theorem resume_outcome (h : Sound s) : Ends resume s fun s' => s' = s := by
  apply read_bind
  apply check_bind
  intro restored hrestored
  have hsame : restored = s.loop := by
    have hcompleted : ExtTreeSet.ofList (s.loop.checkpoint.completedOutcomeIds.map val) =
        s.loop.completedOutcomeIds := by
      rw [AgentLoopV1.checkpoint, parse_all fun id hid => h.named id (ExtTreeSet.mem_toList.mp hid)]
      exact ofList_toList _
    simp only [AgentLoopV1.restore, AgentLoopV1.new, bind_ok_iff] at hrestored
    obtain ⟨_, _, fresh, ⟨_, _, hfresh⟩, hrestored⟩ := hrestored
    cases hfresh
    rw [← Except.ok.inj hrestored, hcompleted]
    rfl
  rw [hsame]
  rfl

theorem perform_outcome (h : Sound s) (call : AgentCall) :
    Outcome (perform sha256 call) s (fun _ _ => True) (fun _ s' => s' = s) := by
  have hdiscard : ∀ {α : Type} {m : AgentProg α} {post : α → AgentStores → Prop}, Outcome m s post (fun _ s' => s' = s) →
      Outcome (m >>= fun _ => pure ()) s (fun _ _ => True) (fun _ s' => s' = s) :=
    fun hm => .bind hm fun _ _ _ => trivial
  cases call with
  | propose context => exact hdiscard (propose_outcome context s)
  | settle outcome actualUsage | settleRun outcome actualUsage => exact hdiscard (settle_outcome h outcome _ _)
  | cancel => exact hdiscard (cancel_outcome s)
  | resume => exact (resume_outcome h).weaken fun _ _ _ => trivial

/-- Each call is one of these moves. -/
theorem perform_moves (h : Sound s) (call : AgentCall) :
    Moves s (proposals sha256 s call) (settlements s call) (s.step sha256 call) := by
  have hsettled : ∀ {m : AgentProg Bool} {outcome : CapabilityOutcomeV1} {loop : AgentLoopV1},
      Outcome m s (fun answer s' => Moves s [] (charged outcome (.ok answer)) s' ∧ (answer = true → s'.loop = loop))
        (fun _ s' => s' = s) → Moves s [] (charged outcome (m s).1) (m s).2 := by
    intro m outcome loop hm
    refine hm.elim (fun _ _ hmoves => hmoves.1) ?_
    rintro e _ rfl
    exact .idle
  cases call with
  | propose context =>
    rw [step, perform, state_discard, proposals]
    refine (propose_outcome context s).elim (fun _ _ hmoves => hmoves) ?_
    rintro e _ rfl
    exact .idle
  | settle outcome actualUsage | settleRun outcome actualUsage =>
    rw [step, perform, state_discard]
    exact hsettled (settle_outcome h outcome _ _)
  | cancel =>
    rw [step, perform, state_discard]
    apply Outcome.state
    apply (cancel_outcome s).conseq (fun _ _ hmoves => hmoves.2)
    rintro e _ rfl
    exact .idle
  | resume =>
    have hsame := (resume_outcome h).state
    rw [step, perform, hsame]
    exact .idle

def inFlight (s : AgentStores) : Nat := if s.loop.pendingInvocationId.isSome then 1 else 0

/-- What calls leave that put invocations in flight and settle outcomes. -/
structure Follows (s : AgentStores) (proposed : List StableId) (settled : List String) (s' : AgentStores) : Prop where
  sound : Sound s'
  config : s'.loop.config = s.loop.config
  turns : s'.loop.nextTurn.toNat = min (s.loop.nextTurn.toNat + settled.length) u32Max
  flight : s.inFlight + proposed.length = s'.inFlight + settled.length
  completed : ∀ id, id ∈ s'.loop.completedOutcomeIds ↔ id ∈ s.loop.completedOutcomeIds ∨ id ∈ settled
  charges : ∀ id, id ∈ s'.limits.chargeIds ↔ id ∈ s.limits.chargeIds ∨ id ∈ settled
  cancelled : s.loop.cancelled = true → s'.loop.cancelled = true

private theorem nextTurn_le (s : AgentStores) : s.loop.nextTurn.toNat ≤ u32Max := by
  have hlt := s.loop.nextTurn.toNat_lt
  unfold u32Max
  omega

theorem Sound.refl (h : Sound s) : Follows s [] [] s where
  sound := h
  config := rfl
  turns := (Nat.min_eq_left (nextTurn_le s)).symm
  flight := rfl
  completed := by simp
  charges := by simp
  cancelled := fun hcancelled => hcancelled

theorem Follows.trans {s'' : AgentStores} {proposed proposed' : List StableId} {settled settled' : List String}
    (h : Follows s proposed settled s') (h' : Follows s' proposed' settled' s'') :
    Follows s (proposed ++ proposed') (settled ++ settled') s'' where
  sound := h'.sound
  config := h'.config.trans h.config
  turns := by
    rw [h'.turns, h.turns, length_append]
    omega
  flight := by
    have hfirst := h.flight
    have hsecond := h'.flight
    rw [length_append, length_append]
    omega
  completed := by
    intro id
    rw [h'.completed, h.completed, mem_append]
    exact or_assoc
  charges := by
    intro id
    rw [h'.charges, h.charges, mem_append]
    exact or_assoc
  cancelled := fun hcancelled => h'.cancelled (h.cancelled hcancelled)

private theorem mem_chargeIds {l l' : LimitLedger} (h : LimitLedger.Effect l (.charge reservationId chargeId actual) l')
    (id : String) : id ∈ l'.chargeIds ↔ id ∈ l.chargeIds ∨ id ∈ [chargeId] := by
  rw [mem_singleton, or_comm]
  cases h with
  | charged => exact mem_insert_set _ _ _
  | repeated hknown =>
    constructor
    · exact .inr
    · rintro (rfl | hold)
      · exact hknown
      · exact hold

theorem Moves.follows {proposed : List StableId} {settled : List String} (h : Sound s)
    (hmoves : Moves s proposed settled s') : Follows s proposed settled s' := by
  cases hmoves with
  | idle => exact h.refl
  | @proposed invocationId limits hcancelled hnone heffect =>
    exact {
      sound := ⟨rfl, fun _ => reserved_refundable heffect, h.named⟩
      config := rfl
      turns := h.refl.turns
      flight := by simp [inFlight, hnone]
      completed := by simp
      charges := by
        cases heffect
        simp
      cancelled := fun hcancel => hcancel }
  | @settled outcome usage limits hnew hpending heffect =>
    exact {
      sound := by
        refine ⟨rfl, fun hsome => absurd hsome Bool.false_ne_true, ?_⟩
        intro id hid
        rcases (mem_insert_set _ _ _).mp hid with rfl | hold
        · exact outcome.outcomeId.valid
        · exact h.named id hold
      config := rfl
      turns := toNat_saturatingSucc _
      flight := by simp [inFlight, hpending, AgentLoopV1.settle]
      completed := by
        intro id
        rw [mem_singleton, or_comm]
        exact mem_insert_set _ _ _
      charges := mem_chargeIds heffect
      cancelled := by
        intro hcancelled
        simp [AgentLoopV1.settle, hcancelled] }
  | cancelled hnone =>
    exact {
      sound := ⟨h.paired, h.held, h.named⟩
      config := rfl
      turns := h.refl.turns
      flight := rfl
      completed := by simp
      charges := by simp
      cancelled := fun _ => rfl }

/-- The invocations that a run puts in flight, in order. -/
def proposed (sha256 : String → Sha256Digest) (s : AgentStores) (calls : List AgentCall) : List StableId :=
  Once.emitted (step sha256) (proposals sha256) s calls

/-- The outcomes that a run settles, in order. -/
def settled (sha256 : String → Sha256Digest) (s : AgentStores) (calls : List AgentCall) : List String :=
  Once.emitted (step sha256) settlements s calls

theorem run_follows (h : Sound s) (calls : List AgentCall) :
    Follows s (proposed sha256 s calls) (settled sha256 s calls) (s.run sha256 calls) := by
  induction calls generalizing s with
  | nil => exact h.refl
  | cons call rest ih =>
    have hstep : Follows s _ _ (s.step sha256 call) := (perform_moves h call).follows h
    exact hstep.trans (ih hstep.sound)

theorem Moves.new {proposed : List StableId} {settled : List String} (h : Moves s proposed settled s') :
    settled.Nodup ∧ ∀ id ∈ settled, id ∉ s.loop.completedOutcomeIds := by
  cases h with
  | settled hnew => exact ⟨nodup_singleton _, fun id hid => mem_singleton.mp hid ▸ hnew⟩
  | _ => exact ⟨nodup_nil, fun _ hid => absurd hid not_mem_nil⟩

theorem settled_marked (sha256 : String → Sha256Digest) :
    Once.Marked (step sha256) settlements Sound fun s id => id ∈ s.loop.completedOutcomeIds where
  kept := fun _ call h => ((perform_moves h call).follows h).sound
  stays := fun _ call id h hid => (((perform_moves h call).follows h).completed id).mpr (.inl hid)
  fresh := fun s call id h hid => (@perform_moves s sha256 h call).new.2 id hid
  set := fun _ call id h hid => (((perform_moves h call).follows h).completed id).mpr (.inr hid)
  nodup := fun s call h => (@perform_moves s sha256 h call).new.1

/-- No reservation of a coming turn is held. -/
def Free (s : AgentStores) : Prop :=
  ∀ turn, s.loop.nextTurn.toNat ≤ turn → (turn = s.loop.nextTurn.toNat → s.loop.pendingInvocationId = none) →
    s.limits.reservations[AgentLoopV1.reservationName s.loop.config turn]? = none

/-- Turns are counted below the largest number, each with a reservation. -/
theorem Moves.counted {proposed : List StableId} {settled : List String} (h : Moves s proposed settled s') (hfree : Free s)
    (hbelow : settled ≠ [] → s.loop.nextTurn.toNat < u32Max) :
    Free s' ∧ s'.loop.nextTurn.toNat = s.loop.nextTurn.toNat + settled.length := by
  cases h with
  | idle | cancelled => exact ⟨hfree, rfl⟩
  | @proposed invocationId limits hcancelled hnone heffect =>
    refine ⟨?_, rfl⟩
    intro turn hturn hpending
    have hne : s.loop.nextTurn.toNat ≠ turn := by
      rintro rfl
      cases hpending rfl
    cases heffect with
    | reserved =>
      refine (insert_ne _ _ ?_).trans (hfree turn hturn fun _ => hnone)
      exact fun hsame => hne (AgentLoopV1.reservationName_injective _ hsame)
  | @settled outcome usage limits hnew hpending heffect =>
    have hnext : (saturatingSucc s.loop.nextTurn).toNat = s.loop.nextTurn.toNat + 1 := by
      have hlt := hbelow (cons_ne_nil _ _)
      rw [toNat_saturatingSucc]
      omega
    refine ⟨?_, hnext⟩
    intro turn hturn _
    have hlater : s.loop.nextTurn.toNat < turn := by
      have hle : (saturatingSucc s.loop.nextTurn).toNat ≤ turn := hturn
      omega
    have hnone := hfree turn hlater.le fun hsame => absurd hsame hlater.ne'
    cases heffect with
    | charged =>
      rw [eq_none_iff_forall_ne_some]
      intro record hrecord
      cases hnone.symm.trans (found_erase hrecord).2
    | repeated => exact hnone

private theorem settlements_eq_nil (h : call.isSettlement = false) : settlements s call = [] := by
  cases call with
  | settle => cases h
  | settleRun => cases h
  | _ => rfl

/-- Every settlement is called while the counter of turns can still grow. -/
def Below (sha256 : String → Sha256Digest) : AgentStores → List AgentCall → Prop
  | _, [] => True
  | s, call :: rest => (call.isSettlement = true → s.loop.nextTurn.toNat < u32Max) ∧ Below sha256 (s.step sha256 call) rest

theorem run_counted (h : Sound s) (hfree : Free s) (calls : List AgentCall) (hbelow : Below sha256 s calls) :
    Free (s.run sha256 calls) ∧
      (s.run sha256 calls).loop.nextTurn.toNat = s.loop.nextTurn.toNat + (settled sha256 s calls).length := by
  induction calls generalizing s with
  | nil => exact ⟨hfree, rfl⟩
  | cons call rest ih =>
    have hmoves : Moves s _ _ (s.step sha256 call) := perform_moves h call
    have hcount : settlements s call ≠ [] → s.loop.nextTurn.toNat < u32Max := by
      intro hsome
      apply hbelow.1
      rw [← Bool.not_eq_false]
      exact fun hfalse => hsome (settlements_eq_nil hfalse)
    obtain ⟨hnext, hturn⟩ := hmoves.counted hfree hcount
    obtain ⟨hlast, hturns⟩ := ih (hmoves.follows h).sound hnext hbelow.2
    refine ⟨hlast, hturns.trans ?_⟩
    rw [hturn, settled, settled, Once.emitted, length_append]
    omega

/-- `cancel` itself, or an outcome that settles as cancelled or denied. -/
def Cancels (s : AgentStores) : AgentCall → Prop
  | .cancel => (cancel s).1.isOk = true
  | .settle outcome actualUsage => (settleCommittedOutcome outcome actualUsage s).1 = .ok true ∧
    (outcome.outcomeClass = .cancelledEvidence ∨ outcome.outcomeClass = .denied)
  | .settleRun outcome actualUsage => (settleCommittedRunOutcome outcome actualUsage s).1 = .ok true ∧
    (outcome.outcomeClass = .cancelledEvidence ∨ outcome.outcomeClass = .denied)
  | _ => False

theorem Cancels.cancelled (h : Sound s) (hcancels : Cancels s call) : (s.step sha256 call).loop.cancelled = true := by
  have hsettled : ∀ {m : AgentProg Bool} {outcome : CapabilityOutcomeV1},
      Outcome m s (fun answer s' => Moves s [] (charged outcome (.ok answer)) s' ∧
        (answer = true → s'.loop = s.loop.settle outcome)) (fun _ s' => s' = s) →
      (m s).1 = .ok true → (outcome.outcomeClass = .cancelledEvidence ∨ outcome.outcomeClass = .denied) →
        (m s).2.loop.cancelled = true := by
    intro m outcome hm hok hclass
    have hloop := (hm.of_ok (Prod.ext hok rfl)).2 rfl
    rw [hloop]
    rcases hclass with hclass | hclass <;> simp [AgentLoopV1.settle, hclass]
  cases call with
  | cancel =>
    rw [step, perform, state_discard]
    rw [Cancels] at hcancels
    revert hcancels
    exact (cancel_outcome s).elim (fun _ _ hdone _ => hdone.1) fun _ _ _ hcancels => by cases hcancels
  | settle outcome actualUsage | settleRun outcome actualUsage =>
    rw [step, perform, state_discard]
    exact hsettled (settle_outcome h outcome _ _) hcancels.1 hcancels.2
  | _ => exact hcancels.elim

private theorem propose_cancelled (context : Value) (h : s.loop.cancelled = true) :
    (proposeModelTurn sha256 context s).1 = .error .cancelled := by
  show ((lift (refuseIf s.loop.cancelled .cancelled) >>= fun _ => _ : AgentProg WorkerInvocationProposalV1) s).1 = _
  rw [h]
  rfl

/-- Turns, invocations in flight and reservations after a run, and what it does with a refused and a cancelling
call. -/
structure TurnsPaired (sha256 : String → Sha256Digest) (start : AgentStores) (calls : List AgentCall) : Prop where
  turns : (start.run sha256 calls).loop.nextTurn.toNat = (settled sha256 start calls).length
  oneInFlight : (proposed sha256 start calls).length = (settled sha256 start calls).length +
    if (start.run sha256 calls).loop.pendingInvocationId.isSome then 1 else 0
  reserved : (start.run sha256 calls).loop.pendingInvocationId.isSome ↔ ∃ record : ReservationRecord,
    (start.run sha256 calls).limits.reservations[(start.run sha256 calls).loop.reservationId]? = some record
  chargedOnce : (settled sha256 start calls).Nodup ∧ ∀ id,
    id ∈ (start.run sha256 calls).limits.chargeIds ↔ id ∈ start.limits.chargeIds ∨ id ∈ settled sha256 start calls
  unchanged : ∀ call e s', perform sha256 call (start.run sha256 calls) = (.error e, s') → s' = start.run sha256 calls
  stopped : ∀ call, Cancels (start.run sha256 calls) call → ∀ (later : List AgentCall) (context : Value),
    (proposeModelTurn sha256 context (((start.run sha256 calls).step sha256 call).run sha256 later)).1 = .error .cancelled

/-- A new loop beside a ledger without its reservations: in every run that settles below the largest turn both stay
paired. -/
theorem turns_paired (sha256 : String → Sha256Digest) (config : AgentLoopConfigV1) (loop : AgentLoopV1)
    (hnew : AgentLoopV1.new config = .ok loop) (limits : LimitLedger)
    (hfree : ∀ turn, limits.reservations[AgentLoopV1.reservationName config turn]? = none) (calls : List AgentCall)
    (hbelow : Below sha256 ⟨loop, limits⟩ calls) : TurnsPaired sha256 ⟨loop, limits⟩ calls := by
  simp only [AgentLoopV1.new, bind_ok_iff] at hnew
  obtain ⟨_, _, hloop⟩ := hnew
  cases hloop
  have hsound : Sound ⟨⟨config, 0, none, none, ∅, false⟩, limits⟩ :=
    ⟨rfl, fun hsome => absurd hsome Bool.false_ne_true, by simp⟩
  obtain ⟨hlast, hturns⟩ := run_counted hsound (fun turn _ _ => hfree turn) calls hbelow
  have hfollows := @run_follows _ sha256 hsound calls
  constructor
  · simpa using hturns
  · have hflight := hfollows.flight
    simp only [inFlight, isSome_none, Bool.false_eq_true, if_false] at hflight
    omega
  · constructor
    · intro hsome
      obtain ⟨record, hrecord, _⟩ := hfollows.sound.held hsome
      exact ⟨record, hrecord⟩
    · rintro ⟨record, hrecord⟩
      by_contra hnone
      rw [Bool.not_eq_true, isSome_eq_false_iff, isNone_iff_eq_none] at hnone
      cases (hlast _ (Nat.le_refl _) fun _ => hnone).symm.trans hrecord
  · exact ⟨((settled_marked sha256).emitted_once hsound calls).1, by simpa using hfollows.charges⟩
  · exact fun call e s' hrun => (perform_outcome hfollows.sound call).of_error hrun
  · intro call hcancels later context
    apply propose_cancelled
    have hstep := (@perform_moves _ sha256 hfollows.sound call).follows hfollows.sound
    exact (run_follows hstep.sound later).cancelled (hcancels.cancelled hfollows.sound)

/-- A loop that reserves one token for each turn. -/
def sampleConfig : AgentLoopConfigV1 where
  loopId := .ofText "l"
  nodeId := .ofText "n"
  modelCapabilityRef := .ofText "m"
  authorityManifestRef := .ofText "a"
  budgetRef := .ofText "b"
  scopeId := "r"
  turnReservation := ⟨0, 0, 0, 1, 0, 0⟩
  contextPointers := []
  allowedToolCapabilityRefs := []

def sampleLoop : AgentLoopV1 := ⟨sampleConfig, 0, none, none, ∅, false⟩

private theorem new_sampleLoop : AgentLoopV1.new sampleConfig = .ok sampleLoop := rfl

variable (charges : ExtTreeSet String)

/-- The ledger of the samples with some charges, and with a token reserved. -/
def chargedLedger : LimitLedger := { sampleLedger with chargeIds := charges }

variable (reservationId : String)

def reservedLedger : LimitLedger :=
  { chargedLedger charges with
    scopes := (chargedLedger charges).scopes.insert "r" ⟨none, 0, { sampleBudget with tokens := 999 }, 0, 0⟩
    reservations := (∅ : ExtTreeMap String ReservationRecord).insert reservationId ⟨reservationId, "r", ⟨0, 0, 0, 1, 0, 0⟩⟩ }

private theorem reserve_sample {charges : ExtTreeSet String} {reservationId : String}
    (hvalid : validateLogicalId reservationId = .ok ()) (hfresh : charges.contains reservationId = false) :
    reserve "r" reservationId ⟨0, 0, 0, 1, 0, 0⟩ (chargedLedger charges) =
      (.ok (), reservedLedger charges reservationId) := by
  show (lift (validateLogicalId reservationId) >>= fun _ => _ : LimitM Unit) _ = _
  rw [hvalid]
  show (lift (refuseIf (false || charges.contains reservationId) _) >>= fun _ => _ : LimitM Unit) _ = _
  rw [hfresh]
  rfl

private theorem take_sample :
    takeReservation reservationId (reservedLedger charges reservationId) =
      (.ok ⟨reservationId, "r", ⟨0, 0, 0, 1, 0, 0⟩⟩, { reservedLedger charges reservationId with reservations := ∅ }) := by
  have hheld : (reservedLedger charges reservationId).reservations[reservationId]? =
      some ⟨reservationId, "r", ⟨0, 0, 0, 1, 0, 0⟩⟩ := ExtTreeMap.getElem?_insert_self
  have hgone : (reservedLedger charges reservationId).reservations.erase reservationId = ∅ := erase_insert (by simp)
  show (lift (require (reservedLedger charges reservationId).reservations[reservationId]? _) >>= fun _ => _ :
    LimitM ReservationRecord) _ = _
  rw [hheld, ← hgone]
  rfl

private theorem refund_sample :
    adjust (·.checkedAddUsage ⟨0, 0, 0, 1, 0, 0⟩) ["r"]
      { reservedLedger charges reservationId with reservations := ∅ } = (.ok (), chargedLedger charges) := by
  have hscopes : (reservedLedger charges reservationId).scopes.insert "r" ⟨none, 0, sampleBudget, 0, 0⟩ =
      sampleLedger.scopes := by
    apply ExtTreeMap.ext_getElem?
    intro id
    by_cases hid : "r" = id
    · subst hid
      rfl
    · rw [insert_ne _ _ hid]
      exact insert_ne _ _ hid
  rw [chargedLedger, ← hscopes]
  rfl

private theorem charge_sample {charges : ExtTreeSet String} {reservationId chargeId : String}
    (hvalid : validateLogicalId chargeId = .ok ()) (hfresh : charges.contains chargeId = false) :
    charge reservationId chargeId ⟨0, 0, 0, 0, 0, 0⟩ (reservedLedger charges reservationId) =
      (.ok (), chargedLedger (charges.insert chargeId)) := by
  show (lift (validateLogicalId chargeId) >>= fun _ => _ : LimitM Unit) _ = _
  rw [hvalid]
  show (if charges.contains chargeId then _ else _ : LimitM Unit) _ = _
  rw [hfresh, if_neg Bool.false_ne_true, run_bind (take_sample charges reservationId)]
  have hwithin : Usage.contains ⟨0, 0, 0, 1, 0, 0⟩ ⟨0, 0, 0, 0, 0, 0⟩ = true := rfl
  have hunused : Usage.checkedSub ⟨0, 0, 0, 1, 0, 0⟩ ⟨0, 0, 0, 0, 0, 0⟩ = .ok ⟨0, 0, 0, 1, 0, 0⟩ := rfl
  have hlineage : ({ reservedLedger charges reservationId with reservations := ∅ } : LimitLedger).scopeLineage "r" =
      .ok ["r"] := rfl
  rw [hwithin, hunused, if_neg (by simp)]
  refine (run_bind rfl).trans ((run_bind rfl).trans ?_)
  rw [hlineage]
  refine (run_bind rfl).trans ?_
  exact run_bind (refund_sample charges reservationId)

def outcomeName (k : Nat) : String := "o" ++ toString k

def outcomeNames : Nat → ExtTreeSet String
  | 0 => ∅
  | k + 1 => (outcomeNames k).insert (outcomeName k)

theorem outcomeNames_fresh {k : Nat} {id : String} (h : ∀ j < k, id ≠ outcomeName j) :
    (outcomeNames k).contains id = false := by
  induction k with
  | zero => rfl
  | succ k ih =>
    rw [Bool.eq_false_iff]
    intro hcontains
    rcases (mem_insert_set _ _ _).mp (ExtTreeSet.contains_iff_mem.mp hcontains) with hsame | hold
    · exact h k (Nat.lt_succ_self k) hsame
    · have hnot := ih fun j hj => h j (Nat.lt_succ_of_lt hj)
      rw [ExtTreeSet.contains_iff_mem.mpr hold] at hnot
      cases hnot

def sampleTurn (k : Nat) : UInt32 := UInt32.ofNat (min k u32Max)

private theorem toNat_sampleTurn (k : Nat) : (sampleTurn k).toNat = min k u32Max := by
  rw [sampleTurn, UInt32.toNat_ofNat']
  exact Nat.mod_eq_of_lt (by unfold u32Max; omega)

private theorem saturatingSucc_sampleTurn (k : Nat) : saturatingSucc (sampleTurn k) = sampleTurn (k + 1) := by
  apply UInt32.toNat_inj.mp
  rw [toNat_saturatingSucc, toNat_sampleTurn, toNat_sampleTurn]
  omega

def sampleAfter (k : Nat) : AgentStores :=
  ⟨⟨sampleConfig, sampleTurn k, none, none, outcomeNames k, false⟩, chargedLedger (outcomeNames k)⟩

section Rounds
variable (sha256) (k : Nat)

def sampleInvocation : StableId :=
  digestId (sha256 ("agent:" ++ sampleConfig.loopId.val ++ ":" ++ toString (sampleTurn k).toNat))

def sampleOutcome : CapabilityOutcomeV1 :=
  ⟨.ofText (outcomeName k), sampleInvocation sha256 k, .success, false, .null, none⟩

/-- A turn is proposed and its outcome, which used nothing, is settled. -/
def sampleRound : List AgentCall := [.propose .null, .settle (sampleOutcome sha256 k) ⟨1, 1, 0, 0, 0, 0⟩]

def sampleReservation : String := AgentLoopV1.reservationName sampleConfig (sampleTurn k).toNat

def sampleMid : AgentStores :=
  ⟨{ (sampleAfter k).loop with
    pendingInvocationId := some (sampleInvocation sha256 k)
    pendingReservationId := some (sampleReservation k) }, reservedLedger (outcomeNames k) (sampleReservation k)⟩

private theorem sampleReservation_free : validateLogicalId (sampleReservation k) = .ok () ∧
    (outcomeNames k).contains (sampleReservation k) = false := by
  have hturn : (sampleTurn k).toNat < 10 ^ 20 := by
    rw [toNat_sampleTurn]
    unfold u32Max
    omega
  have hvalid : stableIdText ("agent.l." ++ toString (sampleTurn k).toNat) = true :=
    stableIdText_number (by decide) (by decide) hturn
  have hname : sampleReservation k = "agent.l." ++ toString (sampleTurn k).toNat := rfl
  rw [hname]
  refine ⟨validateLogicalId_stable hvalid, outcomeNames_fresh ?_⟩
  intro j _ hsame
  have hhead := congrArg (fun text : String => text.toList.head?) hsame
  simp [outcomeName] at hhead

private theorem sample_propose : (sampleAfter k).step sha256 (.propose .null) = sampleMid sha256 k := by
  obtain ⟨hvalid, hfresh⟩ := sampleReservation_free k
  have hreserve : onLimits (reserve sampleConfig.scopeId (sampleReservation k)
      (resourceUsage sampleConfig.turnReservation)) (sampleAfter k) =
      (.ok (), { sampleAfter k with limits := reservedLedger (outcomeNames k) (sampleReservation k) }) :=
    run_zoom (reserve_sample hvalid hfresh)
  have hrun : ∃ proposal, proposeModelTurn sha256 .null (sampleAfter k) = (.ok proposal, sampleMid sha256 k) := by
    simp only [proposeModelTurn, agentStableId_eq]
    apply Exists.intro
    refine (run_bind rfl).trans ?_
    refine (run_bind rfl).trans ?_
    refine (run_bind rfl).trans ?_
    refine (run_bind rfl).trans ?_
    refine (run_bind hreserve).trans ?_
    rfl
  obtain ⟨proposal, hproposal⟩ := hrun
  rw [step, perform, state_discard, hproposal]

private theorem sampleOutcome_id (hk : k < 10 ^ 20) : (sampleOutcome sha256 k).outcomeId.val = outcomeName k := by
  have hvalid : stableIdText (outcomeName k) = true := stableIdText_number (by decide) (by decide) hk
  simp [sampleOutcome, ofText, parse, hvalid]

private theorem sample_settle (hk : k < 10 ^ 20) :
    settleCommittedOutcome (sampleOutcome sha256 k) ⟨1, 1, 0, 0, 0, 0⟩ (sampleMid sha256 k) =
      (.ok true, sampleAfter (k + 1)) := by
  have hid := sampleOutcome_id sha256 k hk
  have hvalid : validateLogicalId (outcomeName k) = .ok () :=
    validateLogicalId_stable (stableIdText_number (by decide) (by decide) hk)
  have hfresh : (outcomeNames k).contains (outcomeName k) = false := by
    apply outcomeNames_fresh
    intro j hj hsame
    have hdigits : toString k = toString j := by simpa [outcomeName, String.append_right_inj] using hsame
    exact absurd (Nat.repr_injective hdigits) hj.ne'
  have hcharge : onLimits (charge (sampleReservation k) (sampleOutcome sha256 k).outcomeId.val
      ⟨0, 0, 0, 0, 0, 0⟩) (sampleMid sha256 k) =
      (.ok (), { sampleMid sha256 k with limits := chargedLedger (outcomeNames (k + 1)) }) := by
    rw [hid]
    exact run_zoom (charge_sample hvalid hfresh)
  have hmatch : (sampleMid sha256 k).loop.outcomeIsDuplicateOrMatching (sampleOutcome sha256 k) = .ok false := by
    unfold AgentLoopV1.outcomeIsDuplicateOrMatching
    rw [hid]
    show (if (outcomeNames k).contains (outcomeName k) = true then _ else _) = _
    have hpending : (sampleMid sha256 k).loop.pendingInvocationId = some (sampleOutcome sha256 k).invocationId := rfl
    rw [hfresh, if_neg Bool.false_ne_true, if_neg (not_not.mpr hpending)]
  have hloop : (sampleMid sha256 k).loop.settle (sampleOutcome sha256 k) = (sampleAfter (k + 1)).loop := by
    rw [AgentLoopV1.settle, hid]
    simp only [sampleMid, sampleAfter, saturatingSucc_sampleTurn]
    rfl
  refine (run_bind rfl).trans ?_
  rw [hmatch]
  refine (run_bind rfl).trans ?_
  refine (run_bind rfl).trans ?_
  refine (run_bind rfl).trans ?_
  refine (run_bind rfl).trans ?_
  refine (run_bind hcharge).trans ?_
  exact congrArg (fun loop => (Except.ok true, (⟨loop, chargedLedger (outcomeNames (k + 1))⟩ : AgentStores))) hloop

private theorem sample_round (hk : k < 10 ^ 20) : (sampleAfter k).run sha256 (sampleRound sha256 k) = sampleAfter (k + 1) ∧
    settled sha256 (sampleAfter k) (sampleRound sha256 k) = [outcomeName k] := by
  have hsettle := sample_settle sha256 k hk
  have hstep : (sampleMid sha256 k).step sha256 (.settle (sampleOutcome sha256 k) ⟨1, 1, 0, 0, 0, 0⟩) = sampleAfter (k + 1) := by
    rw [step, perform, state_discard, hsettle]
  have hsettled : settlements (sampleMid sha256 k) (.settle (sampleOutcome sha256 k) ⟨1, 1, 0, 0, 0, 0⟩) = [outcomeName k] := by
    rw [settlements, hsettle, charged, sampleOutcome_id sha256 k hk]
  constructor
  · rw [run, sampleRound, foldl_cons, foldl_cons, sample_propose, hstep]
    rfl
  · rw [settled, sampleRound, Once.emitted, Once.emitted, sample_propose, hsettled]
    rfl

end Rounds

def sampleRounds (sha256 : String → Sha256Digest) (n : Nat) : List AgentCall := (range n).flatMap (sampleRound sha256)

private theorem sample_rounds (sha256 : String → Sha256Digest) (hn : n < 10 ^ 20) :
    (sampleAfter 0).run sha256 (sampleRounds sha256 n) = sampleAfter n ∧
      (settled sha256 (sampleAfter 0) (sampleRounds sha256 n)).length = n := by
  induction n with
  | zero => exact ⟨rfl, rfl⟩
  | succ n ih =>
    obtain ⟨hrun, hlength⟩ := ih (Nat.lt_of_succ_lt hn)
    obtain ⟨hround, hsettled⟩ := sample_round sha256 n (Nat.lt_of_succ_lt hn)
    have hsplit : sampleRounds sha256 (n + 1) = sampleRounds sha256 n ++ sampleRound sha256 n := by
      rw [sampleRounds, range_succ, flatMap_append, flatMap_singleton]
      rfl
    have hfold : (sampleRounds sha256 n).foldl (step sha256) (sampleAfter 0) = sampleAfter n := hrun
    constructor
    · rw [hsplit, run, foldl_append, hfold]
      exact hround
    · rw [hsplit, settled, Once.emitted_append, length_append, hfold]
      rw [settled] at hlength hsettled
      rw [hlength, hsettled, length_singleton]

private theorem sampleStart_eq : (⟨sampleLoop, sampleLedger⟩ : AgentStores) = sampleAfter 0 := rfl

/-- More outcomes are settled than the counter can count. -/
private theorem sample_rounds_unpaired (sha256 : String → Sha256Digest) (hn : n < 10 ^ 20) (hmany : u32Max < n) :
    ¬TurnsPaired sha256 ⟨sampleLoop, sampleLedger⟩ (sampleRounds sha256 n) := by
  rw [sampleStart_eq]
  intro hpaired
  obtain ⟨hrun, hlength⟩ := sample_rounds sha256 hn
  have hturns := hpaired.turns
  rw [hrun, hlength] at hturns
  have hturn : (sampleTurn n).toNat = n := hturns
  rw [toNat_sampleTurn] at hturn
  omega

/-- The turn counter saturates: after as many settled outcomes as there are `u32` values it counts one less. -/
theorem turn_counter_saturates : AgentLoopV1.new sampleConfig = .ok sampleLoop ∧
    new "r" sampleBudget = .ok sampleLedger ∧ ∀ sha256,
      ¬TurnsPaired sha256 ⟨sampleLoop, sampleLedger⟩ (sampleRounds sha256 (2 ^ 32)) := by
  refine ⟨new_sampleLoop, new_sampleLedger, fun sha256 => ?_⟩
  apply sample_rounds_unpaired
  · norm_num
  · norm_num [u32Max]

/-- One round meets the condition, and keeps turns and reservations paired. -/
theorem sample_turns_paired :
    (∀ sha256, Below sha256 ⟨sampleLoop, sampleLedger⟩ (sampleRound sha256 0)) ∧ ∀ sha256,
      TurnsPaired sha256 ⟨sampleLoop, sampleLedger⟩ (sampleRound sha256 0) := by
  have hbelow (sha256 : String → Sha256Digest) : Below sha256 ⟨sampleLoop, sampleLedger⟩ (sampleRound sha256 0) := by
    have hstep : (⟨sampleLoop, sampleLedger⟩ : AgentStores).step sha256 (.propose .null) = sampleMid sha256 0 :=
      sample_propose sha256 0
    refine ⟨fun hfalse => absurd hfalse Bool.false_ne_true, ?_, trivial⟩
    rw [hstep]
    intro _
    show (sampleTurn 0).toNat < u32Max
    rw [toNat_sampleTurn]
    decide
  refine ⟨hbelow, fun sha256 => ?_⟩
  apply turns_paired sha256 sampleConfig sampleLoop new_sampleLoop sampleLedger _ _ (hbelow sha256)
  intro turn
  exact ExtTreeMap.getElem?_empty

end AgentStores
end Aworkit.Worker
