import Aworkit.Helper.CoordinatorRuns

/-! When the next recovery brings an interrupted activation to its end. -/
namespace Aworkit.Helper
open Protocol Fallible Hoare JournalStorage
variable {Ω Ω' : Type} {d : CoordinatorDigests} {ports : Ports Ω} {baton : BatonAcceptedV1} {w : World Ω}
  {phase : BootstrapPhaseV1} {pending : Option BootstrapEffectV1} {execution : ActivationExecutionV1}
  {next : BootstrapPhaseV1}

/-- The world of a later run: it holds the lock, before a host of its own and with writes that all succeed. -/
def World.later (w : World Ω) (host : Ω') : World Ω' where
  journal := { held := true, storage := { w.storage with locked := true }, writes := [] }
  receipts := w.receipts
  host := host
  trace := w.trace

theorem At.later (h : At d baton phase pending w) (host : Ω') : At d baton phase pending (w.later host) :=
  ⟨h.stage.same ⟨rfl, rfl, rfl, rfl⟩, h.fits, h.traced, h.memory⟩

theorem Resting.later (h : Resting d baton w) (host : Ω') : Resting d baton (w.later host) := by
  rcases h with ⟨phase, pending, h⟩ | ⟨⟨result, hresult, hnamed⟩, htraced⟩
  · exact (h.later host).resting
  · exact .inr ⟨⟨result, hresult.same ⟨rfl, rfl, rfl, rfl⟩, hnamed⟩, htraced⟩

/-- A recovery answers with the result that is there and leaves all as it is. -/
theorem recoverActivation_readable {result : BootstrapResultV1}
    (h : Readable d.toJournalDigests w.storage result) (given : Option ActivationExecutionV1) :
    recoverActivation d ports result.activationId given w = (.ok result, w) := by
  obtain ⟨_, state, hload, hterminal⟩ := h
  have hrun : coordinatorState d result.activationId w = (.ok state, w) := by
    apply (Prog.run_read w).trans
    rw [hload]
    rfl
  rw [recoverActivation, Prog.run_bind hrun, hterminal]
  rfl

/-- Without its notice a manual recovery cannot go on, whatever the host does. -/
theorem recoverActivation_unnoticed (h : At d baton .manualRecoveryRequired pending w)
    (hnotice : w.storage.notice = none) (hvalid : validateExecution d execution baton = .ok ()) :
    (recoverActivation d ports baton.activationId (some execution) w).1 = .error (.failed .missingRecoveryContext) := by
  have houtcome : Outcome (recoverActivation d ports baton.activationId (some execution)) w (fun _ _ => False)
      fun e _ => e = .failed .missingRecoveryContext := by
    refine recoverActivation_at h hvalid fun state hstate => ?_
    rw [recoverPhase, hstate.inPhase, hstate.notice, hnotice]
    rfl
  exact houtcome.elim (fun _ _ => False.elim) fun e _ he => congrArg Except.error he

private theorem advance_crashed (h : At d baton phase none w) (hheld : w.journal.held = true)
    (hwrites : w.journal.writes = [.unconfirmed]) (hroom : w.storage.records.length < maxJournalRecords)
    (hedge : bootstrapCanAdvance phase next = true) (hterminal : bootstrapIsTerminal phase = false)
    (hinside : outsideActivation next = false) (hnext : next ≠ .batonDurable) :
    Outcome (advance d baton.activationId next) w (fun _ _ => False) fun _ w' =>
      At d baton next none w' ∧ w'.journal.held = true ∧ w'.storage.notice = w.storage.notice ∧
        w'.storage.records.length = w.storage.records.length + 1 := by
  have hlive : bootstrapIsTerminal phase = true → phase = .verified ∧ next = .recovering := by
    rw [hterminal]
    exact Bool.noConfusion
  refine state_bind h fun state hstate => ?_
  rw [hstate.next, hstate.inPhase]
  refine .via (fun _ _ => False) (.zoom ?_) fun _ _ h => h
  refine ActivationJournal.guarded_bind (guardAdvance d.toJournalDigests · _) _ ?_ ?_ ?_
  · intro hunheld
    cases hheld.symm.trans hunheld
  · intro e he
    cases (h.guardAdvance hedge hlive hroom).symm.trans he
  · intro _ _ _
    apply Outcome.halts
    apply read_bind
    refine pass_bind (a := ()) (requireCapacity_eq_ok.mpr hroom) ?_
    refine pass_bind (nextRecord_eq _ rfl) ?_
    apply Outcome.halts
    apply read_bind
    refine pass_bind (a := ()) ((refuseIf_eq_ok _ _ ()).mpr (decide_eq_false (Nat.lt_irrefl _))) ?_
    unfold Outcome write
    rw [hwrites]
    refine ⟨⟨h.advanced hlive hroom, .closed hinside, h.traced, fun hdurable => absurd hdurable hnext⟩, hheld, rfl, ?_⟩
    exact List.length_append

/-- After every run a later recovery seals the activation, if the journal has room and a manual recovery has its
notice, without which none ends. -/
theorem World.recovery_finishes (d : CoordinatorDigests) (ports : Ports Ω) (baton : BatonAcceptedV1) (w : World Ω)
    (hstart : w.Starts d baton) (steps : List CoordinatorStep) (later : Ports Ω') (hlive : later.Live) (host : Ω')
    (execution : ActivationExecutionV1) (hvalid : validateExecution d execution baton = .ok ()) :
    (((w.run d ports steps).storage.receipt = none → Recoverable (w.run d ports steps).storage) →
      ∃ result w', recoverActivation d later baton.activationId (some execution)
          ((w.run d ports steps).later host) = (.ok result, w') ∧
        Readable d.toJournalDigests w'.storage result ∧
        ∀ earlier, Readable d.toJournalDigests (w.run d ports steps).storage earlier → result = earlier) ∧
    ((w.run d ports steps).storage.receipt = none →
      deriveBootstrapPhase (w.run d ports steps).storage.records = .manualRecoveryRequired →
      (w.run d ports steps).storage.notice = none →
        (recoverActivation d later baton.activationId (some execution) ((w.run d ports steps).later host)).1 =
          .error (.failed .missingRecoveryContext)) := by
  have hresting : Resting d baton (w.run d ports steps) := World.run_resting hstart.resting steps
  refine ⟨fun hrecoverable => ?_, fun hunsealed hmanual hnotice => ?_⟩
  · have hundisturbed : Undisturbed d later baton baton.activationId (some execution)
        ((w.run d ports steps).later host) := by
      refine ⟨rfl, ⟨execution, rfl, hvalid⟩, hlive, ⟨rfl, rfl⟩, fun hnone => ?_⟩
      have hsame := hrecoverable hnone
      exact ⟨hsame.noticed, hsame.room⟩
    have houtcome : Answers _ d baton (recoverActivation d later baton.activationId (some execution))
        ((w.run d ports steps).later host) (Finished d baton) :=
      recoverActivation_outcome (hresting.later host) baton.activationId (some execution)
    unfold Answers Outcome at houtcome
    rcases hrun : recoverActivation d later baton.activationId (some execution) ((w.run d ports steps).later host)
      with ⟨answer, w'⟩
    rw [hrun] at houtcome
    cases answer with
    | error e => exact (houtcome.2 hundisturbed).elim
    | ok result =>
      refine ⟨result, w', rfl, houtcome.isSealed.readable, fun earlier hearlier => ?_⟩
      have hid : earlier.activationId = baton.activationId := by
        obtain ⟨header, hactivated, hnamed⟩ := hresting.activated
        obtain ⟨⟨other, hother, hnamed'⟩, _⟩ := readable_iff.mp hearlier
        cases hactivated.stored.symm.trans hother.stored
        exact hnamed'.symm.trans hnamed
      have hlater : Readable d.toJournalDigests ((w.run d ports steps).later host).storage earlier := hearlier
      have hsame := (recoverActivation_readable hlater (some execution)).symm.trans (hid ▸ hrun)
      exact (Except.ok.inj (Prod.mk.inj hsame).1).symm
  · rcases hresting with ⟨phase, pending, h⟩ | ⟨⟨result, hresult, _⟩, _⟩
    · obtain rfl := h.stage.derived.symm.trans hmanual
      exact recoverActivation_unnoticed (h.later host) hnotice hvalid
    · have hsealed := hresult.receipt_isSome
      rw [hunsealed] at hsealed
      cases hsealed

section Sample
variable (d)

/-- The sample's activation between two runs, without a notice. -/
structure Paused (phase : BootstrapPhaseV1) (length : Nat) (w : World Unit) : Prop where
  stays : At d (sampleBound d) phase none w
  held : w.journal.held = true
  unnoticed : w.storage.notice = none
  length : w.storage.records.length = length

/-- A recovery before refusing ports that stops behind its first write. -/
def sampleCrash : CoordinatorStep :=
  .recover [.unconfirmed] ActivationJournal.sampleId (some (sampleExecution d))

variable {d} {w : World Unit} {length : Nat}

theorem Paused.facing (h : Paused d phase length w) (writes : List WriteOutcome) :
    Paused d phase length (w.facing writes) :=
  ⟨h.stays.same (.refl _) rfl rfl, h.held, h.unnoticed, h.length⟩

theorem Paused.advance (h : Paused d phase length w)
    (hwrites : w.journal.writes = [.unconfirmed]) (hroom : length < maxJournalRecords)
    (hedge : bootstrapCanAdvance phase next = true) (hterminal : bootstrapIsTerminal phase = false)
    (hinside : outsideActivation next = false) (hnext : next ≠ .batonDurable) :
    Outcome (advance d (sampleBound d).activationId next) w (fun _ _ => False)
      fun _ => Paused d next (length + 1) := by
  refine (advance_crashed h.stays h.held hwrites (h.length ▸ hroom) hedge hterminal hinside hnext).conseq
    (fun _ _ h => h) ?_
  rintro _ w' ⟨hat, hheld, hnotice, hlength⟩
  exact ⟨hat, hheld, hnotice.trans h.unnoticed, hlength.trans (congrArg (· + 1) h.length)⟩

theorem Paused.recovering (h : Paused d .batonDurable length w) (hroom : length < maxJournalRecords) :
    Paused d .recovering (length + 1) (w.step d refusing (sampleCrash d)) := by
  have h' := h.facing [.unconfirmed]
  have houtcome : Ends (recoverActivation d refusing (sampleBound d).activationId (some (sampleExecution d)))
      (w.facing [.unconfirmed]) (Paused d .recovering (length + 1)) := by
    refine recoverActivation_at h'.stays (sampleExecution_valid d) fun state hstate => ?_
    rw [recoverPhase, hstate.inPhase]
    rw [recoverInterrupted, hstate.inPhase, hstate.opened]
    refine .via (fun _ w' => w' = w.facing [.unconfirmed]) rfl ?_
    rintro _ _ rfl
    apply Outcome.halts
    refine state_bind h'.stays fun state hstate => ?_
    rw [hstate.inPhase]
    exact h'.advance rfl hroom rfl rfl rfl (by decide)
  exact houtcome.state

theorem Paused.manual (h : Paused d .recovering length w) (hroom : length < maxJournalRecords) :
    Paused d .manualRecoveryRequired (length + 1) (w.step d refusing (sampleCrash d)) := by
  have h' := h.facing [.unconfirmed]
  have houtcome : Ends (recoverActivation d refusing (sampleBound d).activationId (some (sampleExecution d)))
      (w.facing [.unconfirmed]) (Paused d .manualRecoveryRequired (length + 1)) := by
    refine recoverActivation_at h'.stays (sampleExecution_valid d) fun state hstate => ?_
    rw [recoverPhase, hstate.inPhase]
    rw [recoverInterrupted, hstate.inPhase, hstate.opened]
    refine .via (fun _ w' => w' = w.facing [.unconfirmed]) rfl ?_
    rintro _ _ rfl
    refine .via (fun _ w' => w' = w.facing [.unconfirmed]) ?_ ?_
    · refine state_bind h'.stays fun state hstate => ?_
      rw [hstate.inPhase]
      rfl
    rintro _ _ rfl
    let asked : World Unit := { w.facing [.unconfirmed] with
      trace := w.trace ++ [⟨w.storage.records, .observed (some (.error (.observation "refused")))⟩] }
    have hasked : Paused d .recovering length asked :=
      ⟨⟨h'.stays.stage, h'.stays.fits, h'.stays.traced.snoc (.observed _), fun hphase => by cases hphase⟩,
        h'.held, h'.unnoticed, h'.length⟩
    show Outcome (Aworkit.Helper.manual d refusing _ _ _ _) asked _ _
    apply Outcome.halts
    refine state_bind hasked.stays fun state hstate => ?_
    rw [hstate.inPhase]
    exact hasked.advance rfl hroom rfl rfl rfl (by decide)
  exact houtcome.state

/-- A recovery stops between its advance to a manual recovery and the notice; no later one ends. -/
theorem World.recovery_without_notice : (∀ d, (sampleWorld d ()).Starts d (sampleBound d)) ∧
    (∀ d, validateExecution d (sampleExecution d) (sampleBound d) = .ok ()) ∧
    ∀ (d : CoordinatorDigests) (Ω : Type) (later : Ports Ω) (host : Ω),
      (recoverActivation d later (sampleBound d).activationId (some (sampleExecution d))
        (((sampleWorld d ()).run d refusing [sampleCrash d, sampleCrash d]).later host)).1 =
          .error (.failed .missingRecoveryContext) := by
  refine ⟨fun d => sampleWorld_starts d (), sampleExecution_valid, fun d Ω later host => ?_⟩
  have hstart := sampleWorld_starts d ()
  have hdurable : Paused d .batonDurable 2 (sampleWorld d ()) :=
    ⟨⟨hstart.stage, .closed rfl, .nil, fun _ => rfl⟩, rfl, rfl, rfl⟩
  have hmanual := (hdurable.recovering (by decide)).manual (by decide)
  exact recoverActivation_unnoticed (hmanual.stays.later host) hmanual.unnoticed (sampleExecution_valid d)

/-- The sample's activation is given up behind a crash. -/
theorem World.sample_recovery_finishes : (∀ d, (sampleWorld d ()).Starts d (sampleBound d)) ∧ ∀ d,
    ∃ result w', recoverActivation d refusing (sampleBound d).activationId (some (sampleExecution d))
        (((sampleWorld d ()).run d refusing [sampleCrash d]).later ()) = (.ok result, w') ∧
      Readable d.toJournalDigests w'.storage result := by
  refine ⟨fun d => sampleWorld_starts d (), fun d => ?_⟩
  have hstart := sampleWorld_starts d ()
  have hdurable : Paused d .batonDurable 2 (sampleWorld d ()) :=
    ⟨⟨hstart.stage, .closed rfl, .nil, fun _ => rfl⟩, rfl, rfl, rfl⟩
  have hrecovering := hdurable.recovering (by decide)
  obtain ⟨hfinishes, _⟩ := World.recovery_finishes d refusing (sampleBound d) _ hstart [sampleCrash d] refusing
    refusing_live () (sampleExecution d) (sampleExecution_valid d)
  have hrecoverable : Recoverable ((sampleWorld d ()).run d refusing [sampleCrash d]).storage := by
    constructor
    · intro hmanual
      cases hrecovering.stays.stage.derived.symm.trans hmanual
    · have hlength := hrecovering.length
      have hderived := hrecovering.stays.stage.derived
      have hopened := hrecovering.stays.stage.opened
      show ((sampleWorld d ()).step d refusing (sampleCrash d)).storage.records.length + recoveryRecords
        (deriveBootstrapPhase ((sampleWorld d ()).step d refusing (sampleCrash d)).storage.records)
        (openEffect ((sampleWorld d ()).step d refusing (sampleCrash d)).storage.records) ≤ _
      rw [hlength, hderived, hopened]
      decide
  obtain ⟨result, w', hrun, hreadable, _⟩ := hfinishes fun _ => hrecoverable
  exact ⟨result, w', hrun, hreadable⟩

end Sample

end Aworkit.Helper
