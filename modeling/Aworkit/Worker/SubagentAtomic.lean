import Aworkit.Logic.Once
import Aworkit.Worker.LimitAnchor
import Aworkit.Worker.Subagent

/-! Subagent operations across the three stores: a refused one changes none, a result is integrated once, and the
child's scope stays closed. -/
namespace Aworkit.Worker
open Protocol Fallible Hoare OrderedMap LimitLedger ContextStore Outcome

namespace SubagentStores
variable {s s' : SubagentStores} {enc : ContextEncoding} {context : ContextStore} {limitCall : LimitCall}

/-- The ledger is anchored, and every frame names the scope of its child. -/
structure Sound (s : SubagentStores) : Prop where
  anchored : s.limits.Anchored
  framed : ∀ (id : String) (frame : ChildFrameV1), s.manager.children[id]? = some frame → frame.scopeId = childScope id

/-- A call past the manager that creates the scope of a child. -/
def Recreates (childId : String) : SubagentCall → Prop
  | .limits call => LimitLedger.Creates (childScope childId) call
  | _ => False

/-- What a call leaves: no frame is lost, an integrated child stays so, and no manager operation reopens the scope of
a known child. -/
structure Evolved (s : SubagentStores) (call : SubagentCall) (s' : SubagentStores) : Prop where
  sound : Sound s'
  kept : ∀ (id : String) (frame : ChildFrameV1), s.manager.children[id]? = some frame →
    ∃ later, s'.manager.children[id]? = some later ∧ (frame.state = .integrated → later.state = .integrated)
  closed : ∀ (id : String) (frame : ChildFrameV1), s.manager.children[id]? = some frame → ¬Recreates id call →
    s.limits.parentOf (childScope id) = none → s'.limits.parentOf (childScope id) = none

theorem Sound.refl (h : Sound s) (call : SubagentCall) : Evolved s call s :=
  ⟨h, fun _ frame hframe => ⟨frame, hframe, fun hstate => hstate⟩, fun _ _ _ _ hnone => hnone⟩

theorem childScope_injective {id other : String} (h : childScope id = childScope other) : id = other := by
  simpa [childScope, String.append_right_inj] using h

variable {call : SubagentCall} {childId scopeId : String} {frame : ChildFrameV1} {limits : LimitLedger}

/-- One frame is written beside a ledger call that creates no known child's scope. -/
theorem Sound.written (h : Sound s) (hscope : frame.scopeId = childScope childId)
    (hopen : ∀ old : ChildFrameV1, s.manager.children[childId]? = some old → old.state ≠ .integrated)
    (hlimits : LimitLedger.Keeps s.limits limitCall limits)
    (hcreates : ∀ id, LimitLedger.Creates (childScope id) limitCall → s.manager.children[id]? = none) :
    Evolved s call ⟨⟨s.manager.children.insert childId frame⟩, context, limits⟩ where
  sound := by
    refine ⟨hlimits.anchored, ?_⟩
    exact all_insert h.framed hscope
  kept := by
    intro id found hfound
    by_cases hid : childId = id
    · subst hid
      exact ⟨frame, Std.ExtTreeMap.getElem?_insert_self, fun hstate => absurd hstate (hopen found hfound)⟩
    · exact ⟨found, (insert_ne _ _ hid).trans hfound, fun hstate => hstate⟩
  closed := by
    intro id found hfound _ hnone
    apply hlimits.fresh
    · intro hcreate
      cases (hcreates id hcreate).symm.trans hfound
    · exact hnone

theorem Sound.moved (h : Sound s) {later : ChildFrameV1} (hframe : s.manager.children[childId]? = some frame)
    (hopen : frame.state ≠ .integrated) (hscope : later.scopeId = frame.scopeId)
    (hlimits : LimitLedger.Keeps s.limits limitCall limits) (hcreates : ∀ id, ¬LimitLedger.Creates id limitCall) :
    Evolved s call ⟨⟨s.manager.children.insert childId later⟩, context, limits⟩ := by
  apply h.written (hscope.trans (h.framed childId frame hframe))
  · intro old hold
    obtain rfl := Option.some.inj (hframe.symm.trans hold)
    exact hopen
  · exact hlimits
  · exact fun id hcreate => absurd hcreate (hcreates _)

/-- The scope of a refused child is closed again, which cannot fail. -/
theorem rollback_outcome (error : SubagentErrorV1)
    (hclose : Outcome (closeChild scopeId) limits (fun _ l => l = s.limits) fun _ _ => False) :
    Outcome (onLimits (closeChild scopeId) >>= fun _ => (Prog.fail error : SubagentProg Nat))
      { s with limits } (fun _ _ => False) (fun _ s' => s' = s) := by
  have hback : Ends (onLimits (closeChild scopeId)) { s with limits } fun s' => s' = s := by
    apply zoom
    apply hclose.never.weaken
    rintro _ _ rfl
    rfl
  apply bind hback
  rintro _ _ rfl
  rfl

private theorem attach_outcome (spec : ChildContextSpec)
    (hclose : Outcome (closeChild scopeId) limits (fun _ l => l = s.limits) fun _ _ => False) :
    Outcome (Prog.handle (onContext (spawnChild enc spec)) fun error => do
        onLimits (closeChild scopeId)
        Prog.fail error)
      { s with limits } (fun _ s' => ∃ context, s' = { s with context, limits }) (fun _ s' => s' = s) := by
  have hchild : Outcome (onContext (spawnChild enc spec)) { s with limits } _ _ :=
    .zoom_same (spawnChild_outcome spec s.context) rfl
  apply handle (hchild.weaken fun _ _ ⟨context, hcontext, _⟩ => ⟨context, hcontext⟩)
  rintro error _ rfl
  exact (rollback_outcome error hclose).weaken fun _ _ hfalse => hfalse.elim

section
variable (h : Sound s)
include h

/-- A child is spawned in all three stores or in none. -/
theorem spawn_outcome (childId parentScopeId : String) (childBudget : BudgetEnvelope)
    (spec : ChildContextSpec) :
    Outcome (spawn enc childId parentScopeId childBudget spec) s
      (fun _ => Evolved s (.spawn childId parentScopeId childBudget spec)) (fun _ s' => s' = s) := by
  apply read_bind
  apply check_bind
  intro _ hnew
  rw [refuseIf_eq_ok, Bool.or_eq_false_iff] at hnew
  have habsent := contains_eq_false hnew.1
  apply Outcome.bind (zoom_same (createChild_atomic _ parentScopeId childBudget) rfl)
  rintro _ _ ⟨limits, rfl, heffect⟩
  cases heffect with
  | @created _ _ _ parent hid hfresh hparent hdepth hlevel hfan =>
    have hclose := @LimitLedger.closeChild_withChild _ _ _ _ childBudget h.anchored hfresh hparent hfan
    apply bind (attach_outcome spec hclose)
    rintro root _ ⟨context, rfl⟩
    apply update_bind
    apply h.written
    · rfl
    · intro old hold
      cases habsent.symm.trans hold
    · exact withChild_keeps h.anchored hparent
    · intro id hcreate
      rw [← childScope_injective hcreate, habsent]

theorem complete_outcome (childId : String) (childHeadRevision : Nat) (result : Value) :
    Outcome (complete childId childHeadRevision result) s
      (fun _ => Evolved s (.complete childId childHeadRevision result)) (fun _ s' => s' = s) := by
  apply read_bind
  apply check_bind
  intro frame hframe
  apply check_bind
  intro _ hstate
  rw [findFrame, require_eq_ok] at hframe
  simp only [refuseIf_eq_ok, unmet] at hstate
  exact h.moved hframe (by simp [hstate]) rfl (h.anchored.refl (.closeChild frame.scopeId)) fun _ hcreates => hcreates

/-- A result is integrated in all three stores or none: the scope was seen to be closable. -/
theorem integrate_outcome (childId : String) (parentHead : Nat) (integration : ChildIntegration) :
    Outcome (integrate enc childId parentHead integration) s
      (fun _ s' => Evolved s (.integrate childId parentHead integration) s' ∧
        (∃ frame, s.manager.children[childId]? = some frame ∧ frame.state = .completed) ∧
        (∃ frame, s'.manager.children[childId]? = some frame ∧ frame.state = .integrated) ∧
        s'.limits.parentOf (childScope childId) = none) (fun _ s' => s' = s) := by
  apply read_bind
  apply check_bind
  intro frame hframe
  apply check_bind
  intro _ hstate
  apply check_bind
  intro _ hcan
  apply check_bind
  intro result _
  rw [findFrame, require_eq_ok] at hframe
  simp only [refuseIf_eq_ok, unmet] at hstate
  apply Outcome.bind (zoom_same (integrateChild_outcome childId _ parentHead result integration s.context) rfl)
  rintro revision _ ⟨context, rfl, _⟩
  have hclose : Outcome (onLimits (closeChild frame.scopeId)) { s with context }
      (fun _ s' => ∃ limits, s' = { s with context, limits } ∧
        LimitLedger.Effect s.limits (.closeChild frame.scopeId) limits) (fun _ s' => s' = s) := by
    apply zoom
    apply (closeChild_closes h.anchored ((mapError_eq_ok _ _ _).mp hcan)).never.weaken
    exact fun _ limits heffect => ⟨limits, rfl, heffect⟩
  apply bind hclose
  rintro _ _ ⟨limits, rfl, heffect⟩
  obtain ⟨hkeeps, hgone⟩ := closed_keeps h.anchored heffect
  rw [h.framed childId frame hframe] at hgone
  apply update_bind
  refine ⟨?_, ⟨frame, hframe, hstate⟩, ⟨_, Std.ExtTreeMap.getElem?_insert_self, rfl⟩, hgone⟩
  exact h.moved hframe (by simp [hstate]) rfl hkeeps fun _ hcreates => hcreates

theorem cancel_outcome (childId : String) :
    Outcome (cancel childId) s (fun _ => Evolved s (.cancel childId)) (fun _ s' => s' = s) := by
  apply read_bind
  apply check_bind
  intro frame hframe
  rw [findFrame, require_eq_ok] at hframe
  by_cases hdone : frame.state = .integrated ∨ frame.state = .cancelled
  · rw [if_pos hdone]
    exact h.refl _
  rw [if_neg hdone]
  rw [not_or] at hdone
  apply Outcome.bind (zoom_same (closeChild_atomic h.anchored frame.scopeId) rfl)
  rintro _ _ ⟨limits, rfl, heffect⟩
  exact h.moved hframe hdone.1 rfl (closed_keeps h.anchored heffect).1 fun _ hcreates => hcreates

theorem perform_evolves (call : SubagentCall) : Evolved s call (s.perform enc call) := by
  have hstate : ∀ {α : Type} {m : SubagentProg α}, Outcome m s (fun _ => Evolved s call) (fun _ s' => s' = s) →
      Evolved s call (m s).2 := by
    intro α m hm
    apply state
    apply hm.refail
    rintro e _ rfl
    exact h.refl call
  cases call with
  | spawn childId parentScopeId childBudget spec => exact hstate (spawn_outcome h childId parentScopeId childBudget spec)
  | complete childId childHeadRevision result => exact hstate (complete_outcome h childId childHeadRevision result)
  | integrate childId parentHead integration =>
    apply hstate
    exact (integrate_outcome h childId parentHead integration).weaken fun _ _ hdone => hdone.1
  | cancel childId => exact hstate (cancel_outcome h childId)
  | context call => exact ⟨⟨h.anchored, h.framed⟩, (h.refl (.context call)).kept, fun _ _ _ _ hnone => hnone⟩
  | limits call =>
    have hkeeps := perform_keeps h.anchored call
    exact ⟨⟨hkeeps.anchored, h.framed⟩, (h.refl (.limits call)).kept, fun id _ _ hcall hnone => hkeeps.fresh _ hcall hnone⟩

theorem run_sound (calls : List SubagentCall) : Sound (s.run enc calls) := by
  induction calls generalizing s with
  | nil => exact h
  | cons call rest ih => exact ih (perform_evolves h call).sound

end

/-- The child whose result a call integrates. -/
def integrates (enc : ContextEncoding) (s : SubagentStores) : SubagentCall → List String
  | .integrate childId parentHead integration =>
    if (integrate enc childId parentHead integration s).1.isOk then [childId] else []
  | _ => []

/-- The children whose results a run integrates, in order. -/
def integrations (enc : ContextEncoding) (s : SubagentStores) (calls : List SubagentCall) : List String :=
  Once.emitted (perform enc) (integrates enc) s calls

/-- A listed child was completed before the call and is integrated after it. -/
theorem integrates_marks (h : Sound s) (hmem : childId ∈ integrates enc s call) :
    (∃ frame, s.manager.children[childId]? = some frame ∧ frame.state = .completed) ∧
      ∃ frame, (s.perform enc call).manager.children[childId]? = some frame ∧ frame.state = .integrated := by
  cases call with
  | integrate id parentHead integration =>
    rw [integrates] at hmem
    rw [perform]
    revert hmem
    refine (integrate_outcome h id parentHead integration).elim ?_ fun _ _ _ hmem => absurd hmem List.not_mem_nil
    rintro revision _ ⟨_, hbefore, hafter, _⟩ hmem
    obtain rfl := List.mem_singleton.mp hmem
    exact ⟨hbefore, hafter⟩
  | _ => cases hmem

theorem integrations_marked : Once.Marked (perform enc) (integrates enc) Sound
    fun s childId => ∃ frame, s.manager.children[childId]? = some frame ∧ frame.state = .integrated where
  kept := fun s call h => (perform_evolves h call).sound
  stays := by
    rintro s call childId h ⟨frame, hframe, hstate⟩
    obtain ⟨later, hlater, hkept⟩ := (perform_evolves h call).kept childId frame hframe
    exact ⟨later, hlater, hkept hstate⟩
  fresh := by
    rintro s call childId h hmem ⟨frame, hframe, hstate⟩
    obtain ⟨⟨before, hbefore, hcompleted⟩, _⟩ := integrates_marks h hmem
    obtain rfl := Option.some.inj (hframe.symm.trans hbefore)
    cases hstate.symm.trans hcompleted
  set := fun s call childId h hmem => (integrates_marks h hmem).2
  nodup := by
    intro s call _
    cases call with
    | integrate childId parentHead integration =>
      rw [integrates]
      split <;> simp
    | _ => exact List.nodup_nil

theorem run_closed (h : Sound s)
    (hframe : s.manager.children[childId]? = some frame) (hclosed : s.limits.parentOf (childScope childId) = none)
    (calls : List SubagentCall) (hcalls : ∀ call ∈ calls, ¬Recreates childId call) :
    (s.run enc calls).limits.parentOf (childScope childId) = none := by
  induction calls generalizing s frame with
  | nil => exact hclosed
  | cons call rest ih =>
    rw [List.forall_mem_cons] at hcalls
    have hevolved : Evolved s call (s.perform enc call) := perform_evolves h call
    obtain ⟨later, hlater, _⟩ := hevolved.kept childId frame hframe
    exact ih hevolved.sound hlater (hevolved.closed childId frame hframe hcalls.1 hclosed) hcalls.2

/-- Manager and ledger as their constructors give them; the context may be any. -/
structure Constructed (s : SubagentStores) : Prop where
  manager : s.manager = .new ∨ ∃ saved, SubagentManagerV1.restore saved = .ok s.manager
  limits : (∃ root budget, new root budget = .ok s.limits) ∨
    ∃ saved newTick, restore saved newTick = .ok s.limits

private theorem restore_framed {m : SubagentManagerV1} (h : SubagentManagerV1.restore saved = .ok m) :
    ∀ id frame, m.children[id]? = some frame → frame.scopeId = childScope id := by
  simp only [SubagentManagerV1.restore, bind_ok_iff] at h
  obtain ⟨read, hread, hm⟩ := h
  cases hm
  have hkept := foldlM_keeps SubagentManagerV1.restoreChild (fun _ read => ∀ id frame,
    read.1[id]? = some frame → frame.scopeId = childScope id) ?_ saved [] (∅, ∅) read (by simp) hread
  · exact hkept
  · intro _ table child next htable hnext
    simp only [SubagentManagerV1.restoreChild, passes, unmet] at hnext
    obtain ⟨_, ⟨⟨⟨_, hscope⟩, _⟩, _⟩, _, _, hinsert⟩ := hnext
    cases hinsert
    exact all_insert htable hscope

theorem Constructed.sound (h : Constructed s) : Sound s where
  anchored := by
    rcases h.limits with ⟨root, budget, hnew⟩ | ⟨saved, newTick, hrestore⟩
    · exact new_anchored hnew
    · exact restore_anchored hrestore
  framed := by
    rcases h.manager with hnew | ⟨saved, hrestore⟩
    · rw [hnew]
      simp [SubagentManagerV1.new]
    · exact restore_framed hrestore

/-- In every run of the three stores a refused `spawn`, `integrate` or `cancel` changes none, no child is integrated
twice, and an integrated child's scope stays closed unless a call past the manager reopens it. -/
theorem subagents_atomic (enc : ContextEncoding) (start : SubagentStores) (hstart : Constructed start)
    (calls : List SubagentCall) :
    (∀ childId parentScopeId childBudget spec e s',
      spawn enc childId parentScopeId childBudget spec (start.run enc calls) = (.error e, s') → s' = start.run enc calls) ∧
    (∀ childId parentHead integration e s',
      integrate enc childId parentHead integration (start.run enc calls) = (.error e, s') → s' = start.run enc calls) ∧
    (∀ childId e s', cancel childId (start.run enc calls) = (.error e, s') → s' = start.run enc calls) ∧
    (integrations enc start calls).Nodup ∧
    ∀ childId parentHead integration revision s',
      integrate enc childId parentHead integration (start.run enc calls) = (.ok revision, s') →
        ∀ later : List SubagentCall, (∀ call ∈ later, ¬Recreates childId call) →
          (s'.run enc later).limits.scopes[childScope childId]? = none := by
  have hsound : Sound (start.run enc calls) := run_sound hstart.sound calls
  refine ⟨?_, ?_, ?_, ?_, ?_⟩
  · intro childId parentScopeId childBudget spec e s' hrun
    exact (spawn_outcome hsound childId parentScopeId childBudget spec).of_error hrun
  · intro childId parentHead integration e s' hrun
    exact (integrate_outcome hsound childId parentHead integration).of_error hrun
  · intro childId e s' hrun
    exact (cancel_outcome hsound childId).of_error hrun
  · exact (integrations_marked.emitted_once hstart.sound calls).1
  · intro childId parentHead integration revision s' hrun later hlater
    obtain ⟨hevolved, _, ⟨frame, hframe, _⟩, hgone⟩ :=
      (integrate_outcome hsound childId parentHead integration).of_ok hrun
    exact parentOf_eq_none.mp (run_closed hevolved.sound hframe hgone later hlater)

section Sample
variable (hash : List Nat → Value → ContextProvenance → Sha256Digest)

def sampleStores : SubagentStores := ⟨.new, sampleStore hash, sampleLedger⟩

/-- A child of a revision that is not there. -/
def strandedSpec : ChildContextSpec := ⟨"c", 9, [], .null⟩

private theorem sampleStores_constructed : Constructed (sampleStores hash) :=
  ⟨.inl rfl, .inl ⟨"r", sampleBudget, new_sampleLedger⟩⟩

/-- The scope of a child that the context refuses is closed again. -/
theorem sample_spawn_rolled_back : (∀ hash, Constructed (sampleStores hash)) ∧ ∀ hash,
    spawn (sampleEncoding hash) "c" "r" sampleBudget strandedSpec (sampleStores hash) =
      (.error (.context (.unknownRevision 9)), sampleStores hash) := by
  refine ⟨sampleStores_constructed, fun hash => ?_⟩
  obtain ⟨hspawn, _⟩ := subagents_atomic (sampleEncoding hash) (sampleStores hash)
    (sampleStores_constructed hash) []
  have hrefused : (spawn (sampleEncoding hash) "c" "r" sampleBudget strandedSpec
      (sampleStores hash)).1 = .error (.context (.unknownRevision 9)) := rfl
  exact Prod.ext hrefused (hspawn _ _ _ _ _ _ (Prod.ext hrefused rfl))

end Sample

end SubagentStores
end Aworkit.Worker
