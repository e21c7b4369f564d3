import Aworkit.Worker.GatewayInvariant
import Aworkit.Worker.Service

/-! Delivery of control messages by the worker service: which refusals leave it as it was, and what a message answered
as a duplicate has done. -/
namespace Aworkit.Worker
open Protocol Fallible Hoare CoreGatewayV1

namespace WorkerServiceV1
variable {digest : Sha256Digest} {prepared : Option (ExecutionPlanV1 × Option String)} {enc : MessageEncoding}
  {reply : Option (WorkerProposalKindV1 × Bool)} {g g' : CoreGatewayV1} {s' : WorkerServiceV1}
  {result : ServiceResultV1}

variable {build : WorkerBuild} {s : WorkerServiceV1} {envelope : WorkerControlEnvelopeV1}
  {reserved : Bool} {sent : List WorkerProposalEnvelopeV1} {t' : ServiceTrace}
  {control : WorkerControlKindV1} {proposal : WorkerProposalKindV1}

theorem onGateway_outcome {α : Type} {call : GatewayM α} {post : α → CoreGatewayV1 → Prop}
    {failed : GatewayError → CoreGatewayV1 → Prop} (h : Outcome call s.gateway post failed) :
    Outcome (onGateway call) s (fun a s' => ∃ g, post a g ∧ s' = { s with gateway := g })
      (fun _ s' => ∃ e g, failed e g ∧ s' = { s with gateway := g }) := by
  unfold Outcome onGateway
  exact h.elim (fun a g hpost => ⟨g, hpost, rfl⟩) fun e g hfailed => ⟨e, g, hfailed, rfl⟩

/-- If a new message is answered by a proposal, the buffer has room for it. -/
def Roomy (build : WorkerBuild) (s : WorkerServiceV1) (envelope : WorkerControlEnvelopeV1) : Prop :=
  ∀ prepared proposal reserved, prepare build envelope = .ok prepared →
    replyTo prepared envelope.control = some (proposal, reserved) → Fresh build.enc s.gateway envelope →
    ∃ identity proposalId length,
      Room build.enc (opened s.gateway envelope) reserved proposal identity proposalId length

/-- The proposal that answers a message is sent, if there is one. -/
inductive Replied (enc : MessageEncoding) (g : CoreGatewayV1) :
    Option (WorkerProposalKindV1 × Bool) → List WorkerProposalEnvelopeV1 → CoreGatewayV1 → Prop
  | silent : Replied enc g none [] g
  | sent {proposal : WorkerProposalKindV1} {reserved : Bool} {identity : ActiveIdentity} {proposalId : StableId}
      {length : Nat} (hroom : Room enc g reserved proposal identity proposalId length) :
      Replied enc g (some (proposal, reserved)) [nextProposal identity g proposalId proposal]
        (g.buffered (nextProposal identity g proposalId proposal) length)

/-- A message is answered as a duplicate, or admitted and served. -/
inductive Handled (build : WorkerBuild) (s : WorkerServiceV1) (envelope : WorkerControlEnvelopeV1) :
    ServiceResultV1 → WorkerServiceV1 → Prop
  | duplicate {digest : Sha256Digest} (hdigest : build.enc.controlDigest envelope = some digest)
      (hseen : s.gateway.seenMessages[envelope.messageId.val]? = some digest.text) : Handled build s envelope {} s
  | served {digest : Sha256Digest} {prepared : Option (ExecutionPlanV1 × Option String)} {g : CoreGatewayV1}
      {result : ServiceResultV1} {s' : WorkerServiceV1} (hdigest : build.enc.controlDigest envelope = some digest)
      (hunseen : s.gateway.seenMessages[envelope.messageId.val]? = none)
      (hprepared : prepare build envelope = .ok prepared) (hadmitted : Admitted build.enc s.gateway envelope digest g)
      (hreplied : Replied build.enc g (replyTo prepared envelope.control) result.proposals s'.gateway)
      (hplan : s'.plan = (prepared.map Prod.fst).or s.plan) (hbeat : result.heartbeat.isSome = true)
      (hshutdown : result.shutdownAck = shutdownOf envelope.control) : Handled build s envelope result s'

/-- A worker with an identity has a plan; buffered proposals encode. -/
structure Ready (build : WorkerBuild) (s : WorkerServiceV1) : Prop where
  encodes : Encodes build.enc s.gateway
  planned : s.gateway.identity.isSome = true → s.plan.isSome = true

theorem replyTo_acknowledging {reply : WorkerProposalKindV1 × Bool} (h : replyTo prepared control = some reply) :
    acknowledging control = false := by
  cases control with
  | committedAck proposalId cursor => cases h
  | _ => rfl

theorem needsPlan_establishing (h : needsPlan control = true) : establishing control = false := by
  cases control with
  | start snapshot => cases h
  | restore rehydration => cases h
  | _ => rfl

theorem validated_identity (h : g.validateIdentity envelope = .ok ()) : g.identity.isSome = true := by
  obtain ⟨identity, hidentity, _⟩ := (bind_ok_iff _ _ _).mp h
  rw [require_eq_ok] at hidentity
  rw [hidentity]
  rfl


/-- Only an acknowledgement is admitted when it is not fresh. -/
theorem admitted_fresh (hplain : acknowledging envelope.control = false)
    (hunseen : s.gateway.seenMessages[envelope.messageId.val]? = none) (hentitled : Entitled s.gateway envelope)
    (hdigest : enc.controlDigest envelope = some digest) (h : Admitted enc s.gateway envelope digest g) :
    Fresh enc s.gateway envelope ∧ g = (opened s.gateway envelope).witnessed envelope digest := by
  cases h with
  | established hkind hfirst =>
    refine ⟨⟨⟨digest, hdigest⟩, hunseen, hentitled, fun hnot => ?_⟩, ?_⟩
    · rw [hkind] at hnot
      cases hnot
    · rw [opened, if_pos hkind]
  | repeated hkind hidentity hknown hcursor | acknowledged hkind hidentity hnew hcursor hremoved hbytes =>
    rw [hkind] at hplain
    cases hplain
  | noted hkind hidentity hcursor =>
    refine ⟨⟨⟨digest, hdigest⟩, hunseen, hentitled, fun _ => hcursor⟩, ?_⟩
    rw [opened, hkind]
    rfl

theorem admitted_seen (h : Admitted enc g envelope digest g') :
    g'.seenMessages = g.seenMessages.insert envelope.messageId.val digest.text := by
  cases h <;> rfl

theorem Replied.seen {proposals : List WorkerProposalEnvelopeV1} (h : Replied enc g reply proposals g') :
    g'.seenMessages = g.seenMessages := by
  cases h <;> rfl

theorem Replied.proposals (h : Replied enc g reply sent g') :
    sent.map WorkerProposalEnvelopeV1.proposal = reply.toList.map Prod.fst := by
  cases h <;> rfl

theorem room_witnessed {identity : ActiveIdentity} {proposalId : StableId} {length : Nat} :
    Room enc (g.witnessed envelope digest) reserved proposal identity proposalId length ↔
      Room enc g reserved proposal identity proposalId length :=
  ⟨fun h => ⟨h.active, h.uncrowded, h.unexhausted, h.named, h.encoded, h.countable, h.fits⟩,
   fun h => ⟨h.active, h.uncrowded, h.unexhausted, h.named, h.encoded, h.countable, h.fits⟩⟩

private theorem prepared_isSome (h : prepare build envelope = .ok prepared) (hkind : establishing envelope.control = true) :
    prepared.isSome = true := by
  unfold prepare at h
  cases hcontrol : envelope.control with
  | start snapshot =>
    rw [hcontrol] at h
    obtain ⟨plan, _, hsome⟩ := (bind_ok_iff _ _ _).mp h
    cases hsome
    rfl
  | restore rehydration =>
    rw [hcontrol] at h
    obtain ⟨restored, _, h⟩ := (bind_ok_iff _ _ _).mp h
    obtain ⟨plan, _, hsome⟩ := (bind_ok_iff _ _ _).mp h
    cases hsome
    rfl
  | _ =>
    rw [hcontrol] at hkind
    cases hkind

theorem Ready.admitted (h : Ready build s) (hprepared : prepare build envelope = .ok prepared)
    (hadmitted : Admitted build.enc s.gateway envelope digest g) (beat : Nat) :
    Ready build ⟨g, (prepared.map Prod.fst).or s.plan, beat⟩ := by
  refine ⟨(GatewayTrace.Effect.later (t := .initial s.gateway) h.encodes (.admitted hadmitted)).encodes,
    fun hidentity => ?_⟩
  rw [Option.isSome_or, Option.isSome_map, Bool.or_eq_true]
  cases hadmitted with
  | established hkind hfirst => exact .inl (prepared_isSome hprepared hkind)
  | repeated hkind hvalid hknown hcursor | acknowledged hkind hvalid hnew hcursor hremoved hbytes
  | noted hkind hvalid hcursor =>
    exact .inr (h.planned hidentity)

theorem Ready.replied {plan : Option ExecutionPlanV1} {beat : Nat} {proposals : List WorkerProposalEnvelopeV1}
    (h : Ready build ⟨g, plan, beat⟩) (hreplied : Replied build.enc g reply proposals g') (beat' : Nat) :
    Ready build ⟨g', plan, beat'⟩ := by
  cases hreplied with
  | silent => exact ⟨h.encodes, h.planned⟩
  | sent hroom =>
    exact ⟨(GatewayTrace.Effect.later (t := .initial g) h.encodes (.emitted hroom)).encodes, h.planned⟩

/-- A message refused for want of room is on record, its plan in place. -/
structure Stranded (build : WorkerBuild) (s : WorkerServiceV1) (envelope : WorkerControlEnvelopeV1)
    (digest : Sha256Digest) (s' : WorkerServiceV1) : Prop where
  digested : build.enc.controlDigest envelope = some digest
  fresh : Fresh build.enc s.gateway envelope
  prepared : ∃ prepared, prepare build envelope = .ok prepared
  recorded : s'.gateway = (opened s.gateway envelope).witnessed envelope digest
  ready : Ready build s'

/-- One message is handled, refused with the service as it was, or, when its answer has no room, stranded. -/
theorem handle_outcome (hready : Ready build s) (envelope : WorkerControlEnvelopeV1) :
    Outcome (handle build envelope) s (Handled build s envelope) (fun _ s' => (s' = s ∧ Roomy build s envelope) ∨
      (¬Roomy build s envelope ∧ ∃ digest, Stranded build s envelope digest s')) := by
  refine lift_bind (fun e he => .inl ⟨rfl, fun prepared _ _ hprepared => ?_⟩) fun prepared hprepared => ?_
  · rw [he] at hprepared
    cases hprepared
  refine .bind ((onGateway_outcome (admitControl_outcome hready.encodes envelope)).refail ?_) ?_
  · rintro e _ ⟨_, _, ⟨rfl, hstale⟩, rfl⟩
    exact .inl ⟨rfl, fun _ _ _ _ hreply hfresh => absurd hfresh (hstale (replyTo_acknowledging hreply))⟩
  rintro admission _ ⟨g, heffect, rfl⟩
  cases admission with
  | duplicate =>
    obtain ⟨rfl, digest, hdigest, hseen⟩ := heffect
    exact .duplicate hdigest hseen
  | new =>
    obtain ⟨hunseen, hentitled, digest, hdigest, hadmitted⟩ := heffect
    refine read_bind (lift_bind (fun e he => ?_) fun _ _ => update_bind ?_)
    · -- a message that needs a plan was admitted under an identity, so there is a plan
      cases hneeds : needsPlan envelope.control && s.plan.isNone with
      | false =>
        rw [hneeds] at he
        cases he
      | true =>
        obtain ⟨hneeds, hnone⟩ := Bool.and_eq_true_iff.mp hneeds
        rw [Entitled, needsPlan_establishing hneeds] at hentitled
        have hplan := hready.planned (validated_identity hentitled)
        rw [Option.isNone_iff_eq_none.mp hnone] at hplan
        cases hplan
    cases hreply : replyTo prepared envelope.control with
    | none => exact .served hdigest hunseen hprepared hadmitted (by rw [hreply]; exact .silent) rfl rfl rfl
    | some reply =>
      obtain ⟨proposal, reserved⟩ := reply
      obtain ⟨hfresh, hg⟩ := admitted_fresh (replyTo_acknowledging hreply) hunseen hentitled hdigest hadmitted
      refine .bind ((onGateway_outcome (emitInner_outcome g proposal reserved)).refail ?_) ?_
      · rintro e _ ⟨_, _, ⟨rfl, hnone⟩, rfl⟩
        refine .inr ⟨fun hroomy => ?_, digest, hdigest, hfresh, ⟨prepared, hprepared⟩, hg,
          hready.admitted hprepared hadmitted _⟩
        obtain ⟨identity, proposalId, length, hroom⟩ := hroomy _ _ _ hprepared hreply hfresh
        refine hnone identity proposalId length ?_
        rw [hg]
        exact room_witnessed.mpr hroom
      · rintro sent _ ⟨_, ⟨identity, length, hroom, hsent, rfl⟩, rfl⟩
        have hreplied := Replied.sent hroom
        rw [← hsent] at hreplied
        exact .served hdigest hunseen hprepared hadmitted (by rw [hreply]; exact hreplied) rfl rfl rfl

section
variable (h : Stranded build s envelope digest s')
include h

theorem Stranded.seen : s'.gateway.seenMessages[envelope.messageId.val]? = some digest.text := by
  rw [h.recorded]
  exact Std.ExtTreeMap.getElem?_insert_self

theorem Stranded.changed : s'.gateway ≠ s.gateway := by
  intro hsame
  have hseen := h.seen
  rw [hsame, h.fresh.unseen] at hseen
  cases hseen

/-- A stranded message is lost: sent again, it is answered as a duplicate. -/
theorem Stranded.lost : handle build envelope s' = (.ok {}, s') := by
  have hvalid : s'.gateway.validateIdentity envelope = .ok () := by
    rw [h.recorded]
    exact h.fresh.entitled.validated
  have hrepeated : Outcome (admitControl build.enc envelope) s'.gateway
      (fun admission g => admission = .duplicate ∧ g = s'.gateway) fun _ _ => False := by
    unfold Outcome
    rw [admitControl_repeated h.digested h.seen hvalid]
    exact ⟨rfl, rfl⟩
  obtain ⟨prepared, hprepared⟩ := h.prepared
  apply Outcome.certain
  refine lift_bind (fun e he => ?_) fun _ _ => ?_
  · rw [hprepared] at he
    cases he
  refine .bind ((onGateway_outcome hrepeated).refail ?_) ?_
  · rintro e _ ⟨_, _, hnever, _⟩
    exact hnever
  · rintro _ _ ⟨_, ⟨rfl, rfl⟩, rfl⟩
    exact ⟨rfl, rfl⟩

end

theorem Replied.room (h : Replied enc g (some (proposal, reserved)) sent g') :
    ∃ identity proposalId length, Room enc g reserved proposal identity proposalId length := by
  cases h with
  | sent hroom => exact ⟨_, _, _, hroom⟩

theorem Handled.roomy (h : Handled build s envelope result s') : Roomy build s envelope := by
  intro prepared proposal reserved hprepared hreply hfresh
  cases h with
  | duplicate hdigest hseen =>
    rw [hfresh.unseen] at hseen
    cases hseen
  | served hdigest hunseen hmade hadmitted hreplied hplan hbeat hshutdown =>
    obtain rfl := Except.ok.inj (hprepared.symm.trans hmade)
    rw [hreply] at hreplied
    obtain ⟨identity, proposalId, length, hroom⟩ := hreplied.room
    rw [(admitted_fresh (replyTo_acknowledging hreply) hunseen hfresh.entitled hdigest hadmitted).2] at hroom
    exact ⟨identity, proposalId, length, room_witnessed.mp hroom⟩

theorem Handled.ready (hready : Ready build s) (h : Handled build s envelope result s') : Ready build s' := by
  cases h with
  | duplicate hdigest hseen => exact hready
  | served hdigest hunseen hprepared hadmitted hreplied hplan hbeat hshutdown =>
    obtain ⟨g', plan, beat⟩ := s'
    obtain rfl : plan = _ := hplan
    exact (hready.admitted hprepared hadmitted beat).replied hreplied beat

theorem new_ready (build : WorkerBuild) : Ready build new := by
  refine ⟨fun id proposal hfound => ?_, fun h => by cases h⟩
  simp [new, CoreGatewayV1.new, withBounds] at hfound

theorem roomy_of_served (hready : Ready build s) (h : (handle build envelope s).1.isOk = true) :
    Roomy build s envelope := by
  revert h
  exact (handle_outcome hready envelope).elim (fun _ _ hhandled _ => hhandled.roomy) fun _ _ _ h => by cases h

/-- Without room for its answer a message is stranded. -/
private theorem stranded_of_cramped (hready : Ready build s) (h : ¬Roomy build s envelope) :
    ∃ e s' digest, handle build envelope s = (.error e, s') ∧ Stranded build s envelope digest s' := by
  refine (handle_outcome hready envelope).elim (fun _ _ hhandled => absurd hhandled.roomy h) ?_
  rintro e s' (⟨_, hroomy⟩ | ⟨_, digest, hstranded⟩)
  · exact absurd hroomy h
  · exact ⟨e, s', digest, rfl, hstranded⟩

end WorkerServiceV1

/-- A service with the messages it was given and what it answered. -/
structure ServiceTrace where
  service : WorkerServiceV1
  answers : List (WorkerControlEnvelopeV1 × Except WorkerRuntimeError ServiceResultV1)

namespace ServiceTrace
open WorkerServiceV1
variable {build : WorkerBuild} {t : ServiceTrace} {envelope : WorkerControlEnvelopeV1}

def step (build : WorkerBuild) (t : ServiceTrace) (envelope : WorkerControlEnvelopeV1) : ServiceTrace where
  service := (handle build envelope t.service).2
  answers := t.answers ++ [(envelope, (handle build envelope t.service).1)]

def run (build : WorkerBuild) (envelopes : List WorkerControlEnvelopeV1) : ServiceTrace :=
  envelopes.foldl (step build) ⟨.new, []⟩

/-- The answer to a message of this id, unless refused or, without heartbeat, a duplicate. -/
def serving (id : String) : WorkerControlEnvelopeV1 × Except WorkerRuntimeError ServiceResultV1 →
    Option (WorkerControlEnvelopeV1 × ServiceResultV1)
  | (envelope, .ok result) =>
    if envelope.messageId.val = id ∧ result.heartbeat.isSome = true then some (envelope, result) else none
  | (_, .error _) => none

def servedAs (t : ServiceTrace) (id : String) : List (WorkerControlEnvelopeV1 × ServiceResultV1) :=
  t.answers.filterMap (serving id)

/-- The result carries the answering proposal or a shutdown acknowledgement. -/
def Answered (build : WorkerBuild) (envelope : WorkerControlEnvelopeV1) (result : ServiceResultV1) : Prop :=
  ∃ prepared, prepare build envelope = .ok prepared ∧
    result.proposals.map WorkerProposalEnvelopeV1.proposal = (replyTo prepared envelope.control).toList.map Prod.fst ∧
    result.shutdownAck = shutdownOf envelope.control

/-- Every message on record was served once, and no other. -/
structure Delivered (build : WorkerBuild) (t : ServiceTrace) : Prop where
  unserved : ∀ id : String, t.service.gateway.seenMessages[id]? = none → t.servedAs id = []
  served : ∀ id text : String, t.service.gateway.seenMessages[id]? = some text → ∃ earlier result digest,
    t.servedAs id = [(earlier, result)] ∧ build.enc.controlDigest earlier = some digest ∧ digest.text = text ∧
    Answered build earlier result

/-- In no step did the answer to a new message lack room. -/
def Unhindered (build : WorkerBuild) (t : ServiceTrace) : List WorkerControlEnvelopeV1 → Prop
  | [] => True
  | envelope :: rest => Roomy build t.service envelope ∧ Unhindered build (t.step build envelope) rest

theorem handled_answered (h : Handled build s envelope result s')
    (hbeat : result.heartbeat.isSome = true) : Answered build envelope result := by
  cases h with
  | duplicate hdigest hseen => cases hbeat
  | served hdigest hunseen hprepared hadmitted hreplied hplan hbeat hshutdown =>
    exact ⟨_, hprepared, hreplied.proposals, hshutdown⟩

theorem servedAs_step (t : ServiceTrace) (envelope : WorkerControlEnvelopeV1) (id : String) :
    (t.step build envelope).servedAs id =
      t.servedAs id ++ (serving id (envelope, (handle build envelope t.service).1)).toList := by
  unfold servedAs step
  rw [List.filterMap_append, List.filterMap_cons]
  cases serving id (envelope, (handle build envelope t.service).1) <;> rfl

theorem step_ready (h : Ready build t.service) (envelope : WorkerControlEnvelopeV1) :
    Ready build (t.step build envelope).service := by
  unfold step
  refine (handle_outcome h envelope).elim (fun _ _ hhandled => hhandled.ready h) ?_
  rintro e _ (⟨rfl, _⟩ | ⟨_, digest, hstranded⟩)
  · exact h
  · exact hstranded.ready

private theorem foldl_ready (h : Ready build t.service) (envelopes : List WorkerControlEnvelopeV1) :
    Ready build (envelopes.foldl (step build) t).service := by
  induction envelopes generalizing t with
  | nil => exact h
  | cons envelope rest ih => exact ih (step_ready h envelope)

theorem run_ready (build : WorkerBuild) (history : List WorkerControlEnvelopeV1) :
    Ready build (run build history).service :=
  foldl_ready (t := ⟨.new, []⟩) (new_ready build) history

section
variable (h : Delivered build t)
include h

theorem Delivered.of_same (hservice : t'.service = t.service)
    (hlog : ∀ id, t'.servedAs id = t.servedAs id) : Delivered build t' := by
  refine ⟨fun id hnone => ?_, fun id text hsome => ?_⟩
  · rw [hlog]
    rw [hservice] at hnone
    exact h.unserved id hnone
  · rw [hlog]
    rw [hservice] at hsome
    exact h.served id text hsome

theorem Delivered.of_served
    (hunseen : t.service.gateway.seenMessages[envelope.messageId.val]? = none)
    (hdigest : build.enc.controlDigest envelope = some digest) (hbeat : result.heartbeat.isSome = true)
    (hanswered : Answered build envelope result) (hseen : t'.service.gateway.seenMessages =
      t.service.gateway.seenMessages.insert envelope.messageId.val digest.text)
    (hlog : ∀ id, t'.servedAs id = t.servedAs id ++ (serving id (envelope, .ok result)).toList) :
    Delivered build t' := by
  have hother : ∀ id, envelope.messageId.val ≠ id → t'.servedAs id = t.servedAs id := by
    intro id hne
    rw [hlog, serving, if_neg fun hsame => hne hsame.1]
    exact List.append_nil _
  refine ⟨fun id hnone => ?_, fun id text hsome => ?_⟩
  · rw [hseen] at hnone
    by_cases hid : envelope.messageId.val = id
    · rw [hid, Std.ExtTreeMap.getElem?_insert_self] at hnone
      cases hnone
    · rw [OrderedMap.insert_ne _ _ hid] at hnone
      rw [hother id hid]
      exact h.unserved id hnone
  · rw [hseen] at hsome
    rcases OrderedMap.found_insert hsome with ⟨rfl, rfl⟩ | ⟨hid, hold⟩
    · refine ⟨envelope, result, digest, ?_, hdigest, rfl, hanswered⟩
      rw [hlog, h.unserved _ hunseen, serving, if_pos ⟨rfl, hbeat⟩]
      rfl
    · rw [hother id hid]
      exact h.served id text hold

theorem Delivered.step (hready : Ready build t.service)
    (hroomy : Roomy build t.service envelope) : Delivered build (t.step build envelope) := by
  have hlog := @servedAs_step build t envelope
  have hservice : (t.step build envelope).service = (handle build envelope t.service).2 := rfl
  revert hlog hservice
  refine (handle_outcome hready envelope).elim ?_ ?_
  · intro result _ hhandled hlog hservice
    have hanswered := fun hbeat => handled_answered hhandled hbeat
    cases hhandled with
    | duplicate hdigest hseen =>
      refine h.of_same hservice fun id => ?_
      rw [hlog, serving, if_neg fun hbeat => by cases hbeat.2]
      exact List.append_nil _
    | served hdigest hunseen hprepared hadmitted hreplied hplan hbeat hshutdown =>
      refine h.of_served hunseen hdigest hbeat (hanswered hbeat) ?_ hlog
      rw [hservice, hreplied.seen, admitted_seen hadmitted]
  · rintro e _ (⟨rfl, _⟩ | ⟨hcramped, _⟩) hlog hservice
    · exact h.of_same hservice fun id => (hlog id).trans (List.append_nil _)
    · exact absurd hroomy hcramped

private theorem foldl_delivered (hready : Ready build t.service)
    (envelopes : List WorkerControlEnvelopeV1) (hroomy : Unhindered build t envelopes) :
    Delivered build (envelopes.foldl (.step build) t) := by
  induction envelopes generalizing t with
  | nil => exact h
  | cons envelope rest ih => exact ih (h.step hready hroomy.1) (step_ready hready envelope) hroomy.2

end

private theorem initial_delivered (build : WorkerBuild) : Delivered build ⟨.new, []⟩ := by
  refine ⟨fun id _ => rfl, fun id text hsome => ?_⟩
  simp [WorkerServiceV1.new, CoreGatewayV1.new, withBounds] at hsome

/-- Every refusal leaves gateway and plan unchanged exactly when its answer has room. In a run whose steps all had
room, a message answered as a duplicate was served once. -/
theorem delivery_all_or_nothing (build : WorkerBuild) (history : List WorkerControlEnvelopeV1)
    (envelope : WorkerControlEnvelopeV1) :
    let t := run build history
    ((∀ e s', handle build envelope t.service = (.error e, s') →
        s'.gateway = t.service.gateway ∧ s'.plan = t.service.plan) ↔ Roomy build t.service envelope) ∧
    (Unhindered build ⟨.new, []⟩ history → ∀ result s', handle build envelope t.service = (.ok result, s') →
      result.heartbeat = none → ∃ earlier first, t.servedAs envelope.messageId.val = [(earlier, first)] ∧
        build.enc.controlDigest earlier = build.enc.controlDigest envelope ∧ Answered build earlier first) := by
  intro t
  have houtcome := handle_outcome (run_ready build history) envelope
  refine ⟨⟨fun hatomic => ?_, fun hroomy e s' hrun => ?_⟩, fun hunhindered result s' hrun hduplicate => ?_⟩
  · by_contra hcramped
    obtain ⟨e, s', digest, hrun, hstranded⟩ := stranded_of_cramped (run_ready build history) hcramped
    exact hstranded.changed (hatomic e s' hrun).1
  · rcases houtcome.of_error hrun with ⟨rfl, _⟩ | ⟨hcramped, _⟩
    · exact ⟨rfl, rfl⟩
    · exact absurd hroomy hcramped
  · have hdelivered := foldl_delivered (initial_delivered build) (new_ready build) history hunhindered
    cases houtcome.of_ok hrun with
    | duplicate hdigest hseen =>
      obtain ⟨earlier, first, digest, hserved, hearlier, htext, hanswered⟩ := hdelivered.served _ _ hseen
      refine ⟨earlier, first, hserved, ?_, hanswered⟩
      rw [hearlier, hdigest, Sha256Digest.text_injective htext]
    | served hdigest hunseen hprepared hadmitted hreplied hplan hbeat hshutdown =>
      rw [hduplicate] at hbeat
      cases hbeat

def sampleBuild : WorkerBuild := ⟨sampleMessages, "0.1.0", "aworkit-workflow-worker"⟩

def samplePause (scope : String) : WorkerControlEnvelopeV1 :=
  sampleControl ⟨"m2", by decide +kernel⟩ (.pause ⟨"pause", by decide +kernel⟩ scope)

def sampleStarted : ServiceTrace := run sampleBuild [sampleStart]

private theorem sampleStart_unhindered : Unhindered sampleBuild ⟨.new, []⟩ [sampleStart] :=
  ⟨roomy_of_served (new_ready sampleBuild) (by decide +kernel), trivial⟩

/-- The sample start, sent twice, was served once. -/
theorem sample_delivery_all_or_nothing : ∃ earlier first,
    sampleStarted.servedAs sampleStart.messageId.val = [(earlier, first)] ∧
      sampleMessages.controlDigest earlier = sampleMessages.controlDigest sampleStart ∧
        Answered sampleBuild earlier first := by
  have hquiet : ((handle sampleBuild sampleStart sampleStarted.service).1.map fun result => result.heartbeat.isNone) =
    .ok true := by
    decide +kernel
  cases hrun : handle sampleBuild sampleStart sampleStarted.service with
  | mk answer s' =>
    rw [hrun] at hquiet
    cases answer with
    | error e => cases hquiet
    | ok result =>
      exact (delivery_all_or_nothing sampleBuild [sampleStart] sampleStart).2 sampleStart_unhindered result s' hrun
        (Option.isNone_iff_eq_none.mp (Except.ok.inj hquiet))

private theorem sampleStarted_gateway : sampleStarted.service.gateway.seenMessages["m2"]? = none ∧
    sampleStarted.service.gateway.identity = some (identityOf sampleStart) ∧
      sampleStarted.service.gateway.committedCursor = 0 ∧
    sampleStarted.service.gateway.maxPendingBytes = 8388608 := by
  decide +kernel

private theorem samplePause_fresh (scope : String) :
    Fresh sampleMessages sampleStarted.service.gateway (samplePause scope) := by
  obtain ⟨hunseen, hidentity, hcursor, _⟩ := sampleStarted_gateway
  refine ⟨⟨_, rfl⟩, hunseen, ?_, fun _ => hcursor.symm⟩
  rw [Entitled, if_neg (show ¬establishing (samplePause scope).control = true from Bool.false_ne_true),
    validateIdentity,
    hidentity]
  rfl

private theorem sample_suspension_length (g : CoreGatewayV1) (identity : ActiveIdentity) (proposalId controlId : StableId)
    (scope : String) : sampleMessages.proposalLength (nextProposal identity g proposalId (.suspension controlId
      (.object [("scope", .string scope), ("state", .string "paused")]))) = some (349 + scope.length) := rfl

/-- A pause whose scope is longer than the buffer takes has no room. -/
private theorem samplePause_cramped {scope : String} (h : 9000000 ≤ scope.length) :
    ¬Roomy sampleBuild sampleStarted.service (samplePause scope) := by
  intro hroomy
  obtain ⟨identity, proposalId, length, hroom⟩ := hroomy none _ _ rfl rfl (samplePause_fresh scope)
  have hlength := Option.some.inj ((sample_suspension_length _ _ _ _ _).symm.trans hroom.encoded)
  obtain ⟨_, _, _, hbound⟩ := sampleStarted_gateway
  have hfits := hroom.fits
  rw [oversized, Bool.or_eq_false_iff, decide_eq_false_iff_not, Nat.not_lt] at hfits
  have hle : _ ≤ saturatingAdd u64Max sampleStarted.service.gateway.maxPendingBytes reservedControlBytes := hfits.2
  rw [hbound, saturatingAdd, reservedControlBytes] at hle
  omega

def longScope (letters : Nat) : String := String.ofList (List.replicate letters 'a')

private theorem longScope_length (letters : Nat) : (longScope letters).length = letters := by
  rw [longScope, String.length_ofList, List.length_replicate]

/-- A pause without room in the buffer is refused, but on record: sent again, it is a duplicate, and no proposal was
ever sent for it. -/
theorem long_pause_lost :
    ∃ e s', handle sampleBuild (samplePause (longScope 9000000)) sampleStarted.service = (.error e, s') ∧
    s'.gateway ≠ sampleStarted.service.gateway ∧ handle sampleBuild (samplePause (longScope 9000000)) s' =
      (.ok {}, s') := by
  obtain ⟨e, s', digest, hrun, hstranded⟩ := stranded_of_cramped (run_ready sampleBuild [sampleStart])
    (samplePause_cramped (longScope_length 9000000).ge)
  exact ⟨e, s', hrun, hstranded.changed, hstranded.lost⟩

end ServiceTrace

end Aworkit.Worker
