import Mathlib

/-! The event stream of a run (`runtime/run_events.rs`): streamed text waits in one pending event and is merged with
what follows. All commits succeed. -/
namespace Aworkit.Desktop.DeltaStream

/-- What a payload has under its keys: a text or another JSON value. -/
abbrev Payload (V : Type) := String → Option (String ⊕ V)

structure Draft (V : Type) where
  kind : String
  payload : Payload V

def deltaEventKind : String := "span.content_delta"

/-- Milliseconds. -/
def deltaCoalesceWindow : Nat := 60

def deltaCoalesceMaxBytes : Nat := 8 * 1024

variable {V : Type}

/-- The text under a key, empty if there is none. -/
def textUnder (key : String) (payload : Payload V) : String := ((payload key).bind Sum.getLeft?).getD ""

def appendDeltaText (target incoming : Payload V) : Payload V :=
  let text := textUnder "append" incoming
  if text = "" then target
  else
    let merged key := some (.inl (textUnder key target ++ text))
    Function.update (Function.update target "append" (merged "append")) "body" (merged "body")

def deltaTextLen (payload : Payload V) : Nat := (textUnder "append" payload).utf8ByteSize

/-- The chunk appended to the text before it. -/
def Draft.merged (current draft : Draft V) : Draft V :=
  { current with payload := appendDeltaText current.payload draft.payload }

structure PendingDelta (V : Type) where
  draft : Draft V
  started : Nat

structure RunEventStream (V : Type) where
  committed : List (Draft V) := []
  pendingDelta : Option (PendingDelta V) := none

/-- The clock as a call reads it: at two looks at the window and at a new start. -/
structure Clock where
  first : Nat
  second : Nat
  start : Nat

variable (s : RunEventStream V)

def RunEventStream.commit (drafts : List (Draft V)) : RunEventStream V :=
  { s with committed := s.committed ++ drafts }

def flushPendingDelta : RunEventStream V :=
  .commit { s with pendingDelta := none } (s.pendingDelta.map PendingDelta.draft).toList

/-- The window and the bound leave room for more text. -/
def waits (clock : Clock) (current : PendingDelta V) : Bool :=
  deltaTextLen current.draft.payload < deltaCoalesceMaxBytes && clock.second - current.started < deltaCoalesceWindow

/-- The end of `publish_delta`: the pending text is committed, the chunk starts the next window. -/
def startWindow (clock : Clock) (s : RunEventStream V) (draft : Draft V) : RunEventStream V :=
  let s := flushPendingDelta s
  if deltaTextLen draft.payload ≥ deltaCoalesceMaxBytes then s.commit [draft]
  else { s with pendingDelta := some ⟨draft, clock.start⟩ }

/-! ### Merging texts -/

theorem appendDeltaText_apply (a b : Payload V) (key : String) : appendDeltaText a b key =
    if (key = "append" ∨ key = "body") ∧ textUnder "append" b ≠ "" then
      some (.inl (textUnder key a ++ textUnder "append" b)) else a key := by
  unfold appendDeltaText
  by_cases hb : textUnder "append" b = ""
  · simp [hb]
  · by_cases hkey : key = "append" ∨ key = "body"
    · obtain rfl | rfl := hkey <;> simp [hb, Function.update]
    · simp_all [Function.update_of_ne]

theorem textUnder_append (a b : Payload V) (h : key = "append" ∨ key = "body") :
    textUnder key (appendDeltaText a b) = textUnder key a ++ textUnder "append" b := by
  rw [textUnder, appendDeltaText_apply]
  by_cases hb : textUnder "append" b = ""
  · simp [hb]
    rfl
  · simp [hb, h]

theorem appendDeltaText_assoc (a b c : Payload V) :
    appendDeltaText (appendDeltaText a b) c = appendDeltaText a (appendDeltaText b c) := by
  funext key
  simp only [appendDeltaText_apply, textUnder_append b c (.inl rfl)]
  by_cases h : key = "append" ∨ key = "body"
  · rw [textUnder_append a b h, String.append_assoc]
    by_cases hc : textUnder "append" c = "" <;> simp [h, hc]
  · simp [h]

/-! ### What is pending stands after what is committed -/

def RunEventStream.log : List (Draft V) :=
  s.committed ++ (s.pendingDelta.map PendingDelta.draft).toList

theorem flush_log : (flushPendingDelta s).log = s.log ∧ (flushPendingDelta s).pendingDelta = none := by
  simp [RunEventStream.log, flushPendingDelta, RunEventStream.commit]

theorem commit_log (drafts : List (Draft V)) (h : s.pendingDelta = none) : (s.commit drafts).log = s.log ++ drafts := by
  simp [RunEventStream.log, RunEventStream.commit, h]

/-- A window starts behind all that was published before. -/
private theorem startWindow_log (clock : Clock) (s : RunEventStream V) (draft : Draft V) :
    (startWindow clock s draft).log = s.log ++ [draft] := by
  obtain ⟨hlog, hnone⟩ := flush_log s
  unfold startWindow
  split
  · rw [commit_log _ _ hnone, hlog]
  · rw [← hlog]
    simp [RunEventStream.log, hnone]

/-! ### The calls -/

variable [DecidableEq V]

def sameDeltaTarget (left right : Draft V) : Bool :=
  left.kind == right.kind && left.payload "spanId" = right.payload "spanId" &&
    left.payload "channel" = right.payload "channel" &&
    left.payload "sourceClassification" = right.payload "sourceClassification"

def mergeable (clock : Clock) (current : PendingDelta V) (draft : Draft V) : Bool :=
  sameDeltaTarget current.draft draft && clock.first - current.started < deltaCoalesceWindow &&
    deltaTextLen current.draft.payload < deltaCoalesceMaxBytes

def publishDelta (clock : Clock) (s : RunEventStream V) (draft : Draft V) : RunEventStream V :=
  match s.pendingDelta with
  | none => startWindow clock s draft
  | some current =>
    if mergeable clock current draft then
      let current := { current with draft := current.draft.merged draft }
      let s := { s with pendingDelta := some current }
      -- A chunk that fills the window is in the pending text already and starts the next one all the same.
      if waits clock current then s else startWindow clock s draft
    else startWindow clock s draft

inductive Call (V : Type) where
  | publish (clock : Clock) (draft : Draft V)
  | contextBatch (drafts : List (Draft V))
  | flush

def Call.events : Call V → List (Draft V)
  | .publish _ draft => [draft]
  | .contextBatch drafts => drafts
  | .flush => []

def step (s : RunEventStream V) : Call V → RunEventStream V
  | .publish clock draft =>
    if draft.kind = deltaEventKind then publishDelta clock s draft else (flushPendingDelta s).commit [draft]
  | .contextBatch drafts => s.commit drafts
  | .flush => flushPendingDelta s

/-- What a run commits up to its final flush. -/
def recorded (calls : List (Call V)) : List (Draft V) := (step (calls.foldl step {}) .flush).committed

/-- One more event in a merged log, the newest event first. -/
def addEvent : List (Draft V) → Draft V → List (Draft V)
  | last :: rest, draft =>
    if last.kind = deltaEventKind ∧ sameDeltaTarget last draft then last.merged draft :: rest
    else draft :: last :: rest
  | [], draft => [draft]

/-- A log with adjacent deltas of one target merged, the newest event first. -/
def mergedLog (events : List (Draft V)) : List (Draft V) := events.foldl addEvent []

theorem sameDeltaTarget_merged (a b c : Draft V) : (sameDeltaTarget (a.merged b) c = sameDeltaTarget a c) ∧
    sameDeltaTarget c (a.merged b) = sameDeltaTarget c a := by
  simp [sameDeltaTarget, Draft.merged, appendDeltaText_apply]

/-- Merging a chunk before or after logging it makes no difference. -/
theorem addEvent_merged (log : List (Draft V)) (p d : Draft V) (hkind : p.kind = deltaEventKind)
    (hsame : sameDeltaTarget p d = true) : addEvent (addEvent log p) d = addEvent log (p.merged d) := by
  cases log with
  | nil => simp [addEvent, hkind, hsame]
  | cons last rest =>
    simp only [addEvent, (sameDeltaTarget_merged p d last).2]
    by_cases hlast : last.kind = deltaEventKind ∧ sameDeltaTarget last p = true
    · have hnext : sameDeltaTarget last d = true := by
        simp only [sameDeltaTarget, Bool.and_eq_true, beq_iff_eq, decide_eq_true_eq] at *
        grind
      have hdelta : (last.merged p).kind = deltaEventKind := hlast.1
      simp only [hlast, and_self, if_true, hdelta, (sameDeltaTarget_merged last p d).1, hnext]
      simp [Draft.merged, appendDeltaText_assoc]
    · simp [hlast, hkind, hsame]

/-- The call has room for the text it merges and commits no batch past pending text. -/
def Safe (s : RunEventStream V) : Call V → Prop
  | .publish clock draft => ∀ current, s.pendingDelta = some current → mergeable clock current draft = true →
    waits clock { current with draft := current.draft.merged draft } = true
  | .contextBatch _ => s.pendingDelta = none
  | .flush => True

/-- Every call of the run is safe in the state it meets. -/
def SafeRun : RunEventStream V → List (Call V) → Prop
  | _, [] => True
  | s, call :: rest => Safe s call ∧ SafeRun (step s call) rest

private theorem step_recorded (s : RunEventStream V) (call : Call V) (hsafe : Safe s call) :
    mergedLog (step s call).log = mergedLog (s.log ++ call.events) := by
  obtain ⟨hlog, hnone⟩ := flush_log s
  cases call with
  | publish clock draft =>
    simp only [step, Call.events]
    split
    · rename_i hkind
      unfold publishDelta
      split
      · rw [startWindow_log]
      · rename_i current hpending
        split
        · rename_i hmerge
          rw [if_pos (hsafe current hpending hmerge)]
          simp only [mergeable, Bool.and_eq_true] at hmerge
          have hsame := hmerge.1.1
          simp only [sameDeltaTarget, Bool.and_eq_true, beq_iff_eq, decide_eq_true_eq] at hsame
          simp [mergedLog, RunEventStream.log, hpending, addEvent_merged _ _ _ (hsame.1.1.1.trans hkind) hmerge.1.1]
        · rw [startWindow_log]
    · rw [commit_log _ _ hnone, hlog]
  | contextBatch drafts => exact congrArg mergedLog (commit_log s drafts hsafe)
  | flush =>
    rw [step, hlog]
    simp [Call.events]

private theorem run_recorded (calls : List (Call V)) (s : RunEventStream V) (hsafe : SafeRun s calls) :
    mergedLog (calls.foldl step s).log = mergedLog (s.log ++ calls.flatMap Call.events) := by
  induction calls generalizing s with
  | nil => simp
  | cons call rest ih =>
    obtain ⟨hcall, hrest⟩ := hsafe
    have hstep := step_recorded s call hcall
    rw [List.foldl_cons, ih _ hrest, List.flatMap_cons, ← List.append_assoc]
    unfold mergedLog at *
    rw [List.foldl_append, hstep, ← List.foldl_append]

/-- The text streamed to a chunk's target, with one more event. -/
def addText (chunk : Draft V) (text : String) (event : Draft V) : String :=
  if event.kind = deltaEventKind ∧ sameDeltaTarget chunk event then text ++ textUnder "append" event.payload else text

/-- The text that a log streams to a chunk's target. -/
def streamedText (chunk : Draft V) (events : List (Draft V)) : String := events.foldl (addText chunk) ""

private theorem addText_merged (chunk last draft : Draft V) (text : String) (hkind : last.kind = deltaEventKind)
    (hsame : sameDeltaTarget last draft = true) :
    addText chunk text (last.merged draft) = addText chunk (addText chunk text last) draft := by
  have htarget : sameDeltaTarget chunk draft = sameDeltaTarget chunk last := by
    simp only [sameDeltaTarget, Bool.and_eq_true, beq_iff_eq, decide_eq_true_eq] at hsame
    simp only [sameDeltaTarget, hsame]
  have hdraft : draft.kind = deltaEventKind := by
    simp only [sameDeltaTarget, Bool.and_eq_true, beq_iff_eq] at hsame
    exact hsame.1.1.1 ▸ hkind
  have hmerged : (last.merged draft).kind = deltaEventKind := hkind
  simp only [addText, (sameDeltaTarget_merged last draft chunk).2, htarget, hkind, hdraft, hmerged, true_and]
  split
  · rw [Draft.merged, textUnder_append _ _ (.inl rfl), String.append_assoc]
  · rfl

/-- Merging keeps the text of every target. -/
theorem streamedText_mergedLog (chunk : Draft V) (events : List (Draft V)) :
    streamedText chunk (mergedLog events).reverse = streamedText chunk events := by
  induction events using List.reverseRecOn with
  | nil => rfl
  | append_singleton events event ih =>
    have hadd : mergedLog (events ++ [event]) = addEvent (mergedLog events) event := List.foldl_append
    have htext : streamedText chunk (events ++ [event]) = addText chunk (streamedText chunk events) event :=
      List.foldl_append
    rw [hadd, htext, ← ih]
    cases mergedLog events with
    | nil => rfl
    | cons last rest =>
      rw [addEvent]
      split
      · rename_i hlast
        simp [streamedText, addText_merged chunk last event _ hlast.1 hlast.2]
      · simp [streamedText]

/-- In every run whose calls find room for the text they merge and commit no batch past pending text, the committed
events are the published ones, merged over adjacent deltas of one target; so each target gets its text once. -/
theorem streamed_text_recorded_once (calls : List (Call V)) (hsafe : SafeRun {} calls) :
    mergedLog (recorded calls) = mergedLog (calls.flatMap Call.events) ∧
      ∀ chunk, streamedText chunk (recorded calls) = streamedText chunk (calls.flatMap Call.events) := by
  have hrun := run_recorded calls {} hsafe
  obtain ⟨hlog, hnone⟩ := flush_log (calls.foldl step {})
  rw [RunEventStream.log, hnone] at hlog
  have hmerged : mergedLog (recorded calls) = mergedLog (calls.flatMap Call.events) := by
    simpa [recorded, step, RunEventStream.log] using (congrArg mergedLog hlog).trans hrun
  refine ⟨hmerged, fun chunk => ?_⟩
  rw [← streamedText_mergedLog, hmerged, streamedText_mergedLog]

section Sample

def sampleChunk (text : String) : Draft Empty :=
  ⟨deltaEventKind, fun key => if key = "append" then some (.inl text) else none⟩

/-- Two chunks; the window may end between the two looks at the clock in the second call. -/
def sampleChunks (second : Nat) : List (Call Empty) :=
  [.publish ⟨0, 0, 0⟩ (sampleChunk "a"), .publish ⟨59, second, 60⟩ (sampleChunk "b")]

def sampleBatch : List (Call Empty) :=
  [.publish ⟨0, 0, 0⟩ (sampleChunk "a"), .contextBatch [⟨"context.usage", fun _ => none⟩]]

/-- Kinds and texts of a merged log. -/
def outline (events : List (Draft Empty)) : List (String × String) :=
  (mergedLog events).map fun event => (event.kind, textUnder "append" event.payload)

/-- The second chunk is recorded twice, or a batch before the text published before it. -/
theorem text_doubled_and_moved :
    outline (recorded (sampleChunks 60)) = [(deltaEventKind, "abb")] ∧
    outline ((sampleChunks 60).flatMap Call.events) = [(deltaEventKind, "ab")] ∧
    outline (recorded sampleBatch) = [(deltaEventKind, "a"), ("context.usage", "")] ∧
    outline (sampleBatch.flatMap Call.events) = [("context.usage", ""), (deltaEventKind, "a")] := by
  refine ⟨?_, ?_, ?_, ?_⟩
  all_goals rfl

theorem sample_recorded_once : SafeRun {} (sampleChunks 59) ∧
    mergedLog (recorded (sampleChunks 59)) = mergedLog ((sampleChunks 59).flatMap Call.events) ∧
    streamedText (sampleChunk "") (recorded (sampleChunks 59)) = "ab" := by
  have hsafe : SafeRun {} (sampleChunks 59) := by
    refine ⟨?_, ?_, trivial⟩
    · rintro _ ⟨⟩
    · rintro _ ⟨⟩ _
      rfl
  obtain ⟨hmerged, htext⟩ := streamed_text_recorded_once (sampleChunks 59) hsafe
  exact ⟨hsafe, hmerged, htext _⟩

end Sample

end Aworkit.Desktop.DeltaStream
