import Aworkit.Logic.Fallible
import Aworkit.Protocol.Json

/-! The compaction policy of a chat and the overlay of an agent node (`runtime/compaction/mod.rs`), with the validator
of a saved overlay (`runtime/documents.rs`). A double is given by its bits. -/
namespace Aworkit.Desktop.Compaction
open Protocol Fallible

/-- The doubles that are numbers, in order; the zeros share a place. -/
def orderOf (double : Nat) : Int := if double < 2 ^ 63 then double else 2 ^ 63 - double

def isFinite (double : Nat) : Bool := decide (double % 2 ^ 63 < 0x7FF0000000000000)

/-- `<` of two doubles that are numbers. -/
def below (left right : Nat) : Bool := decide (orderOf left < orderOf right)

/-- The compression policy, as far as its validation reads it. -/
structure CompressionPolicy where
  (minimumBytes minimumSavings targetRatio : Nat)
  (protectedText excludedTools : List String)

def CompressionPolicy.validate (policy : CompressionPolicy) : Except String Unit :=
  refuseIf (!(decide (256 ≤ policy.minimumBytes) && decide (policy.minimumBytes ≤ 524288)) ||
    !isFinite policy.minimumSavings || below policy.minimumSavings 0x3FA999999999999A ||
    below 0x3FECCCCCCCCCCCCD policy.minimumSavings || !isFinite policy.targetRatio ||
    below policy.targetRatio 0x3FB999999999999A || below 0x3FECCCCCCCCCCCCD policy.targetRatio ||
    decide (64 < policy.protectedText.length) || decide (128 < policy.excludedTools.length) ||
    (policy.protectedText ++ policy.excludedTools).any fun s =>
      s.isEmpty || decide (1024 < s.utf8ByteSize) || s.toList.any (·.toNat == 0))
    "Invalid compression policy: size 256–524288, savings 0.05–0.9, target 0.1–0.9, bounded nonempty protection/tool entries required."

/-- The policy, as far as its validation and the overlay touch it. -/
structure Policy where
  compression : Option CompressionPolicy := none
  (summarizationProvider summarizationModel : Option String := none)
  auto : Bool := true
  thresholdRatio : Nat := 0x3FE999999999999A
  summaryShare : Option Nat := none
  (compactionRetries maxOverflowRetries : Nat := 1)
  pruneToolResults : Bool := true
  thresholdChars : Nat := 8192
  headChars : Nat := 4096
  tailChars : Nat := 1024

def pruneMarker (removed : Nat) : String :=
  "\n\n[... middle of this tool result pruned: " ++ toString removed ++
    " characters removed, so this result is incomplete. Re-read or re-run the request (with read_file offset " ++
    "and limit for a file) before relying on anything omitted here ...]\n\n"

def pruneMarkerBoundChars : Nat := (pruneMarker u64Max).length

def maximumCompactionPruneChars : Nat := 4 * 1024 * 1024
def maximumCompactionKeepChars : Nat := 1024 * 1024

def Policy.validate (policy : Policy) (capacity : Option Nat) : Except String Unit := do
  (policy.compression.map CompressionPolicy.validate).getD (.ok ())
  refuseIf (policy.summarizationProvider.isSome != policy.summarizationModel.isSome ||
    policy.summarizationProvider.any String.isEmpty != policy.summarizationModel.any String.isEmpty)
    "Summarization provider and model must be omitted, cleared or configured together."
  let share := policy.summaryShare.getD 0x3FC999999999999A
  refuseIf (!isFinite policy.thresholdRatio || !below 0 policy.thresholdRatio ||
    below 0x3FF0000000000000 policy.thresholdRatio || !below 0x3FD0000000000000 policy.thresholdRatio ||
    !isFinite share || !below 0 share || !below share 0x3FF0000000000000 ||
    decide (32 < policy.compactionRetries) || decide (32 < policy.maxOverflowRetries) ||
    policy.thresholdChars == 0 || decide (maximumCompactionPruneChars < policy.thresholdChars) ||
    decide (policy.thresholdChars <
      saturatingAdd u64Max (saturatingAdd u64Max policy.headChars policy.tailChars) pruneMarkerBoundChars))
    ("Invalid compaction policy: require a trigger above the quarter-window occupancy target, " ++
      "a summary share strictly between 0 and 1, and valid pruning budgets.")
  refuseIf (capacity == some 0) "Compaction requires a positive context window."

structure Overlay where
  (auto pruneToolResults : Option Bool)
  (thresholdChars headChars tailChars : Option Nat)
  deriving DecidableEq

def asU64 : Value → Option Nat
  | .number (.posInt n) => some n
  | _ => none

/-- A member that may be absent or null, as `serde` reads it. -/
def optional {α : Type} (read : Value → Option α) (key : String) (members : List (String × Value)) : Option (Option α) :=
  match Value.member key members with
  | none | some .null => some none
  | some value => (read value).map some

def overlayKeys : List String := ["auto", "headChars", "pruneToolResults", "tailChars", "thresholdChars"]

/-- The overlay that a node's `compaction` holds. -/
def Overlay.fromValue (compaction : Value) : Option Overlay := do
  let members ← compaction.asObject
  guard (members.all fun member => overlayKeys.contains member.1)
  return ⟨← optional Value.asBool "auto" members, ← optional Value.asBool "pruneToolResults" members,
    ← optional asU64 "thresholdChars" members, ← optional asU64 "headChars" members,
    ← optional asU64 "tailChars" members⟩

def Overlay.apply (overlay : Overlay) (policy : Policy) : Policy :=
  { policy with
    auto := overlay.auto.getD policy.auto
    pruneToolResults := overlay.pruneToolResults.getD policy.pruneToolResults
    thresholdChars := overlay.thresholdChars.getD policy.thresholdChars
    headChars := overlay.headChars.getD policy.headChars
    tailChars := overlay.tailChars.getD policy.tailChars }

section Validator
variable {α : Type} (nodeId : String) (members : List (String × Value)) (read : Value → Option α) (accepts : α → Bool)

/-- A member that is there must be read and accepted. -/
def checkField (key expected : String) : Except String Unit :=
  refuseIf ((Value.member key members).any fun value => !(read value).any accepts)
    ("workflow node '" ++ nodeId ++ "' agent compaction " ++ key ++ " must be " ++ expected)

def checkBoolean (key : String) : Except String Unit :=
  checkField nodeId members Value.asBool (fun _ => true) key "a boolean"

def checkRange (key : String) (minimum maximum : Nat) : Except String Unit :=
  checkField nodeId members asU64 (fun n => decide (minimum ≤ n) && decide (n ≤ maximum)) key
    (toString minimum ++ "..=" ++ toString maximum)

def validateAgentCompaction (compaction : Value) : Except String Unit := do
  let members ← require compaction.asObject ("workflow node '" ++ nodeId ++ "' agent compaction must be an object")
  refuseIf (members.any fun member => !overlayKeys.contains member.1) ("workflow node '" ++ nodeId ++
    "' agent compaction accepts exactly auto, pruneToolResults, thresholdChars, headChars, and tailChars")
  checkBoolean nodeId members "auto"
  checkBoolean nodeId members "pruneToolResults"
  checkRange nodeId members "thresholdChars" 1 maximumCompactionPruneChars
  checkRange nodeId members "headChars" 0 maximumCompactionKeepChars
  checkRange nodeId members "tailChars" 0 maximumCompactionKeepChars

variable {nodeId members read accepts} {key expected : String}

theorem checkField_ok (h : checkField nodeId members read accepts key expected = .ok ()) :
    ∃ found, optional read key members = some found ∧ ∀ a, found = some a → accepts a = true := by
  simp only [checkField, refuseIf_eq_ok] at h
  unfold optional
  split
  · exact ⟨none, rfl, by simp⟩
  · exact ⟨none, rfl, by simp⟩
  · next value _ hvalue =>
    rw [hvalue, Option.any_some, Bool.not_eq_false', Option.any_eq_true] at h
    obtain ⟨a, hread, haccepts⟩ := h
    refine ⟨some a, by rw [hread]; rfl, ?_⟩
    rintro _ ⟨⟩
    exact haccepts

end Validator

/-- An accepted overlay keeps an accepted policy valid exactly if its and the inherited lengths leave room for the
marker. -/
theorem overlaid_policy_iff (nodeId : String) (compaction : Value) (policy : Policy) (capacity : Option Nat)
    (hcompaction : validateAgentCompaction nodeId compaction = .ok ()) (hpolicy : policy.validate capacity = .ok ()) :
    ∃ overlay, Overlay.fromValue compaction = some overlay ∧ ((overlay.apply policy).validate capacity = .ok () ↔
      overlay.headChars.getD policy.headChars + overlay.tailChars.getD policy.tailChars + pruneMarkerBoundChars ≤
        overlay.thresholdChars.getD policy.thresholdChars) := by
  simp only [validateAgentCompaction, passes] at hcompaction
  obtain ⟨members, hmembers, _, hkeys, _, hauto, _, hprune, _, hthreshold, _, hhead, htail⟩ := hcompaction
  obtain ⟨auto, hauto, _⟩ := checkField_ok hauto
  obtain ⟨prune, hprune, _⟩ := checkField_ok hprune
  obtain ⟨threshold, hthreshold, hrange⟩ := checkField_ok hthreshold
  obtain ⟨head, hhead, _⟩ := checkField_ok hhead
  obtain ⟨tail, htail, _⟩ := checkField_ok htail
  refine ⟨⟨auto, prune, threshold, head, tail⟩, ?_, ?_⟩
  · have hall : (members.all fun member => overlayKeys.contains member.1) = true := by
      simpa [List.any_eq_false] using hkeys
    simp only [Overlay.fromValue, hmembers, hall, guard, if_true, Option.pure_def, Option.bind_eq_bind,
      Option.bind_some, hauto, hprune, hthreshold, hhead, htail]
  · simp only [Policy.validate, passes, unmet, beq_eq_false_iff_ne] at hpolicy ⊢
    obtain ⟨_, hcompression, _, hroute, _, ⟨⟨⟨hrest, hpositive⟩, hbound⟩, _⟩, hcapacity⟩ := hpolicy
    -- The lengths are the only fields of the validation that the overlay changes.
    have hlength : threshold.getD policy.thresholdChars ≠ 0 ∧
        ¬maximumCompactionPruneChars < threshold.getD policy.thresholdChars := by
      cases threshold with
      | none => exact ⟨hpositive, hbound⟩
      | some n =>
        have hn := hrange n rfl
        simp only [met] at hn
        simp only [Option.getD_some]
        omega
    have hroom (head tail threshold : Nat) (h : ¬maximumCompactionPruneChars < threshold) :
        ¬threshold < saturatingAdd u64Max (saturatingAdd u64Max head tail) pruneMarkerBoundChars ↔
          head + tail + pruneMarkerBoundChars ≤ threshold := by
      unfold saturatingAdd u64Max
      unfold maximumCompactionPruneChars at h
      omega
    rw [← hroom _ _ _ hlength.2]
    refine ⟨?_, fun hfits => ⟨(), hcompression, (), hroute, (), ⟨⟨⟨hrest, hlength.1⟩, hlength.2⟩, hfits⟩, hcapacity⟩⟩
    rintro ⟨_, _, _, _, _, ⟨_, hfits⟩, _⟩
    exact hfits

/-- A node that lowers the threshold alone breaks the default policy. -/
theorem lowered_threshold_refused :
    validateAgentCompaction "agent.1" (.object [("thresholdChars", .number (.posInt 1))]) = .ok () ∧
      Policy.validate {} none = .ok () ∧
      Overlay.fromValue (.object [("thresholdChars", .number (.posInt 1))]) = some ⟨none, none, some 1, none, none⟩ ∧
      (Overlay.apply ⟨none, none, some 1, none, none⟩ {}).validate none ≠ .ok () := by
  decide +kernel

theorem sampleOverlay_accepted :
    validateAgentCompaction "agent.1" (.object [("headChars", .number (.posInt 0))]) = .ok () ∧
      Policy.validate {} none = .ok () ∧
      ∃ overlay, Overlay.fromValue (.object [("headChars", .number (.posInt 0))]) = some overlay ∧
        (overlay.apply {}).validate none = .ok () := by
  have hcompaction : validateAgentCompaction "agent.1" (.object [("headChars", .number (.posInt 0))]) = .ok () := by
    decide +kernel
  have hpolicy : Policy.validate {} none = .ok () := by decide +kernel
  obtain ⟨overlay, hoverlay, hkept⟩ := overlaid_policy_iff _ _ _ _ hcompaction hpolicy
  refine ⟨hcompaction, hpolicy, overlay, hoverlay, hkept.mpr ?_⟩
  cases hoverlay
  decide +kernel

end Aworkit.Desktop.Compaction
