import Aworkit.Protocol.FrameStream

/-! Streams of frames some of whose bodies do not decode: what an error costs depends on the cut into chunks. -/
namespace Aworkit.Protocol
open Fallible Scanner List

variable {T : Type} {codec : JsonCodec T} {bodies : List (List UInt8)}

/-- Every frame decodes; or the first does not, and from its end on no decodable frame begins at any byte. -/
def Harmless (codec : JsonCodec T) (bodies : List (List UInt8)) : Prop :=
  AllDecode codec bodies ∨ ∃ first rest, bodies = first :: rest ∧ codec.fromSlice first = none ∧
    ∀ skipped body after, streamOf rest = skipped ++ frameOf body ++ after → body.length ≤ maxFrameBytes →
      codec.fromSlice body = none

/-- A cut in which the chunk that completes a malformed frame holds only its bytes. -/
inductive Spared (codec : JsonCodec T) : List (List UInt8) → List (List UInt8) → Prop
  | clean {bodies chunks : List (List UInt8)} (hdecode : AllDecode codec bodies) (hcut : chunks.flatten = streamOf bodies) :
      Spared codec bodies chunks
  | broken {good bodies front chunks : List (List UInt8)} {bad last : List UInt8} (hdecode : AllDecode codec good)
      (hbad : codec.fromSlice bad = none) (hcut : front.flatten ++ last = streamOf good ++ frameOf bad) (hlast : last ≠ [])
      (hlength : last.length ≤ (frameOf bad).length) (hrest : Spared codec bodies chunks) :
      Spared codec (good ++ bad :: bodies) (front ++ [last] ++ chunks)

theorem frame_malformed {body : List UInt8} (hsize : body.length ≤ maxFrameBytes) (h : codec.fromSlice body = none) :
    Frame (judge codec) (frameOf body) (.failed .invalidJson) := by
  have hframe := @frame_frameOf T codec body hsize
  rwa [verdictOf, h] at hframe

theorem delivered_feed (chunks : List (List UInt8)) :
    delivered (pushAll codec .new chunks).1 = delivered (feed (judge codec) [] chunks).1 := by
  rw [(pushAll_feed .new chunks).1]
  rfl

/-- Of a spared stream every decodable frame is delivered. -/
theorem Spared.delivered (hsize : ∀ body ∈ bodies, body.length ≤ maxFrameBytes) (h : Spared codec bodies chunks) :
    Scanner.delivered (feed (judge codec) [] chunks).1 = bodies.filterMap codec.fromSlice := by
  induction h with
  | @clean bodies chunks hdecode hcut =>
    have hscan : scan (judge codec) [] [] chunks.flatten = (.ok (bodies.filterMap codec.fromSlice), []) := by
      rw [hcut, streamOf, scan_frames (frames_done hsize hdecode), nil_append]
    obtain ⟨returned, hfeed, hflat⟩ := feed_cut chunks hscan
    rw [hfeed, delivered_ok, hflat]
  | @broken good bodies front chunks bad last hdecode hbad hcut hlast hlength _ ih =>
    have hgood : ∀ body ∈ good, body.length ≤ maxFrameBytes := fun body hmem => hsize body (mem_append_left _ hmem)
    have hrest : ∀ body ∈ bodies, body.length ≤ maxFrameBytes :=
      fun body hmem => hsize body (mem_append_right _ (mem_cons_of_mem _ hmem))
    have hbroken := frame_malformed (hsize bad (mem_append_right _ mem_cons_self)) hbad
    obtain ⟨returned, hfeed, hflat⟩ := feed_broken (frames_done hgood hdecode) hbroken hcut hlast hlength
    rw [feed_append, hfeed, delivered_append, delivered_append, delivered_ok, hflat, ih hrest, filterMap_append,
      filterMap_cons_none hbad]
    exact congrArg (· ++ _) (append_nil _)

/-- Behind a malformed frame after which no decodable one begins, nothing is delivered. -/
theorem barren_of_sterile {first : List UInt8} (hsize : first.length ≤ maxFrameBytes)
    (hfirst : codec.fromSlice first = none)
    (hsterile : ∀ skipped body after, streamOf rest = skipped ++ frameOf body ++ after → body.length ≤ maxFrameBytes →
      codec.fromSlice body = none) : Barren (judge codec) [] (streamOf (first :: rest)) := by
  refine ⟨waits_nil, .inr ⟨frameOf first, streamOf rest, _, rfl, frame_malformed hsize hfirst, ?_, ?_⟩⟩
  · rw [frameOf_length, length_nil]
    exact Nat.add_pos_left (by decide) _
  · intro skipped items after message hsplit hframe
    obtain ⟨body, rfl, hbody, hmessage⟩ := frame_done hframe
    rw [hsterile skipped body after hsplit hbody] at hmessage
    cases hmessage

theorem streamOf_split (h : body ∈ bodies) : ∃ skipped after, streamOf bodies = skipped ++ frameOf body ++ after := by
  obtain ⟨before, after, rfl⟩ := append_of_mem h
  refine ⟨streamOf before, streamOf after, ?_⟩
  simp [streamOf, map_append, map_cons, flatten_append, flatten_cons, append_assoc]

/-- In one chunk, a malformed frame costs every message of the stream. -/
theorem single_chunk_lost (hsize : ∀ body ∈ bodies, body.length ≤ maxFrameBytes) (hbad : bad ∈ bodies)
    (hnone : codec.fromSlice bad = none) : delivered (feed (judge codec) [] [streamOf bodies]).1 = [] := by
  have hframes : ∀ frame ∈ bodies.map frameOf, ∃ verdict, Frame (judge codec) frame verdict ∧ verdict ≠ .waiting := by
    intro frame hmem
    obtain ⟨body, hbody, rfl⟩ := mem_map.mp hmem
    refine ⟨_, frame_frameOf (hsize body hbody), ?_⟩
    rw [verdictOf]
    cases codec.fromSlice body <;> exact fun h => by cases h
  obtain ⟨e, hscan⟩ := @scan_frames_failed _ _ _ _ [] _ _ _ hframes (mem_map_of_mem hbad)
    (frame_malformed (hsize bad hbad) hnone)
  rw [feed, streamOf, hscan]
  rfl

/-- After a malformed frame a chunk may end at any byte, and a frame beginning there is delivered. -/
theorem resumed_inside {first body skipped after : List UInt8}
    (hfirst : first.length ≤ maxFrameBytes) (hnone : codec.fromSlice first = none) (hbody : body.length ≤ maxFrameBytes)
    (hsome : codec.fromSlice body = some message) (hsplit : streamOf rest = skipped ++ frameOf body ++ after) :
    [frameOf first ++ skipped, frameOf body, after].flatten = streamOf (first :: rest) ∧
      delivered (feed (judge codec) [] [frameOf first ++ skipped, frameOf body, after]).1 ≠ [] := by
  constructor
  · have hstream : streamOf (first :: rest) = frameOf first ++ streamOf rest := rfl
    rw [hstream, hsplit]
    simp [flatten_cons, flatten_nil, append_nil, append_assoc]
  · have hframe := @frame_frameOf T codec body hbody
    rw [verdictOf, hsome] at hframe
    have hscan : scan (judge codec) [] [] (frameOf body) = (.ok [message], []) := by
      have hdone := @Frame.scan_done _ _ _ _ _ [] _ hframe []
      rwa [append_nil] at hdone
    rw [feed, (frame_malformed hfirst hnone).scan_failed, feed, hscan]
    exact cons_ne_nil _ _

/-- A stream is delivered up to its malformed frames under every cut exactly when it is harmless; and every stream is
under the cuts that spare its neighbours. -/
theorem malformed_frames_iff (codec : JsonCodec T) (bodies : List (List UInt8))
    (hsize : ∀ body ∈ bodies, body.length ≤ maxFrameBytes) :
    ((∀ chunks, chunks.flatten = streamOf bodies →
        delivered (pushAll codec .new chunks).1 = bodies.filterMap codec.fromSlice) ↔ Harmless codec bodies) ∧
      ∀ chunks, Spared codec bodies chunks →
        delivered (pushAll codec .new chunks).1 = bodies.filterMap codec.fromSlice := by
  refine ⟨⟨fun hall => ?_, fun hharmless chunks hcut => ?_⟩, fun chunks hspared => ?_⟩
  · by_contra hharmful
    obtain ⟨hsome, hnever⟩ := not_or.mp hharmful
    obtain ⟨bad, hbad, hnone⟩ : ∃ bad ∈ bodies, codec.fromSlice bad = none := by
      by_contra hall
      refine hsome fun body hmem => Option.ne_none_iff_exists'.mp fun hnone => hall ⟨body, hmem, hnone⟩
    have hempty : bodies.filterMap codec.fromSlice = [] := by
      rw [← hall [streamOf bodies] (append_nil _), delivered_feed, single_chunk_lost hsize hbad hnone]
    rw [filterMap_eq_nil_iff] at hempty
    cases bodies with
    | nil => cases hbad
    | cons first rest =>
      refine hnever ⟨first, rest, rfl, hempty first mem_cons_self, fun skipped body after hsplit hbody => ?_⟩
      by_contra hdecodes
      obtain ⟨message, hmessage⟩ := Option.ne_none_iff_exists'.mp hdecodes
      obtain ⟨hcut, hdelivered⟩ := resumed_inside (hsize first mem_cons_self) (hempty first mem_cons_self) hbody
        hmessage hsplit
      rw [← delivered_feed, hall _ hcut, ne_eq, filterMap_eq_nil_iff] at hdelivered
      exact hdelivered hempty
  · rw [delivered_feed]
    rcases hharmless with hdecode | ⟨first, rest, rfl, hfirst, hsterile⟩
    · exact (Spared.clean hdecode hcut).delivered hsize
    · have hbarren := barren_of_sterile (hsize first mem_cons_self) hfirst hsterile
      rw [← hcut] at hbarren
      rw [hbarren.feed, filterMap_cons_none hfirst, eq_comm, filterMap_eq_nil_iff]
      intro body hmem
      obtain ⟨skipped, after, hsplit⟩ := streamOf_split hmem
      exact hsterile skipped body after hsplit (hsize body (mem_cons_of_mem _ hmem))
  · rw [delivered_feed]
    exact hspared.delivered hsize

/-- JSON at `bool`, on the texts of the sample stream. -/
def sampleCodec : JsonCodec Bool where
  toVec message := some (if message then [116, 114, 117, 101] else [102, 97, 108, 115, 101])
  fromSlice body :=
    if body = [116, 114, 117, 101] then some true else if body = [102, 97, 108, 115, 101] then some false else none

/-- `true`, a body that is not JSON, and `false`. -/
def sampleBodies : List (List UInt8) := [[116, 114, 117, 101], [120], [102, 97, 108, 115, 101]]

private theorem sampleBodies_size : ∀ body ∈ sampleBodies, body.length ≤ maxFrameBytes := by
  decide

private theorem sampleBodies_spared : Spared sampleCodec sampleBodies (sampleBodies.map frameOf) := by
  have hfirst : AllDecode sampleCodec [[116, 114, 117, 101]] := by
    intro body hmem
    exact ⟨true, by rw [mem_singleton.mp hmem]; rfl⟩
  have hlast : AllDecode sampleCodec [[102, 97, 108, 115, 101]] := by
    intro body hmem
    exact ⟨false, by rw [mem_singleton.mp hmem]; rfl⟩
  have hcut : [frameOf [116, 114, 117, 101]].flatten ++ frameOf [120] = streamOf [[116, 114, 117, 101]] ++ frameOf [120] := rfl
  have hrest : Spared sampleCodec [[102, 97, 108, 115, 101]] [frameOf [102, 97, 108, 115, 101]] := .clean hlast rfl
  exact .broken hfirst rfl hcut (cons_ne_nil _ _) (Nat.le_refl _) hrest

/-- One frame a chunk, the stream is delivered up to its malformed frame. -/
theorem sample_malformed_frames : delivered (pushAll sampleCodec .new (sampleBodies.map frameOf)).1 = [true, false] :=
  (malformed_frames_iff sampleCodec sampleBodies sampleBodies_size).2 _ sampleBodies_spared

/-- In one chunk, the sample stream delivers nothing. -/
theorem malformed_frame_swallows :
    delivered (pushAll sampleCodec .new [streamOf sampleBodies]).1 = [] ∧
      sampleBodies.filterMap sampleCodec.fromSlice = [true, false] := by
  refine ⟨?_, rfl⟩
  rw [delivered_feed]
  exact single_chunk_lost sampleBodies_size (mem_cons_of_mem _ mem_cons_self) rfl

end Aworkit.Protocol
