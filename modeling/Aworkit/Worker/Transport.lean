import Aworkit.Protocol.FrameFaults
import Aworkit.Worker.Service

/-! Frames over the worker's standard input, each read from an input that hands out its bytes in pieces. -/
namespace Aworkit.Worker
open Protocol Fallible List

/-- The pieces in which an input hands out its bytes. -/
abbrev Input := List (List UInt8)

/-- `Read::read`: some bytes, at most `n`, and none only at the end. -/
def readSome (n : Nat) : Input → List UInt8 × Input
  | [] => ([], [])
  | [] :: rest => readSome n rest
  | (byte :: piece) :: rest => ((byte :: piece).take n, (byte :: piece).drop n :: rest)

theorem readSome_split (n : Nat) (input : Input) :
    input.flatten = (readSome n input).1 ++ (readSome n input).2.flatten ∧ (readSome n input).1.length ≤ n := by
  fun_induction readSome n input with
  | case1 => exact ⟨rfl, Nat.zero_le _⟩
  | case2 rest ih => exact ih
  | case3 byte piece rest =>
    refine ⟨?_, length_take_le _ _⟩
    rw [flatten_cons, flatten_cons, ← append_assoc, take_append_drop]

variable {input : Input} {T : Type} {codec : JsonCodec T}

private theorem readSome_end (hn : 0 < n) (h : (readSome n input).1 = []) : input.flatten = [] := by
  fun_induction readSome n input with
  | case1 => rfl
  | case2 rest ih => exact ih h
  | case3 byte piece rest =>
    rw [take_eq_nil_iff] at h
    rcases h with hzero | hnil
    · exact absurd hzero hn.ne'
    · cases hnil

/-- Reads until `n` bytes are there or the input ends. -/
def readUpTo (n : Nat) (got : List UInt8) (input : Input) : List UInt8 × Input :=
  if _ : n ≤ got.length then (got, input)
  else
    if _ : (readSome (n - got.length) input).1 = [] then (got, (readSome (n - got.length) input).2)
    else readUpTo n (got ++ (readSome (n - got.length) input).1) (readSome (n - got.length) input).2
termination_by n - got.length
decreasing_by
  rename_i hfull hend
  have hpos := length_pos_of_ne_nil hend
  rw [length_append]
  omega

/-- How the input hands out its bytes does not matter. -/
theorem readUpTo_spec (n : Nat) (got : List UInt8) (input : Input) :
    (readUpTo n got input).1 = got ++ input.flatten.take (n - got.length) ∧
      (readUpTo n got input).2.flatten = input.flatten.drop (n - got.length) := by
  fun_induction readUpTo n got input with
  | case1 got input hfull =>
    rw [Nat.sub_eq_zero_of_le hfull]
    exact ⟨(append_nil _).symm, rfl⟩
  | case2 got input hfull hend =>
    have hempty := readSome_end (Nat.sub_pos_of_lt (Nat.not_le.mp hfull)) hend
    have hsplit := (readSome_split (n - got.length) input).1
    rw [hend, hempty] at hsplit
    rw [hempty, take_nil, drop_nil, append_nil]
    exact ⟨rfl, hsplit.symm⟩
  | case3 got input hfull hend ih =>
    obtain ⟨hsplit, hlength⟩ := readSome_split (n - got.length) input
    obtain ⟨hread, hleft⟩ := ih
    rw [length_append, ← Nat.sub_sub] at hread hleft
    rw [hread, hleft, hsplit, append_assoc, take_append, take_of_length_le hlength, drop_append,
      drop_of_length_le hlength]
    exact ⟨rfl, rfl⟩

/-- One frame, or nothing at a clean end of the input. -/
def readOneFrame (input : Input) : Except WorkerRuntimeError (Option (List UInt8) × Input) :=
  let first := readUpTo framePrefixBytes [] input
  if first.1.length < framePrefixBytes then
    if first.1.isEmpty then .ok (none, first.2) else .error .truncatedFrame
  else if maxFrameBytes < fromBeBytes first.1 then .error (.protocol .frameTooLarge)
  else
    let body := readUpTo (fromBeBytes first.1) [] first.2
    if body.1.length < fromBeBytes first.1 then .error .truncatedFrame else .ok (some (first.1 ++ body.1), body.2)

/-- The loop of the service over its input: each frame is read and decoded. -/
inductive Reads {T : Type} (codec : JsonCodec T) : Input → List T → Prop
  | finished {input rest : Input} (hread : readOneFrame input = .ok (none, rest)) : Reads codec input []
  | next {input rest : Input} {frame : List UInt8} {message : T} {messages : List T}
      (hread : readOneFrame input = .ok (some frame, rest)) (hdecode : decodeFrame codec frame = .ok message)
      (hrest : Reads codec rest messages) : Reads codec input (message :: messages)

private theorem readOneFrame_end (h : input.flatten = []) : ∃ rest, readOneFrame input = .ok (none, rest) := by
  have hread := (readUpTo_spec framePrefixBytes [] input).1
  rw [h, take_nil, append_nil] at hread
  refine ⟨(readUpTo framePrefixBytes [] input).2, ?_⟩
  simp only [readOneFrame, hread]
  rfl

private theorem readOneFrame_frame {body after : List UInt8} (hsize : body.length ≤ maxFrameBytes)
    (h : input.flatten = frameOf body ++ after) :
    ∃ rest, readOneFrame input = .ok (some (frameOf body), rest) ∧ rest.flatten = after := by
  obtain ⟨hfirst, hleft⟩ := readUpTo_spec framePrefixBytes [] input
  have hsmall : body.length < 2 ^ 32 := Nat.lt_of_le_of_lt hsize (by decide)
  rw [h, frameOf, append_assoc, nil_append] at hfirst
  rw [h, frameOf, append_assoc] at hleft
  change _ = take (toBeBytes body.length).length _ at hfirst
  change _ = drop (toBeBytes body.length).length _ at hleft
  rw [take_left] at hfirst
  rw [drop_left] at hleft
  obtain ⟨hbody, hrest⟩ := readUpTo_spec body.length [] (readUpTo framePrefixBytes [] input).2
  rw [hleft, nil_append, length_nil, Nat.sub_zero, take_left] at hbody
  rw [hleft, length_nil, Nat.sub_zero, drop_left] at hrest
  refine ⟨(readUpTo body.length [] (readUpTo framePrefixBytes [] input).2).2, ?_, hrest⟩
  simp only [readOneFrame, hfirst, fromBeBytes_toBeBytes hsmall, hbody, Nat.lt_irrefl, if_false, Nat.not_lt.mpr hsize]
  rfl

private theorem reads_stream {bodies : List (List UInt8)}
    (hsize : ∀ body ∈ bodies, body.length ≤ maxFrameBytes) (hdecode : AllDecode codec bodies)
    (h : input.flatten = streamOf bodies) : Reads codec input (bodies.filterMap codec.fromSlice) := by
  induction bodies generalizing input with
  | nil =>
    obtain ⟨rest, hread⟩ := readOneFrame_end h
    exact .finished hread
  | cons body bodies ih =>
    have hbody := hsize body mem_cons_self
    obtain ⟨message, hmessage⟩ := hdecode body mem_cons_self
    obtain ⟨rest, hread, hrest⟩ := readOneFrame_frame hbody h
    rw [filterMap_cons_some hmessage]
    refine .next hread ?_ (ih (fun b hb => hsize b (mem_cons_of_mem _ hb)) (fun b hb => hdecode b (mem_cons_of_mem _ hb)) hrest)
    rw [decodeFrame_frameOf hbody, hmessage]
    rfl

private theorem encodeFrame_ok (h : encodeFrame codec message = .ok frame) :
    ∃ body, codec.toVec message = some body ∧ body.length ≤ maxFrameBytes ∧ frame = frameOf body := by
  simp only [encodeFrame, passes, unmet, Nat.not_lt] at h
  obtain ⟨body, hbody, _, hsize, _, _, hframe⟩ := h
  exact ⟨body, hbody, hsize, (Except.ok.inj hframe).symm⟩

private theorem encoded_bodies (h : List.Forall₂ (fun message frame => encodeFrame codec message = .ok frame) messages frames)
    (hcodec : ∀ message ∈ messages, ∀ body, codec.toVec message = some body → codec.fromSlice body = some message) :
    ∃ bodies, frames = bodies.map frameOf ∧ (∀ body ∈ bodies, body.length ≤ maxFrameBytes) ∧ AllDecode codec bodies ∧
      bodies.filterMap codec.fromSlice = messages := by
  induction h with
  | nil => exact ⟨[], rfl, forall_mem_nil _, forall_mem_nil _, rfl⟩
  | @cons message frame messages frames hencoded _ ih =>
    obtain ⟨body, hbody, hsize, rfl⟩ := encodeFrame_ok hencoded
    obtain ⟨bodies, rfl, hsizes, hdecode, hmessages⟩ :=
      ih fun other hmem => hcodec other (mem_cons_of_mem _ hmem)
    have hsome := hcodec message mem_cons_self body hbody
    refine ⟨body :: bodies, rfl, ?_, ?_, ?_⟩
    · exact forall_mem_cons.mpr ⟨hsize, hsizes⟩
    · exact forall_mem_cons.mpr ⟨⟨message, hsome⟩, hdecode⟩
    · rw [filterMap_cons_some hsome, hmessages]

/-- Encoded messages come back in order, whatever the cut, from the incremental decoder, which ends empty, and frame
by frame from the same pieces. -/
theorem frame_stream_round_trip {T : Type} (codec : JsonCodec T) (messages : List T) (frames chunks : List (List UInt8))
    (hencoded : List.Forall₂ (fun message frame => encodeFrame codec message = .ok frame) messages frames)
    (hcodec : ∀ message ∈ messages, ∀ body, codec.toVec message = some body → codec.fromSlice body = some message)
    (hcut : chunks.flatten = frames.flatten) :
    (∃ returned : List (List T), (pushAll codec .new chunks).1 = returned.map .ok ∧ returned.flatten = messages) ∧
      (pushAll codec .new chunks).2.buffer = [] ∧ Reads codec chunks messages := by
  obtain ⟨bodies, rfl, hsize, hdecode, rfl⟩ := encoded_bodies hencoded hcodec
  obtain ⟨returned, hanswers, hflat, hbuffer⟩ := pushAll_clean hsize hdecode hcut
  exact ⟨⟨returned, hanswers, hflat⟩, hbuffer, reads_stream hsize hdecode hcut⟩

/-- Two messages, cut inside both lengths and with an empty chunk. -/
theorem sample_frame_stream_round_trip :
    (∃ returned : List (List Bool), (pushAll sampleCodec .new
      [[0, 0], [], [0, 4, 116, 114, 117, 101, 0], [0, 0, 5, 102, 97, 108, 115, 101]]).1 = returned.map .ok ∧
        returned.flatten = [true, false]) ∧
      Reads sampleCodec [[0, 0], [], [0, 4, 116, 114, 117, 101, 0], [0, 0, 5, 102, 97, 108, 115, 101]] [true, false] := by
  have hencoded : List.Forall₂ (fun message frame => encodeFrame sampleCodec message = .ok frame) [true, false]
      [[0, 0, 0, 4, 116, 114, 117, 101], [0, 0, 0, 5, 102, 97, 108, 115, 101]] := .cons rfl (.cons rfl .nil)
  have hcodec : ∀ message ∈ [true, false], ∀ body, sampleCodec.toVec message = some body →
      sampleCodec.fromSlice body = some message := by
    intro message _ body hbody
    cases hbody
    cases message <;> rfl
  obtain ⟨hreturned, _, hreads⟩ := frame_stream_round_trip sampleCodec [true, false] _
    [[0, 0], [], [0, 4, 116, 114, 117, 101, 0], [0, 0, 5, 102, 97, 108, 115, 101]] hencoded hcodec rfl
  exact ⟨hreturned, hreads⟩

end Aworkit.Worker
