import Aworkit.Protocol.Frame
import Aworkit.Stream.Scanner

/-! The incremental decoder byte by byte, and what it delivers of a stream of frames for every cut into chunks. -/
namespace Aworkit.Protocol
open Fallible Scanner List Nat

variable {T : Type} {codec : JsonCodec T}
  {bodies : List (List UInt8)} {messages : List T} {body buffer frame left taken : List UInt8}

/-- What the decoder makes of the bytes it holds. -/
def judge (codec : JsonCodec T) (buffer : List UInt8) : Verdict ProtocolError T :=
  if buffer.length < framePrefixBytes then .waiting
  else if maxFrameBytes < bodyLength buffer then .failed .frameTooLarge
  else if buffer.length ≠ framePrefixBytes + bodyLength buffer then .waiting
  else
    match decodeFrame codec buffer with
    | .error e => .failed e
    | .ok message => .done message

theorem bodyLength_front {front : List UInt8} (h : front <+: frame) (hread : framePrefixBytes ≤ front.length) :
    bodyLength front = bodyLength frame := by
  obtain ⟨back, rfl⟩ := h
  rw [bodyLength, bodyLength, take_append_of_le_length hread]

theorem judge_short (h : buffer.length < framePrefixBytes) : judge codec buffer = .waiting := by
  rw [judge, if_pos h]

theorem judge_part (hread : framePrefixBytes ≤ buffer.length) (hsize : bodyLength buffer ≤ maxFrameBytes)
    (hpart : buffer.length ≠ framePrefixBytes + bodyLength buffer) : judge codec buffer = .waiting := by
  rw [judge, if_neg (not_lt.mpr hread), if_neg (not_lt.mpr hsize), if_pos hpart]

theorem judge_large (hread : framePrefixBytes ≤ buffer.length)
    (hlarge : maxFrameBytes < bodyLength buffer) : judge codec buffer = .failed .frameTooLarge := by
  rw [judge, if_neg (not_lt.mpr hread), if_pos hlarge]

theorem judge_whole (hsize : bodyLength buffer ≤ maxFrameBytes)
    (hwhole : buffer.length = framePrefixBytes + bodyLength buffer) : judge codec buffer =
      match decodeFrame codec buffer with
      | .error e => .failed e
      | .ok message => .done message := by
  rw [judge, if_neg (by omega), if_neg (not_lt.mpr hsize), if_neg (not_not.mpr hwhole)]

private theorem waits_front {held : List UInt8} (hfront : held <+: frame) (hlength : held.length < frame.length)
    (hframe : framePrefixBytes < frame.length →
      bodyLength frame ≤ maxFrameBytes ∧ frame.length ≤ framePrefixBytes + bodyLength frame) :
    Waits (judge codec) held := by
  intro front hprior _
  have hle := hprior.length_le
  by_cases hread : framePrefixBytes ≤ front.length
  · have hbody := bodyLength_front (hprior.trans hfront) hread
    obtain ⟨hsize, hbound⟩ := hframe (by omega)
    refine judge_part hread (by omega) (by omega)
  · exact judge_short (not_le.mp hread)

namespace FrameDecoder

variable (d : FrameDecoder)

theorem waits : Waits (judge codec) d.buffer := by
  intro front hfront _
  have hle := hfront.length_le
  by_cases hread : framePrefixBytes ≤ front.length
  · have hbody := bodyLength_front hfront hread
    obtain ⟨hsize, hbound⟩ := d.unfinished (by omega)
    exact judge_part hread (by omega) (by omega)
  · exact judge_short (not_le.mp hread)

theorem fill_split (buffer rest : List UInt8) (length : Nat) :
    ∃ taken, (fill buffer rest length).1 = buffer ++ taken ∧ rest = taken ++ (fill buffer rest length).2 :=
  ⟨_, rfl, (take_append_drop _ rest).symm⟩

section
variable (hframe : frame = buffer ++ taken) (htaken : taken ≠ [])
  (hsize : framePrefixBytes < frame.length → bodyLength frame ≤ maxFrameBytes ∧ frame.length ≤ framePrefixBytes + bodyLength frame)
include hframe htaken hsize

/-- Of the bytes that complete a frame only the last one decides. -/
theorem waits_last :
    ∃ front last, taken = front ++ [last] ∧ frame = buffer ++ front ++ [last] ∧ Waits (judge codec) (buffer ++ front) := by
  obtain ⟨front, last, rfl⟩ := (eq_nil_or_concat' taken).resolve_left htaken
  rw [← append_assoc] at hframe
  refine ⟨front, last, rfl, hframe, waits_front ⟨[last], hframe.symm⟩ ?_ hsize⟩
  have hlength : (buffer ++ front ++ [last]).length = (buffer ++ front).length + 1 := length_append
  rw [hframe, hlength]
  exact lt_succ_self _

theorem scan_whole :
    scan (judge codec) buffer messages (taken ++ left) =
      match judge codec frame with
      | .waiting => scan (judge codec) frame messages left
      | .failed e => (.error e, [])
      | .done message => scan (judge codec) [] (messages ++ [message]) left := by
  obtain ⟨front, last, rfl, hlast, hwaits⟩ := @waits_last T codec _ _ _ hframe htaken hsize
  rw [append_assoc, singleton_append, scan_decides left hwaits, ← hlast]
  cases judge codec frame <;> rfl

end

theorem scan_pending {rest : List UInt8} (d : FrameDecoder)
    (hbuffer : d.buffer = buffer ++ taken) (hrest : rest = taken ++ left) :
    scan (judge codec) buffer messages rest = scan (judge codec) d.buffer messages left := by
  have hwaits := @waits T codec d
  rw [hbuffer] at hwaits ⊢
  rw [hrest, scan_waits left hwaits]

/-- A frame announced as too large was announced in this chunk. -/
theorem buffer_short (hlarge : maxFrameBytes < bodyLength (d.afterPrefix rest).1) :
    d.buffer.length < framePrefixBytes := by
  by_contra hread
  have hunfinished := d.unfinished (not_lt.mp hread)
  rw [afterPrefix, fill_bodyLength rest _ (not_lt.mp hread)] at hlarge
  omega

theorem afterBody_split (rest : List UInt8) :
    ∃ taken, (d.afterBody rest).1 = d.buffer ++ taken ∧ rest = taken ++ (d.afterBody rest).2 := by
  obtain ⟨first, hfirst, hrest⟩ := fill_split d.buffer rest framePrefixBytes
  obtain ⟨second, hsecond, hleft⟩ := fill_split (d.afterPrefix rest).1 (d.afterPrefix rest).2
    (framePrefixBytes + bodyLength (d.afterPrefix rest).1)
  refine ⟨first ++ second, ?_, ?_⟩
  · rw [afterBody, hsecond, afterPrefix, hfirst, append_assoc]
  · rw [append_assoc, afterBody, ← hleft]
    exact hrest

/-- A round that completes the buffer took something and holds the frame. -/
theorem afterBody_complete (hrest : rest ≠ []) (hread : framePrefixBytes ≤ (d.afterPrefix rest).1.length)
    (hlength : (d.afterBody rest).1.length = framePrefixBytes + bodyLength (d.afterPrefix rest).1)
    (hsplit : rest = taken ++ (d.afterBody rest).2) :
    taken ≠ [] ∧ (d.afterBody rest).1.length = framePrefixBytes + bodyLength (d.afterBody rest).1 := by
  have hprogress := d.afterBody_progress hrest
  refine ⟨?_, by rw [d.afterBody_bodyLength hread, hlength]⟩
  rintro rfl
  rw [nil_append] at hsplit
  rw [← hsplit] at hprogress
  exact lt_irrefl _ hprogress

/-- The decoder is the machine that looks at its bytes one by one. -/
theorem pushLoop_scan (messages : List T) (rest : List UInt8) :
    (pushLoop codec d messages rest).1 = (scan (judge codec) d.buffer messages rest).1 ∧
      (pushLoop codec d messages rest).2.buffer = (scan (judge codec) d.buffer messages rest).2 := by
  fun_induction pushLoop codec d messages rest with
  | case1 d messages => exact ⟨rfl, rfl⟩
  | case2 d messages rest hrest filled hshort ih =>
    obtain ⟨taken, htaken, hsplit⟩ := fill_split d.buffer rest framePrefixBytes
    rw [scan_pending ⟨filled.1, fun h => absurd h (not_le.mpr hshort)⟩ htaken hsplit]
    exact ih
  | case3 d messages rest hrest filled hread hlarge =>
    obtain ⟨taken, htaken, hsplit⟩ := fill_split d.buffer rest framePrefixBytes
    change filled.1 = _ at htaken
    have hbuffer := d.buffer_short hlarge
    have hlength : filled.1.length = framePrefixBytes := by
      have hfill := fill_length d.buffer rest framePrefixBytes
      change filled.1.length = _ at hfill
      omega
    have hnew : taken ≠ [] := by
      rintro rfl
      rw [htaken, append_nil] at hlength
      omega
    rw [hsplit, scan_whole htaken hnew fun h => absurd h (not_lt.mpr hlength.le), judge_large hlength.ge hlarge]
    exact ⟨rfl, rfl⟩
  | case4 d messages rest hrest filled hread hsize whole hpart ih =>
    obtain ⟨taken, htaken, hsplit⟩ := d.afterBody_split rest
    have hunfinished := d.afterBody_unfinished (not_lt.mp hread) (not_lt.mp hsize) hpart
    rw [scan_pending ⟨whole.1, fun _ => hunfinished⟩ htaken hsplit]
    exact ih
  | case5 d messages rest hrest filled hread hsize whole hwhole e hdecode =>
    obtain ⟨taken, htaken, hsplit⟩ := d.afterBody_split rest
    obtain ⟨hnew, hlength⟩ := d.afterBody_complete hrest (not_lt.mp hread) (not_not.mp hwhole) hsplit
    have hbody := (d.afterBody_bodyLength (not_lt.mp hread)).trans_le (not_lt.mp hsize)
    rw [hsplit, scan_whole htaken hnew fun _ => ⟨hbody, hlength.le⟩, judge_whole hbody hlength, hdecode]
    exact ⟨rfl, rfl⟩
  | case6 d messages rest hrest filled hread hsize whole hwhole message hdecode ih =>
    obtain ⟨taken, htaken, hsplit⟩ := d.afterBody_split rest
    obtain ⟨hnew, hlength⟩ := d.afterBody_complete hrest (not_lt.mp hread) (not_not.mp hwhole) hsplit
    have hbody := (d.afterBody_bodyLength (not_lt.mp hread)).trans_le (not_lt.mp hsize)
    rw [hsplit, scan_whole htaken hnew fun _ => ⟨hbody, hlength.le⟩, judge_whole hbody hlength, hdecode]
    exact ih

end FrameDecoder

theorem pushAll_feed (d : FrameDecoder) (chunks : List (List UInt8)) :
    (pushAll codec d chunks).1 = (feed (judge codec) d.buffer chunks).1 ∧
      (pushAll codec d chunks).2.buffer = (feed (judge codec) d.buffer chunks).2 := by
  induction chunks generalizing d with
  | nil => exact ⟨rfl, rfl⟩
  | cons chunk rest ih =>
    obtain ⟨hanswer, hbuffer⟩ := @FrameDecoder.pushLoop_scan T codec d [] chunk
    obtain ⟨hanswers, hlast⟩ := ih (d.push codec chunk).2
    rw [pushAll, feed, ← hanswer, ← hbuffer]
    exact ⟨congrArg _ hanswers, hlast⟩

theorem fromBeBytes_toBeBytes (h : n < 2 ^ 32) : fromBeBytes (toBeBytes n) = n := by
  simp only [toBeBytes, fromBeBytes, UInt8.toNat_ofNat']
  omega

theorem toBeBytes_fromBeBytes {bytes : List UInt8} (h : bytes.length = framePrefixBytes) :
    toBeBytes (fromBeBytes bytes) = bytes := by
  match bytes, h with
  | [a, b, c, d], _ =>
    have ha := a.toNat_lt
    have hb := b.toNat_lt
    have hc := c.toNat_lt
    have hd := d.toNat_lt
    simp only [toBeBytes, fromBeBytes, cons.injEq, ← UInt8.toNat_inj, UInt8.toNat_ofNat', and_true]
    omega

def frameOf (body : List UInt8) : List UInt8 := toBeBytes body.length ++ body

def streamOf (bodies : List (List UInt8)) : List UInt8 := (bodies.map frameOf).flatten

theorem frameOf_length (body : List UInt8) : (frameOf body).length = framePrefixBytes + body.length := by
  rw [frameOf, length_append]
  rfl

theorem frameOf_bodyLength (h : body.length ≤ maxFrameBytes) : bodyLength (frameOf body) = body.length := by
  have hsmall : body.length < 2 ^ 32 := lt_of_le_of_lt h (by decide)
  have htake : (frameOf body).take framePrefixBytes = toBeBytes body.length := take_left' rfl
  rw [bodyLength, htake, fromBeBytes_toBeBytes hsmall]

theorem decodeFrame_frameOf (h : body.length ≤ maxFrameBytes) :
    decodeFrame codec (frameOf body) = require (codec.fromSlice body) .invalidJson := by
  have hdrop : (frameOf body).drop framePrefixBytes = body := drop_left' rfl
  rw [decodeFrame, frameOf_bodyLength h, frameOf_length, hdrop]
  simp [refuseIf, not_lt.mpr h, ok_bind]

def verdictOf (codec : JsonCodec T) (body : List UInt8) : Verdict ProtocolError T :=
  match codec.fromSlice body with
  | none => .failed .invalidJson
  | some message => .done message

private theorem judge_frameOf (h : body.length ≤ maxFrameBytes) : judge codec (frameOf body) = verdictOf codec body := by
  have hbody := frameOf_bodyLength h
  rw [judge_whole (hbody.trans_le h) (by rw [hbody, frameOf_length]), decodeFrame_frameOf h, verdictOf]
  cases codec.fromSlice body <;> rfl

theorem frame_frameOf (h : body.length ≤ maxFrameBytes) :
    Frame (judge codec) (frameOf body) (verdictOf codec body) := by
  have hbody := frameOf_bodyLength h
  have hlength := frameOf_length body
  have hne : frameOf body ≠ [] := by
    intro hnil
    rw [hnil] at hlength
    rw [length_nil, framePrefixBytes] at hlength
    omega
  obtain ⟨front, last, hlast, _, hwaits⟩ := @FrameDecoder.waits_last T codec [] (frameOf body) (frameOf body) rfl hne
    fun _ => ⟨hbody.trans_le h, by rw [hbody, hlength]⟩
  exact ⟨front, last, hlast, hwaits, judge_frameOf h⟩

theorem frame_done (h : Frame (judge codec) items (.done message)) :
    ∃ body, items = frameOf body ∧ body.length ≤ maxFrameBytes ∧ codec.fromSlice body = some message := by
  obtain ⟨_, _, _, _, hjudge⟩ := h
  unfold judge at hjudge
  split at hjudge
  · cases hjudge
  split at hjudge
  · cases hjudge
  split at hjudge
  · cases hjudge
  next hread hlarge hwhole =>
    have hlength := not_not.mp hwhole
    have hdrop : (items.drop framePrefixBytes).length = bodyLength items := by
      rw [length_drop]
      omega
    have htake : toBeBytes (bodyLength items) = items.take framePrefixBytes := by
      apply toBeBytes_fromBeBytes
      rw [length_take]
      omega
    have hframe : items = frameOf (items.drop framePrefixBytes) := by
      rw [frameOf, hdrop, htake, take_append_drop]
    have hsize : (items.drop framePrefixBytes).length ≤ maxFrameBytes := hdrop.trans_le (not_lt.mp hlarge)
    refine ⟨items.drop framePrefixBytes, hframe, hsize, ?_⟩
    rw [hframe, decodeFrame_frameOf hsize] at hjudge
    cases hfound : codec.fromSlice (items.drop framePrefixBytes) with
    | none =>
      rw [hfound] at hjudge
      cases hjudge
    | some found =>
      rw [hfound] at hjudge
      cases hjudge
      rfl

def AllDecode (codec : JsonCodec T) (bodies : List (List UInt8)) : Prop :=
  ∀ body ∈ bodies, ∃ message, codec.fromSlice body = some message

section
variable (hsize : ∀ body ∈ bodies, body.length ≤ maxFrameBytes) (hdecode : AllDecode codec bodies)
include hsize hdecode

theorem frames_done :
    List.Forall₂ (fun frame message => Frame (judge codec) frame (.done message)) (bodies.map frameOf)
      (bodies.filterMap codec.fromSlice) := by
  induction bodies with
  | nil => exact .nil
  | cons body rest ih =>
    obtain ⟨message, hmessage⟩ := hdecode body mem_cons_self
    have hframe := @frame_frameOf T codec body (hsize body mem_cons_self)
    rw [verdictOf, hmessage] at hframe
    rw [map_cons, filterMap_cons_some hmessage]
    exact .cons hframe (ih (fun b hb => hsize b (mem_cons_of_mem _ hb)) fun b hb => hdecode b (mem_cons_of_mem _ hb))

/-- A stream whose frames all decode is delivered whole, however it is cut. -/
theorem pushAll_clean {chunks : List (List UInt8)} (hcut : chunks.flatten = streamOf bodies) :
    ∃ returned : List (List T), (pushAll codec .new chunks).1 = returned.map .ok ∧
      returned.flatten = bodies.filterMap codec.fromSlice ∧ (pushAll codec .new chunks).2.buffer = [] := by
  have hscan : scan (judge codec) [] [] chunks.flatten = (.ok (bodies.filterMap codec.fromSlice), []) := by
    rw [hcut, streamOf, scan_frames (frames_done hsize hdecode), nil_append]
  obtain ⟨returned, hfeed, hflat⟩ := feed_cut chunks hscan
  obtain ⟨hanswers, hbuffer⟩ := @pushAll_feed T codec .new chunks
  refine ⟨returned, ?_, hflat, ?_⟩
  · rw [hanswers]
    exact congrArg Prod.fst hfeed
  · rw [hbuffer]
    exact congrArg Prod.snd hfeed

end

end Aworkit.Protocol
