import Aworkit.Logic.Fallible

/-! Length-delimited frames: their encoding, the decoding of one, the incremental decoder, and the reading of a frame
from an input in pieces. -/
namespace Aworkit.Protocol
open Fallible

def maxFrameBytes : Nat := 1024 * 1024
def framePrefixBytes : Nat := 4

inductive ProtocolError where
  | frameTooLarge | truncatedFrame | trailingBytes | invalidJson
  deriving DecidableEq

/-- The JSON encoder and decoder at one message type; both may refuse. -/
structure JsonCodec (T : Type) where
  toVec : T → Option (List UInt8)
  fromSlice : List UInt8 → Option T

/-- `u32::to_be_bytes`. -/
def toBeBytes (n : Nat) : List UInt8 :=
  [UInt8.ofNat (n / 2 ^ 24), UInt8.ofNat (n / 2 ^ 16), UInt8.ofNat (n / 2 ^ 8), UInt8.ofNat n]

/-- `u32::from_be_bytes`. -/
def fromBeBytes : List UInt8 → Nat
  | [a, b, c, d] => a.toNat * 2 ^ 24 + b.toNat * 2 ^ 16 + c.toNat * 2 ^ 8 + d.toNat
  | _ => 0

/-- The body length that the first four bytes announce. -/
def bodyLength (frame : List UInt8) : Nat := fromBeBytes (frame.take framePrefixBytes)

section Codec
variable {T : Type} (codec : JsonCodec T)

def encodeFrame (message : T) : Except ProtocolError (List UInt8) := do
  let body ← require (codec.toVec message) .invalidJson
  refuseIf (decide (maxFrameBytes < body.length)) .frameTooLarge
  refuseIf (decide (2 ^ 32 ≤ body.length)) .frameTooLarge
  return toBeBytes body.length ++ body

def decodeFrame (frame : List UInt8) : Except ProtocolError T := do
  refuseIf (decide (frame.length < framePrefixBytes)) .truncatedFrame
  refuseIf (decide (maxFrameBytes < bodyLength frame)) .frameTooLarge
  refuseIf (decide (frame.length < framePrefixBytes + bodyLength frame)) .truncatedFrame
  refuseIf (decide (framePrefixBytes + bodyLength frame < frame.length)) .trailingBytes
  require (codec.fromSlice (frame.drop framePrefixBytes)) .invalidJson

/-- The bytes of a frame that is not complete yet. -/
structure FrameDecoder where
  buffer : List UInt8
  unfinished : framePrefixBytes ≤ buffer.length →
    bodyLength buffer ≤ maxFrameBytes ∧ buffer.length < framePrefixBytes + bodyLength buffer

namespace FrameDecoder

def new : FrameDecoder := ⟨[], fun h => absurd h (by decide)⟩

/-- `extend_from_slice` with what is missing up to a length. -/
def fill (buffer rest : List UInt8) (length : Nat) : List UInt8 × List UInt8 :=
  (buffer ++ rest.take (length - buffer.length), rest.drop (length - buffer.length))

theorem fill_length (buffer rest : List UInt8) (length : Nat) :
    (fill buffer rest length).1.length = buffer.length + min (length - buffer.length) rest.length := by
  rw [fill, List.length_append, List.length_take]

theorem fill_rest (buffer rest : List UInt8) (length : Nat) :
    (fill buffer rest length).2.length = rest.length - (length - buffer.length) := by
  rw [fill, List.length_drop]

theorem fill_bodyLength {buffer : List UInt8} (rest : List UInt8) (length : Nat) (h : framePrefixBytes ≤ buffer.length) :
    bodyLength (fill buffer rest length).1 = bodyLength buffer := by
  rw [bodyLength, fill, List.take_append_of_le_length h]
  rfl

variable (d : FrameDecoder)

/-- The buffer and the rest of the chunk once the length is read. -/
def afterPrefix (rest : List UInt8) : List UInt8 × List UInt8 := fill d.buffer rest framePrefixBytes

/-- The buffer is no longer than its frame, so the source's subtraction is safe. -/
theorem afterPrefix_le (rest : List UInt8) :
    (d.afterPrefix rest).1.length ≤ framePrefixBytes + bodyLength (d.afterPrefix rest).1 := by
  by_cases hbuffer : framePrefixBytes ≤ d.buffer.length
  · have hunfinished := d.unfinished hbuffer
    rw [afterPrefix, fill_bodyLength rest _ hbuffer, fill_length]
    omega
  · rw [afterPrefix, fill_length]
    omega

/-- Each round of the loop takes something off the chunk. -/
theorem afterPrefix_progress {rest : List UInt8} (hrest : rest ≠ [])
    (h : (d.afterPrefix rest).1.length < framePrefixBytes) : (d.afterPrefix rest).2.length < rest.length := by
  have hpos := List.length_pos_of_ne_nil hrest
  rw [afterPrefix, fill_length] at h
  rw [afterPrefix, fill_rest]
  omega

/-- The buffer and the rest of the chunk once the body is read. -/
def afterBody (rest : List UInt8) : List UInt8 × List UInt8 :=
  fill (d.afterPrefix rest).1 (d.afterPrefix rest).2 (framePrefixBytes + bodyLength (d.afterPrefix rest).1)

theorem afterBody_progress {rest : List UInt8} (hrest : rest ≠ []) : (d.afterBody rest).2.length < rest.length := by
  have hpos := List.length_pos_of_ne_nil hrest
  rw [afterBody, fill_rest]
  by_cases hbuffer : framePrefixBytes ≤ d.buffer.length
  · have hunfinished := d.unfinished hbuffer
    rw [afterPrefix, fill_bodyLength rest _ hbuffer, fill_length, fill_rest]
    omega
  · rw [afterPrefix, fill_rest]
    omega

theorem afterBody_bodyLength (h : framePrefixBytes ≤ (d.afterPrefix rest).1.length) :
    bodyLength (d.afterBody rest).1 = bodyLength (d.afterPrefix rest).1 :=
  fill_bodyLength _ _ h

theorem afterBody_unfinished (hread : framePrefixBytes ≤ (d.afterPrefix rest).1.length)
    (hsize : bodyLength (d.afterPrefix rest).1 ≤ maxFrameBytes)
    (hpart : (d.afterBody rest).1.length ≠ framePrefixBytes + bodyLength (d.afterPrefix rest).1) :
    bodyLength (d.afterBody rest).1 ≤ maxFrameBytes ∧
      (d.afterBody rest).1.length < framePrefixBytes + bodyLength (d.afterBody rest).1 := by
  have hle := d.afterPrefix_le rest
  rw [d.afterBody_bodyLength hread]
  rw [afterBody, fill_length] at hpart ⊢
  omega

/-- The loop of `push` over the rest of a chunk. -/
def pushLoop (d : FrameDecoder) (messages : List T) (rest : List UInt8) : Except ProtocolError (List T) × FrameDecoder :=
  if _ : rest = [] then (.ok messages, d)
  else
    let filled := d.afterPrefix rest
    if hshort : filled.1.length < framePrefixBytes then
      pushLoop ⟨filled.1, fun h => absurd h (Nat.not_le.mpr hshort)⟩ messages filled.2
    else if hlarge : maxFrameBytes < bodyLength filled.1 then (.error .frameTooLarge, new)
    else
      let whole := d.afterBody rest
      if hpart : whole.1.length ≠ framePrefixBytes + bodyLength filled.1 then
        pushLoop ⟨whole.1, fun _ => d.afterBody_unfinished (Nat.not_lt.mp hshort) (Nat.not_lt.mp hlarge) hpart⟩ messages
          whole.2
      else
        match decodeFrame codec whole.1 with
        | .error e => (.error e, new)
        | .ok message => pushLoop new (messages ++ [message]) whole.2
termination_by rest.length
decreasing_by
  · exact d.afterPrefix_progress ‹_› hshort
  · exact d.afterBody_progress ‹_›
  · exact d.afterBody_progress ‹_›

def push (chunk : List UInt8) : Except ProtocolError (List T) × FrameDecoder := pushLoop codec d [] chunk

end FrameDecoder

/-- Chunk after chunk into a decoder, continuing after each error. -/
def pushAll (d : FrameDecoder) : List (List UInt8) → List (Except ProtocolError (List T)) × FrameDecoder
  | [] => ([], d)
  | chunk :: rest =>
    ((d.push codec chunk).1 :: (pushAll (d.push codec chunk).2 rest).1, (pushAll (d.push codec chunk).2 rest).2)

end Codec

end Aworkit.Protocol
