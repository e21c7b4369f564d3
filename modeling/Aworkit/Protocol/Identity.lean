import Mathlib

/-! Identifiers, digests and fixed-width counters of core and worker. A digest carries the shape the hexadecimal
formatter gives it. -/
namespace Aworkit.Protocol
open List String

def u64Max : Nat := 2^64 - 1

def u32Max : Nat := 2^32 - 1

/-- Rust's `checked_add(1)` on a 64-bit counter. -/
def checkedSucc (n : Nat) : Option Nat :=
  if n < u64Max then some (n + 1) else none

/-- Rust's `saturating_add` at an explicit width. -/
def saturatingAdd (limit a b : Nat) : Nat := min (a + b) limit

theorem saturatingAdd_of_le (h : a + b ≤ limit) : saturatingAdd limit a b = a + b :=
  Nat.min_eq_left h

def stableIdChar (c : Char) : Bool := c.isAlphanum || c == '_' || c == '-' || c == '.'

variable (value : String)

/-- Identifier texts: 1 to 128 bytes of ASCII letters, digits, `_`, `-` or `.`. -/
def stableIdText : Bool :=
  !value.isEmpty && decide (value.utf8ByteSize ≤ 128) && value.toList.all stableIdChar

/-- A validated, opaque identifier; an invalid text has none. -/
@[ext] structure StableId where
  val : String
  valid : stableIdText val = true
  deriving DecidableEq

def StableId.parse : Option StableId :=
  if h : stableIdText value = true then some ⟨value, h⟩ else none

theorem StableId.parse_val (id : StableId) : StableId.parse id.val = some id := by
  simp [StableId.parse, id.valid]

theorem StableId.val_of_parse {value : String} {id : StableId} (h : StableId.parse value = some id) : id.val = value := by
  unfold StableId.parse at h
  split at h
  · rw [← Option.some.inj h]
  · cases h

theorem StableId.val_injective : Function.Injective StableId.val := fun _ _ => StableId.ext

/-- Identifiers never contain the separator of the hashed texts. -/
theorem StableId.colon_not_mem (id : StableId) : ':' ∉ id.val.toList := by
  intro h
  have hv := id.valid
  simp only [stableIdText, Bool.and_eq_true, all_eq_true] at hv
  exact absurd (hv.2 ':' h) (by decide)

/-- Lower-case hexadecimal digits, the alphabet of the `{:x}` formatter. -/
def lowerHexChar (c : Char) : Bool := c.isDigit || (decide ('a' ≤ c) && decide (c ≤ 'f'))

/-- The formatted SHA-256 of some bytes: 64 lower-case hexadecimal digits. -/
structure Sha256Digest where
  text : String
  length_eq : text.length = 64
  hex : text.toList.all lowerHexChar = true

private theorem lowerHexChar_stable (h : lowerHexChar c = true) : stableIdChar c = true := by
  simp only [lowerHexChar, Bool.or_eq_true, Bool.and_eq_true, decide_eq_true_eq] at h
  simp only [stableIdChar, Char.isAlphanum, Char.isAlpha, Char.isLower, Bool.or_eq_true, Bool.and_eq_true,
    decide_eq_true_eq]
  rcases h with h | ⟨hl, hu⟩
  · exact .inl (.inl (.inl (.inr h)))
  · exact .inl (.inl (.inl (.inl (.inr ⟨hl, UInt32.le_trans hu (by decide)⟩))))

private theorem lowerHexChar_utf8Size {c : Char} (h : lowerHexChar c = true) : c.utf8Size = 1 := by
  have hrange : c.val ≤ 127 := by
    simp only [lowerHexChar, Char.isDigit, Bool.or_eq_true, Bool.and_eq_true, decide_eq_true_eq] at h
    rcases h with ⟨_, hu⟩ | ⟨_, hu⟩
    · exact UInt32.le_trans hu (by decide)
    · exact UInt32.le_trans hu (by decide)
  exact if_pos hrange

private theorem utf8Len_hex (hex : List Char) (h : hex.all lowerHexChar = true) : utf8Len hex = hex.length := by
  induction hex with
  | nil => rfl
  | cons c rest ih =>
    simp only [all_cons, Bool.and_eq_true] at h
    rw [utf8Len_cons, ih h.2, lowerHexChar_utf8Size h.1, length_cons]

/-- Hexadecimal digits behind an identifier make one, up to its length bound. -/
theorem stableIdText_hex (head : String) (hex : List Char) (hhead : stableIdText head = true)
    (hhex : hex.all lowerHexChar = true) (hlength : head.utf8ByteSize + hex.length ≤ 128) :
    stableIdText (head ++ ofList hex) = true := by
  simp only [stableIdText, Bool.and_eq_true, Bool.not_eq_true', decide_eq_true_eq, all_eq_true] at hhead ⊢
  refine ⟨⟨?_, ?_⟩, ?_⟩
  · simpa using fun h => absurd h (by simpa using hhead.1.1)
  · rw [utf8ByteSize_append, utf8ByteSize_ofList, utf8Len_hex hex hhex]
    exact hlength
  · intro c hc
    rw [toList_append, toList_ofList] at hc
    rcases mem_append.mp hc with hc | hc
    · exact hhead.2 c hc
    · exact lowerHexChar_stable (all_eq_true.mp hhex c hc)

theorem stableIdText_digest (head : String) (digest : Sha256Digest) (count : Nat) (hhead : stableIdText head = true)
    (hlength : head.utf8ByteSize + count ≤ 128) :
    stableIdText (head ++ ofList (digest.text.toList.take count)) = true := by
  apply stableIdText_hex head _ hhead
  · rw [all_eq_true]
    intro c hc
    exact all_eq_true.mp digest.hex c (mem_of_mem_take hc)
  · have htake := length_take_le count digest.text.toList
    omega

theorem stableIdText_number {head : String} (hhead : stableIdText head = true) (hsize : head.utf8ByteSize ≤ 100)
    (hn : n < 10 ^ 20) : stableIdText (head ++ toString n) = true := by
  have hlength : (toString n).toList.length ≤ 20 := by
    rw [length_toList]
    exact Nat.repr_length n 20 (by decide) hn
  have hhex : (toString n).toList.all lowerHexChar = true := by
    rw [all_eq_true]
    intro c hc
    have hdigit : c ∈ Nat.toDigits 10 n := by simpa [Nat.toString_eq_repr, Nat.repr] using hc
    rw [lowerHexChar, Nat.isDigit_of_mem_toDigits (by decide) (by decide) hdigit, Bool.true_or]
  have htext := stableIdText_hex head (toString n).toList hhead hhex (by omega)
  rwa [ofList_toList] at htext

/-- An identifier from its text, `unnamed` when the text has another shape. -/
def StableId.ofText (text : String) : StableId := (StableId.parse text).getD ⟨"unnamed", by decide⟩

/-- A digest from its text, all zeros when that has another shape. -/
def Sha256Digest.ofText (text : String) : Sha256Digest :=
  if h : text.length = 64 ∧ text.toList.all lowerHexChar = true then ⟨text, h.1, h.2⟩
  else ⟨"0000000000000000000000000000000000000000000000000000000000000000", by decide, by decide⟩

/-- ASCII hexadecimal digits of either case. -/
def asciiHexChar (c : Char) : Bool :=
  c.isDigit || (decide ('a' ≤ c) && decide (c ≤ 'f')) || (decide ('A' ≤ c) && decide (c ≤ 'F'))

/-- The hash syntax both processes check: 64 hexadecimal digits of either case. -/
def isSha256 : Bool :=
  decide (value.utf8ByteSize = 64) && value.toList.all asciiHexChar

/-- The formatter writes what both processes accept as a hash. -/
theorem Sha256Digest.isSha256_text (d : Sha256Digest) : isSha256 d.text = true := by
  have hsize : d.text.utf8ByteSize = 64 := by
    rw [← ofList_toList (s := d.text), utf8ByteSize_ofList, utf8Len_hex _ d.hex, length_toList,
      d.length_eq]
  have hhex : d.text.toList.all asciiHexChar = true := by
    rw [all_eq_true]
    intro c hc
    rw [asciiHexChar, ← lowerHexChar, all_eq_true.mp d.hex c hc, Bool.true_or]
  rw [isSha256, hsize, hhex, Bool.and_true]
  exact decide_eq_true rfl

theorem Sha256Digest.text_injective : Function.Injective Sha256Digest.text := by
  rintro ⟨text, _, _⟩ ⟨_, _, _⟩ rfl
  rfl

theorem Sha256Digest.colon_not_mem (d : Sha256Digest) : ':' ∉ d.text.toList := by
  intro h
  exact absurd (all_eq_true.mp d.hex ':' h) (by decide)

/-- The Unicode `White_Space` property, which Rust's `trim` strips. -/
def whiteSpaceChar (c : Char) : Bool :=
  let n := c.toNat
  (decide (9 ≤ n) && decide (n ≤ 13)) || n == 0x20 || n == 0x85 || n == 0xA0 || n == 0x1680 ||
    (decide (0x2000 ≤ n) && decide (n ≤ 0x200A)) || n == 0x2028 || n == 0x2029 || n == 0x202F ||
    n == 0x205F || n == 0x3000

/-- The Unicode `Cc` category, Rust's `char::is_control`. -/
def controlChar (c : Char) : Bool :=
  let n := c.toNat
  decide (n < 0x20) || (decide (0x7F ≤ n) && decide (n < 0xA0))

/-- `value.trim().is_empty()`: nothing but white space. -/
def trimIsEmpty : Bool := value.toList.all whiteSpaceChar

/-- Largest generation that every supported runtime represents exactly. -/
def maxSafeWireInteger : Nat := 9007199254740991

end Aworkit.Protocol
