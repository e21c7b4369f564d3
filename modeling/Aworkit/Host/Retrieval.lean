import Aworkit.Logic.Fallible
import Aworkit.Protocol.Json

/-! Reading a stored original page by page (`context_compression/retrieval.rs`, the `read` operation). A text lists
its characters; offsets count UTF-8 bytes. -/
namespace Aworkit.Host.Retrieval
open Protocol Fallible

variable {pointer : Option String} {original selected : Value}

structure Request where
  (reference pointer : Option String)
  (offset limit : Option Nat)

/-- The result of a read; the page ends before the byte `stop`. -/
structure Page where
  (reference pointer : Option String)
  (start stop totalBytes : Nat)
  text : List Char
  nextOffset : Option Nat

/-- What `serde_json` writes: the text of a value, and the bytes of a result. -/
structure Rendering where
  text : Value → String
  size : Page → Nat

def byteSize (text : List Char) : Nat := (text.map Char.utf8Size).sum

/-- The text from a byte on; none unless a character begins or the text ends there. -/
def fromByte : List Char → Nat → Option (List Char)
  | [], start => if start = 0 then some [] else none
  | c :: rest, start =>
    if start = 0 then some (c :: rest)
    else if c.utf8Size ≤ start then fromByte rest (start - c.utf8Size) else none

def escapedCharBytes (c : Char) : Nat :=
  if c = '"' ∨ c = '\\' ∨ c = '\n' ∨ c = '\r' ∨ c = '\t' ∨ c.toNat = 8 ∨ c.toNat = 12 then 2
  else if c.toNat < 32 then 6 else c.utf8Size

/-- The characters before the position that `escaped_prefix` returns. -/
def escapedPrefix (budget : Nat) : Nat → List Char → List Char
  | _, [] => []
  | used, c :: rest =>
    if budget < used + escapedCharBytes c then [] else c :: escapedPrefix budget (used + escapedCharBytes c) rest

variable (r : Rendering)

def render (value : Value) : List Char := (value.asStr.getD (r.text value)).toList

def select (original : Value) : Option String → Except String Value
  | some path => require (original.pointer path) "JSON pointer not found in original"
  | none => .ok original

def pageLimit (limit : Option Nat) (maximumBytes : Nat) : Nat := min (limit.getD 16384) maximumBytes

def retrieve (original : Value) (request : Request) (maximumBytes : Nat) : Except String Page := do
  let selected ← select original request.pointer
  let text := render r selected
  let limit := pageLimit request.limit maximumBytes
  refuseIf (decide (limit < 256)) "Context retrieval needs at least 256 output bytes"
  let start := request.offset.getD 0
  let rest ← require (fromByte text start) "Offset must be an original UTF-8 byte boundary"
  let total := byteSize text
  let page stop taken nextOffset : Page :=
    ⟨request.reference, request.pointer, start, stop, total, taken, nextOffset⟩
  let header := r.size (page total [] (some total)) + 16
  let taken := escapedPrefix (limit - header) 0 rest
  let stop := start + byteSize taken
  let result := page stop taken (if stop < total then some stop else none)
  refuseIf (decide (limit < r.size result) || (stop == start && decide (start < total)))
    "Increase retrieval page size to fit metadata and one character"
  return result

inductive Ending where
  | reading
  | failed (error : String)
  | complete

/-- Reads on at `nextOffset` for at most the given number of pages, each fetched in its own way. -/
def follow : Nat → (Nat → Nat → Except String Page) → Nat → List Page × Ending
  | 0, _, _ => ([], .reading)
  | pages + 1, fetch, offset =>
    match fetch 0 offset with
    | .error e => ([], .failed e)
    | .ok page =>
      match page.nextOffset with
      | none => ([page], .complete)
      | some next => (follow pages (fun index => fetch (index + 1)) next).map (page :: ·) id

/-- A reader who asks for the page of an index, with limits of its own. -/
def fetch (original : Value) (reference pointer : Option String) (asks : Nat → Option Nat × Nat) (index offset : Nat) :
    Except String Page :=
  retrieve r original ⟨reference, pointer, some offset, (asks index).1⟩ (asks index).2

private theorem fromByte_append (before rest : List Char) : fromByte (before ++ rest) (byteSize before) = some rest := by
  induction before with
  | nil => cases rest <;> rfl
  | cons c before ih =>
    have hsize : byteSize (c :: before) = c.utf8Size + byteSize before := List.sum_cons
    have hpos := c.utf8Size_pos
    rw [List.cons_append, fromByte, if_neg (by omega), if_pos (by omega), hsize, Nat.add_sub_cancel_left]
    exact ih

private theorem escapedPrefix_prefix (budget used : Nat) (text : List Char) : escapedPrefix budget used text <+: text := by
  induction text generalizing used with
  | nil => exact List.nil_prefix
  | cons c rest ih =>
    unfold escapedPrefix
    split
    · exact List.nil_prefix
    · exact (List.prefix_cons_inj c).mpr (ih _)

theorem byteSize_append (first second : List Char) : byteSize (first ++ second) = byteSize first + byteSize second := by
  simp [byteSize]

private theorem eq_nil_of_byteSize {text : List Char} (h : byteSize text = 0) : text = [] := by
  cases text with
  | nil => rfl
  | cons c rest =>
    have hpos := c.utf8Size_pos
    have hsize : byteSize (c :: rest) = c.utf8Size + byteSize rest := List.sum_cons
    omega

/-- A page is a run of whole characters of the text, of the given encoded size at most. -/
structure Cut (text : List Char) (limit : Nat) (page : Page) : Prop where
  sized : r.size page ≤ limit
  placed : ∃ before after, text = before ++ page.text ++ after ∧ page.start = byteSize before ∧
    page.stop = byteSize (before ++ page.text)

/-- A page read at the end of `before` goes on there, and is the last or not empty. -/
theorem retrieve_ok {reference : Option String} {limit : Option Nat}
    {maximumBytes : Nat} {page : Page} {before rest : List Char} (hselected : select original pointer = .ok selected)
    (htext : render r selected = before ++ rest)
    (h : retrieve r original ⟨reference, pointer, some (byteSize before), limit⟩ maximumBytes = .ok page) :
    Cut r (before ++ rest) (pageLimit limit maximumBytes) page ∧ ∃ after, rest = page.text ++ after ∧
      (page.nextOffset = none ∧ after = [] ∨
        page.nextOffset = some (byteSize (before ++ page.text)) ∧ byteSize after < byteSize rest) := by
  simp only [retrieve, hselected, htext, Option.getD_some, fromByte_append, require, ok_bind, passes, unmet] at h
  obtain ⟨_, _, _, ⟨hsized, hmoves⟩, hpage⟩ := h
  cases hpage
  obtain ⟨after, hafter⟩ := escapedPrefix_prefix (pageLimit limit maximumBytes -
    (r.size ⟨reference, pointer, byteSize before, byteSize (before ++ rest), byteSize (before ++ rest), [],
      some (byteSize (before ++ rest))⟩ + 16)) 0 rest
  generalize escapedPrefix _ 0 rest = taken at hsized hmoves hafter ⊢
  subst hafter
  refine ⟨⟨Nat.le_of_not_lt hsized, before, after, by simp, rfl, (byteSize_append ..).symm⟩, after, rfl, ?_⟩
  simp only [byteSize_append] at hmoves ⊢
  split
  case isTrue hmore =>
    refine .inr ⟨rfl, ?_⟩
    simp only [Bool.and_eq_false_iff, beq_eq_false_iff_ne, decide_eq_false_iff_not] at hmoves
    omega
  case isFalse hlast => exact .inl ⟨rfl, eq_nil_of_byteSize (by omega)⟩

/-- What a reader has who stopped: cut pages and, unless one failed, the whole text. -/
def Covered (rest text : List Char) (asks : Nat → Option Nat × Nat) (reading : List Page × Ending) : Prop :=
  reading.2 ≠ .reading ∧
    (∀ index page, reading.1[index]? = some page → Cut r text (pageLimit (asks index).1 (asks index).2) page) ∧
    (reading.2 = .complete → (reading.1.map Page.text).flatten = rest)

private theorem follow_covered (reference : Option String)
    (hselected : select original pointer = .ok selected) (pages : Nat) (asks : Nat → Option Nat × Nat)
    (before rest : List Char) (htext : render r selected = before ++ rest) (hpages : byteSize rest < pages) :
    Covered r rest (before ++ rest) asks (follow pages (fetch r original reference pointer asks) (byteSize before)) := by
  induction pages generalizing asks before rest with
  | zero => omega
  | succ pages ih =>
    unfold follow
    cases hpage : fetch r original reference pointer asks 0 (byteSize before) with
    | error e => exact ⟨by simp, by simp, by simp⟩
    | ok page =>
      obtain ⟨hcut, after, rfl, ⟨hnext, rfl⟩ | ⟨hnext, hless⟩⟩ := retrieve_ok r hselected htext hpage
      · simp only [hnext]
        refine ⟨by simp, fun index found hfound => ?_, fun _ => by simp⟩
        obtain ⟨rfl, rfl⟩ : index = 0 ∧ page = found := by simpa [List.getElem?_singleton] using hfound
        exact hcut
      · simp only [hnext]
        rw [← List.append_assoc] at htext hcut ⊢
        obtain ⟨hended, hcuts, hwhole⟩ := ih (fun index => asks (index + 1)) _ after htext (by omega)
        refine ⟨hended, fun index found hfound => ?_, fun hcomplete => congrArg (page.text ++ ·) (hwhole hcomplete)⟩
        cases index with
        | zero =>
          cases hfound
          exact hcut
        | succ index => exact hcuts index found hfound

/-- Following `nextOffset` ends within one page more than the text has bytes. Every page is cut between characters and
within its limit; without an error the pages make up the text. -/
theorem pages_cover (original : Value) (reference pointer : Option String) (asks : Nat → Option Nat × Nat) :
    ∃ pages, (follow pages (fetch r original reference pointer asks) 0).2 ≠ .reading ∧
      ∀ selected, select original pointer = .ok selected → Covered r (render r selected) (render r selected) asks
        (follow pages (fetch r original reference pointer asks) 0) := by
  cases hselected : select original pointer with
  | error e =>
    have hfailed : fetch r original reference pointer asks 0 0 = .error e := by
      rw [fetch, retrieve, hselected]
      rfl
    refine ⟨1, ?_, by simp⟩
    simp [follow, hfailed]
  | ok selected =>
    have hcovered := follow_covered r reference hselected _ asks [] _ rfl (Nat.lt_succ_self _)
    refine ⟨_, hcovered.1, ?_⟩
    rintro _ ⟨⟩
    exact hcovered

end Aworkit.Host.Retrieval
