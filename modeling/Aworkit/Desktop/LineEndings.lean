import Mathlib.Data.List.Chain
import Mathlib.Data.List.Infix

/-! Line-ending-aware text edits. A text is a list of characters; offsets count them. -/
namespace Aworkit.Desktop.LineEndings
open List

inductive LineEnding where
  | lf
  | crlf
  deriving DecidableEq, Repr

structure Edit where
  bytes : List Char
  lineEnding : LineEnding
  reconciledLineEndings : Bool
  deriving DecidableEq, Repr

inductive EditMatch where
  | applied (edit : Edit)
  | notFound
  | ambiguous
  deriving DecidableEq, Repr

/-- `str::find`: the first offset where the needle occurs. -/
def find (needle haystack : List Char) : Option Nat := haystack.tails.findIdx? needle.isPrefixOf

/-- The first two offsets of `match_indices`, which goes on behind a match, one further behind an empty one. -/
def occurrences (haystack needle : List Char) : List Nat :=
  match find needle haystack with
  | none => []
  | some first =>
    let next := first + max needle.length 1
    first :: if next ≤ haystack.length then ((find needle (haystack.drop next)).map (next + ·)).toList else []

/-- `text.replace("\r\n", "\n")`: the CR of each pair is dropped. -/
def replaceCrlf : List Char → List Char
  | [] => []
  | c :: rest => if c = '\r' ∧ rest.head? = some '\n' then replaceCrlf rest else c :: replaceCrlf rest

def normalise (text : List Char) : List Char :=
  if '\r' ∈ text then (replaceCrlf text).map fun c => if c = '\r' then '\n' else c else text

/-- `text.replace('\n', "\r\n")`. -/
def replaceLf (text : List Char) : List Char := text.flatMap fun c => if c = '\n' then ['\r', '\n'] else [c]

def reconcile (text : List Char) : LineEnding → List Char
  | .lf => normalise text
  | .crlf => replaceLf (normalise text)

def endingAt (text : List Char) (start : Nat) : Option LineEnding :=
  ((text.drop start).findIdx? (· = '\n')).map fun offset =>
    if 0 < start + offset ∧ text[start + offset - 1]? = some '\r' then .crlf else .lf

/-- The numbers of CRLF and lone LF breaks, from the character before the text. -/
def countBreaks : Option Char → List Char → Nat × Nat
  | _, [] => (0, 0)
  | before, c :: rest =>
    let (crlf, lf) := countBreaks (some c) rest
    if c ≠ '\n' then (crlf, lf) else if before = some '\r' then (crlf + 1, lf) else (crlf, lf + 1)

def dominantEnding (text : List Char) : LineEnding :=
  let (crlf, lf) := countBreaks none text
  if 0 < crlf ∧ lf ≤ crlf then .crlf else .lf

def adoptionEnding (text : List Char) (start : Nat) : LineEnding := (endingAt text start).getD (dominantEnding text)

/-- The loop of `original_offset`, over the characters left. -/
def offsetLoop (target : Nat) : Nat → Nat → List Char → Option Nat
  | normalised, index, [] => if normalised = target then some index else none
  | normalised, index, c :: rest =>
    if c = '\r' ∧ rest.head? = some '\n' then offsetLoop target normalised (index + 1) rest
    else if normalised + 1 = target then some (index + 1)
    else offsetLoop target (normalised + 1) (index + 1) rest

def originalOffset (text : List Char) (target : Nat) : Option Nat :=
  if target = 0 then some 0 else offsetLoop target 0 0 text

def splice (text : List Char) (start stop : Nat) (newString : List Char) (ending : LineEnding)
    (quoteWasNormalised : Bool) : Edit where
  bytes := text.take start ++ reconcile newString ending ++ text.drop stop
  lineEnding := ending
  reconciledLineEndings := quoteWasNormalised || reconcile newString ending ≠ newString

def replaceOnce (text oldString newString : List Char) : EditMatch :=
  match occurrences text oldString with
  | [start] =>
    .applied (splice text start (start + oldString.length) newString (adoptionEnding text start) false)
  | [] =>
    match occurrences (normalise text) (normalise oldString) with
    | [start] =>
      match originalOffset text start, originalOffset text (start + (normalise oldString).length) with
      | some originalStart, some originalStop =>
        .applied (splice text originalStart originalStop newString (adoptionEnding text originalStart) true)
      | _, _ => .notFound
    | [] => .notFound
    | _ => .ambiguous
  | _ => .ambiguous

variable {text a b needle old new : List Char} {e : LineEnding}

/-! The places where a quote occurs. -/

def Occurs (needle text : List Char) (i : Nat) : Prop := needle <+: text.drop i

theorem find_eq_none : find needle text = none ↔ ∀ i, ¬Occurs needle text i := by
  simp only [find, findIdx?_eq_none_iff, mem_tails, isPrefixOf_iff_prefix, Occurs, Bool.eq_false_iff, ne_eq]
  refine ⟨fun h i => h _ (drop_suffix i text), fun h rest hrest => ?_⟩
  rw [suffix_iff_eq_drop.mp hrest]
  exact h _

/-- The first place of the needle is found. -/
theorem find_eq_some (h : find needle text = some i) :
    i ≤ text.length ∧ Occurs needle text i ∧ ∀ j, Occurs needle text j → i ≤ j := by
  obtain ⟨hlt, hat, hfirst⟩ := findIdx?_eq_some_iff_getElem.mp h
  rw [length_tails] at hlt
  refine ⟨Nat.lt_succ_iff.mp hlt, by simpa [Occurs] using hat, fun j hj => ?_⟩
  by_contra hji
  exact hfirst j (by omega) (by simpa [Occurs] using hj)

theorem Occurs.fits (h : Occurs needle text i) (hi : i ≤ text.length) : i + needle.length ≤ text.length := by
  have hlength := IsPrefix.length_le h
  rw [length_drop] at hlength
  omega

theorem occurs_of_occurrences (h : occurrences text needle = [i]) :
    Occurs needle text i ∧ i + needle.length ≤ text.length := by
  unfold occurrences at h
  cases hfirst : find needle text with
  | none => simp [hfirst] at h
  | some first =>
    simp only [hfirst, cons.injEq] at h
    obtain ⟨hi, hat, _⟩ := find_eq_some hfirst
    exact h.1 ▸ ⟨hat, hat.fits hi⟩

/-- A quote that occurs twice occurs at two places that do not overlap. -/
def Apart (needle text : List Char) : Prop :=
  ∀ i j, i < j → Occurs needle text i → Occurs needle text j →
    ∃ i j, i + needle.length ≤ j ∧ Occurs needle text i ∧ Occurs needle text j

private theorem existsUnique_iff_apart (hi : Occurs needle text i)
    (hnear : ∀ j k, Occurs needle text j → Occurs needle text k → k < j + needle.length) :
    (∃! i, Occurs needle text i) ↔ Apart needle text := by
  constructor
  · intro honly j k hjk hj hk
    exact absurd (honly.unique hj hk) hjk.ne
  · intro hapart
    refine ⟨i, hi, fun j hj => ?_⟩
    by_contra hne
    obtain ⟨j, k, hfar, hj, hk⟩ : ∃ j k, j + needle.length ≤ k ∧ Occurs needle text j ∧ Occurs needle text k := by
      rcases Nat.lt_or_gt_of_ne hne with hlt | hlt
      · exact hapart _ _ hlt hj hi
      · exact hapart _ _ hlt hi hj
    exact (hnear j k hj hk).not_ge hfar

theorem occurrences_cases (text : List Char) (hneedle : needle ≠ []) :
    (occurrences text needle = [] ∧ (¬∃ i, Occurs needle text i) ∧ Apart needle text) ∨
    (∃ i, occurrences text needle = [i] ∧ (∃ i, Occurs needle text i) ∧
      ((∃! i, Occurs needle text i) ↔ Apart needle text)) ∨
    ∃ i j, occurrences text needle = [i, j] ∧ (∃ i, Occurs needle text i) ∧
      (¬∃! i, Occurs needle text i) ∧ Apart needle text := by
  have hpos := length_pos_of_ne_nil hneedle
  unfold occurrences
  cases hfirst : find needle text with
  | none =>
    have hnone := find_eq_none.mp hfirst
    exact .inl ⟨rfl, not_exists.mpr hnone, fun i _ _ hi => absurd hi (hnone i)⟩
  | some i =>
    obtain ⟨hle, hi, hmin⟩ := find_eq_some hfirst
    simp only [Nat.max_eq_left hpos, hi.fits hle, if_true]
    cases hnext : find needle (text.drop (i + needle.length)) with
    | none =>
      refine .inr (.inl ⟨i, rfl, ⟨i, hi⟩, existsUnique_iff_apart hi fun j k hj hk => ?_⟩)
      by_contra hfar
      refine find_eq_none.mp hnext (k - (i + needle.length)) ?_
      have hij := hmin j hj
      rwa [Occurs, drop_drop, Nat.add_sub_cancel' (by omega)]
    | some j =>
      obtain ⟨_, hj, _⟩ := find_eq_some hnext
      rw [Occurs, drop_drop] at hj
      refine .inr (.inr ⟨i, _, rfl, ⟨i, hi⟩, fun honly => ?_, fun _ _ _ _ _ => ⟨i, _, Nat.le_add_right _ j, hi, hj⟩⟩)
      have hsame := honly.unique hi hj
      omega

/-! The normal form, read from the front. -/

/-- What one character becomes, by the one after it. -/
def unit (c : Char) (next : Option Char) : List Char :=
  if c = '\r' ∧ next = some '\n' then [] else [if c = '\r' then '\n' else c]

theorem normalise_nil : normalise [] = [] := rfl

theorem normalise_cons (c : Char) (rest : List Char) : normalise (c :: rest) = unit c rest.head? ++ normalise rest := by
  have hplain : ∀ text : List Char, normalise text = (replaceCrlf text).map fun c => if c = '\r' then '\n' else c := by
    intro text
    unfold normalise
    split
    · rfl
    · rename_i hcr
      induction text with
      | nil => rfl
      | cons c rest ih =>
        rw [mem_cons, not_or] at hcr
        simp [replaceCrlf, Ne.symm hcr.1, ← ih hcr.2]
  rw [hplain, hplain, replaceCrlf, unit]
  split <;> simp

theorem cr_not_mem_normalise (text : List Char) : '\r' ∉ normalise text := by
  induction text with
  | nil => simp [normalise_nil]
  | cons c rest ih =>
    rw [normalise_cons, mem_append, not_or]
    refine ⟨?_, ih⟩
    unfold unit
    split_ifs <;> simp_all [eq_comm]

theorem normalise_ne_nil (h : text ≠ []) : normalise text ≠ [] := by
  induction text with
  | nil => exact absurd rfl h
  | cons c rest ih =>
    rw [normalise_cons, unit]
    split
    · exact ih (by rintro rfl; simp_all)
    · simp

/-- The place between the two texts lies in a pair. -/
def Splits (a b : List Char) : Prop := a.getLast? = some '\r' ∧ b.head? = some '\n'

/-- A text is put together without a pair at the seam, or loses its CR. -/
theorem normalise_append (a b : List Char) :
    (¬Splits a b → normalise (a ++ b) = normalise a ++ normalise b) ∧
    (Splits a b → ∃ rest, normalise b = '\n' :: rest ∧ normalise (a ++ b) = normalise a ++ rest) := by
  induction a with
  | nil => simp [Splits, normalise_nil]
  | cons c a ih =>
    cases a with
    | nil =>
      simp only [Splits, getLast?_singleton, Option.some.injEq, cons_append, nil_append, normalise_cons,
        head?_nil, normalise_nil]
      refine ⟨fun h => by simp [unit, h], ?_⟩
      rintro ⟨rfl, hb⟩
      obtain ⟨rest, rfl⟩ := head?_eq_some_iff.mp hb
      exact ⟨normalise rest, by simp [normalise_cons, unit], by simp [normalise_cons, unit]⟩
    | cons d a =>
      have hlast : Splits (c :: d :: a) b ↔ Splits (d :: a) b := by simp [Splits, getLast?_cons_cons]
      rw [hlast, cons_append, normalise_cons, normalise_cons c]
      refine ⟨fun h => by rw [ih.1 h, append_assoc]; rfl, fun h => ?_⟩
      obtain ⟨rest, hb, hrest⟩ := ih.2 h
      exact ⟨rest, hb, by rw [hrest, append_assoc]; rfl⟩

theorem normalise_infix (h : old <:+: text) : normalise old <:+: normalise text := by
  obtain ⟨pre, post, rfl⟩ := h
  have hback : normalise old <:+ normalise (pre ++ old) := by
    induction pre with
    | nil => exact suffix_rfl
    | cons c pre ih =>
      rw [cons_append, normalise_cons]
      exact ih.trans (suffix_append _ _)
  refine hback.isInfix.trans (IsPrefix.isInfix ?_)
  by_cases h : Splits (pre ++ old) post
  · obtain ⟨rest, _, hrest⟩ := (normalise_append (pre ++ old) post).2 h
    exact ⟨rest, hrest.symm⟩
  · exact ⟨_, ((normalise_append (pre ++ old) post).1 h).symm⟩

/-- An offset of the normal form is that of a place that lies in no pair. -/
theorem originalOffset_eq (h : target ≤ (normalise text).length) :
    ∃ i, originalOffset text target = some i ∧ normalise (text.take i) = (normalise text).take target ∧
      normalise (text.drop i) = (normalise text).drop target ∧ ¬Splits (text.take i) (text.drop i) := by
  -- The loop has passed `normalised` of the target and `index` of the text, and has one more to pass.
  have hloop : ∀ k normalised index, k < (normalise text).length → normalised + (k + 1) = target →
      ∃ i, offsetLoop target normalised index text = some (index + (i + 1)) ∧
        normalise (text.take (i + 1)) = (normalise text).take (k + 1) ∧
        normalise (text.drop (i + 1)) = (normalise text).drop (k + 1) ∧
        ¬Splits (text.take (i + 1)) (text.drop (i + 1)) := by
    clear h
    induction text with
    | nil => intro k _ _ hk; cases hk
    | cons c rest ih =>
      intro k normalised index hk htarget
      have hhead : ∀ i, (rest.take (i + 1)).head? = rest.head? := by cases rest <;> simp
      have hsplits : ∀ i, ¬Splits (rest.take (i + 1)) (rest.drop (i + 1)) →
          ¬Splits (c :: rest.take (i + 1)) (rest.drop (i + 1)) := by
        cases rest <;> simp [Splits, getLast?_cons_cons]
      by_cases hpair : c = '\r' ∧ rest.head? = some '\n'
      · simp only [normalise_cons, unit, if_pos hpair, nil_append] at hk ⊢
        obtain ⟨i, hrun, hfront, hback, hseam⟩ := ih k normalised (index + 1) hk htarget
        refine ⟨i + 1, ?_, ?_, hback, hsplits i hseam⟩
        · rw [offsetLoop, if_pos hpair, hrun]
          congr 1
          omega
        · rw [take_succ_cons, normalise_cons, hhead, unit, if_pos hpair, hfront, nil_append]
      · simp only [normalise_cons, unit, if_neg hpair, singleton_append, length_cons] at hk ⊢
        cases k with
        | zero =>
          exact ⟨0, by simp [offsetLoop, hpair, htarget], by simp [normalise_cons, normalise_nil, unit], by simp,
            by simpa [Splits] using hpair⟩
        | succ k =>
          obtain ⟨i, hrun, hfront, hback, hseam⟩ := ih k (normalised + 1) (index + 1) (by omega) (by omega)
          refine ⟨i + 1, ?_, ?_, hback, hsplits i hseam⟩
          · rw [offsetLoop, if_neg hpair, if_neg (by omega), hrun]
            congr 1
            omega
          · rw [take_succ_cons, normalise_cons, hhead, unit, if_neg hpair, hfront]
            rfl
  cases target with
  | zero => exact ⟨0, rfl, by simp [normalise_nil], by simp, by simp [Splits]⟩
  | succ k =>
    obtain ⟨i, hrun, hrest⟩ := hloop k 0 0 h (by omega)
    exact ⟨i + 1, by simpa [originalOffset] using hrun, hrest⟩

theorem exists_occurs_normalise (h : ∃ i, Occurs old text i) : ∃ i, Occurs (normalise old) (normalise text) i := by
  obtain ⟨i, hi⟩ := h
  obtain ⟨pre, post, heq⟩ := normalise_infix (hi.isInfix.trans (drop_suffix i text).isInfix)
  exact ⟨pre.length, post, by rw [← heq, append_assoc, drop_left]⟩

/-- The number of places of the quote, overlapping ones counted, decides the edit. -/
def Decided (text old : List Char) (verdict : EditMatch) : Prop :=
  let unique := (∃! i, Occurs old text i) ∨
    (¬∃ i, Occurs old text i) ∧ ∃! i, Occurs (normalise old) (normalise text) i
  ((∃ edit, verdict = .applied edit) ↔ unique) ∧
  (verdict = .notFound ↔ ¬∃ i, Occurs (normalise old) (normalise text) i) ∧
  (verdict = .ambiguous ↔ ¬unique ∧ ∃ i, Occurs (normalise old) (normalise text) i)

/-- Places decide each edit of a quote exactly when overlapping ones never stand alone. -/
theorem replaceOnce_decided_iff (text old : List Char) (hold : old ≠ []) :
    (∀ new, Decided text old (replaceOnce text old new)) ↔
      Apart old text ∧ ((¬∃ i, Occurs old text i) → Apart (normalise old) (normalise text)) := by
  simp only [Decided, replaceOnce]
  rcases occurrences_cases text hold with ⟨hrun, hnone, hapart⟩ | ⟨i, hrun, hsome, honly⟩ | ⟨i, j, hrun, hsome, hmany, hapart⟩
  · have hmany : ¬∃! i, Occurs old text i := fun h => hnone h.exists
    rcases occurrences_cases (normalise text) (normalise_ne_nil hold) with
      ⟨hnorm, habsent, hfar⟩ | ⟨i, hnorm, hfound, honly⟩ | ⟨i, j, hnorm, hfound, hmore, hfar⟩
    · have hmore : ¬∃! i, Occurs (normalise old) (normalise text) i := fun h => habsent h.exists
      simp only [hrun, hnorm, hnone, hapart, hmany, habsent, hfar, hmore]
      simp
    · obtain ⟨_, hfits⟩ := occurs_of_occurrences hnorm
      obtain ⟨start, hstart, _⟩ := originalOffset_eq (Nat.le_of_add_right_le hfits)
      obtain ⟨stop, hstop, _⟩ := originalOffset_eq hfits
      simp only [hrun, hnorm, hstart, hstop, hnone, hapart, hmany, hfound, ← honly]
      simp
    · simp only [hrun, hnorm, hnone, hapart, hmany, hfound, hfar, hmore]
      simp
  · simp only [hrun, hsome, exists_occurs_normalise hsome, ← honly]
    simp
  · simp only [hrun, hsome, exists_occurs_normalise hsome, hmany, hapart]
    simp

/-- A quote that occurs twice, one place over the other, is edited. -/
theorem overlapping_quote_edited :
    (∃ edit, replaceOnce ['a', 'a', 'a'] ['a', 'a'] [] = .applied edit) ∧
      Occurs ['a', 'a'] ['a', 'a', 'a'] 0 ∧ Occurs ['a', 'a'] ['a', 'a', 'a'] 1 :=
  ⟨⟨_, rfl⟩, ⟨['a'], rfl⟩, ⟨[], rfl⟩⟩

/-- A quote with other breaks than its text, where it stands twice. -/
theorem sampleQuote_decided : ['a', '\n'] ≠ [] ∧ ∀ new, Decided ['a', '\r', '\n', 'a', '\r', '\n'] ['a', '\n']
    (replaceOnce ['a', '\r', '\n', 'a', '\r', '\n'] ['a', '\n'] new) := by
  have hnone : ∀ i, ¬Occurs ['a', '\n'] ['a', '\r', '\n', 'a', '\r', '\n'] i := find_eq_none.mp (by decide)
  have htwice : Apart (normalise ['a', '\n']) (normalise ['a', '\r', '\n', 'a', '\r', '\n']) :=
    fun _ _ _ _ _ => ⟨0, 2, by decide, ⟨_, rfl⟩, ⟨_, rfl⟩⟩
  refine ⟨by simp, (replaceOnce_decided_iff _ _ (by simp)).mpr ⟨fun i _ _ hi _ => absurd hi (hnone i), fun _ => htwice⟩⟩

/-! What an edit keeps. -/

/-- Each CR is followed by an LF. -/
def Paired (text : List Char) : Prop :=
  text.IsChain (fun c d => c = '\r' → d = '\n') ∧ text.getLast? ≠ some '\r'

/-- Each LF follows a CR, or none does. -/
def Breaks (e : LineEnding) (text : List Char) : Prop :=
  text.IsChain (fun c d => d = '\n' → (c = '\r' ↔ e = .crlf)) ∧ (e = .crlf → text.head? ≠ some '\n')

theorem Paired.append (ha : Paired a) (hb : Paired b) : Paired (a ++ b) := by
  refine ⟨isChain_append.mpr ⟨ha.1, hb.1, fun x hx _ _ hcr => absurd (hcr ▸ hx) ha.2⟩, ?_⟩
  rw [getLast?_append]
  cases hlast : b.getLast? with
  | none => exact ha.2
  | some c => exact fun hcr => hb.2 (hlast.trans hcr)

theorem Breaks.append (ha : Breaks e a) (hlast : a.getLast? ≠ some '\r') (hb : Breaks e b) : Breaks e (a ++ b) := by
  refine ⟨isChain_append.mpr ⟨ha.1, hb.1, fun x hx y hy hlf => ?_⟩, fun he => ?_⟩
  · exact ⟨fun hcr => absurd (hcr ▸ hx) hlast, fun he => absurd (hlf ▸ hy) (hb.2 he)⟩
  · rw [head?_append]
    cases hhead : a.head? with
    | none => exact hb.2 he
    | some c => exact fun hlf => ha.2 he (hhead.trans hlf)

theorem Paired.cut (h : Paired (a ++ b)) (hseam : ¬Splits a b) : Paired a ∧ Paired b := by
  obtain ⟨ha, hb, hpair⟩ := isChain_append.mp h.1
  have hlast := h.2
  rw [getLast?_append] at hlast
  cases b with
  | nil => exact ⟨⟨ha, hlast⟩, hb, by simp⟩
  | cons d b =>
    refine ⟨⟨ha, fun hcr => hseam ⟨hcr, ?_⟩⟩, hb, fun hcr => hlast (by rw [hcr]; rfl)⟩
    rw [head?_cons, hpair _ hcr d rfl rfl]

theorem Breaks.cut (h : Breaks e (a ++ b)) (hseam : ¬Splits a b) : Breaks e a ∧ Breaks e b := by
  obtain ⟨ha, hb, hpair⟩ := isChain_append.mp h.1
  have hhead := h.2
  rw [head?_append] at hhead
  rcases eq_nil_or_concat' a with rfl | ⟨a, c, rfl⟩
  · exact ⟨⟨ha, by simp⟩, hb, hhead⟩
  · refine ⟨⟨ha, fun he hlf => hhead he (by rw [hlf]; rfl)⟩, hb, fun he hlf => hseam ⟨?_, hlf⟩⟩
    rw [getLast?_concat, (hpair c (by simp) _ hlf rfl).mpr he]

theorem reconcile_whole (new : List Char) (e : LineEnding) :
    Paired (reconcile new e) ∧ Breaks e (reconcile new e) ∧ normalise (reconcile new e) = normalise new := by
  have hfree := cr_not_mem_normalise new
  revert hfree
  cases e with
  | lf =>
    simp only [reconcile]
    generalize normalise new = plain
    intro hfree
    have hne : ∀ c ∈ plain, c ≠ '\r' := fun c hc heq => hfree (heq ▸ hc)
    refine ⟨⟨(pairwise_of_forall_mem_list fun c hc _ _ hcr => absurd hcr (hne c hc)).isChain,
      fun hlast => hfree (mem_of_getLast? hlast)⟩,
      ⟨(pairwise_of_forall_mem_list fun c hc _ _ _ => by simp [hne c hc]).isChain, by simp⟩, if_neg hfree⟩
  | crlf =>
    simp only [reconcile]
    generalize normalise new = plain
    intro hfree
    induction plain with
    | nil => simp [replaceLf, Paired, Breaks, normalise_nil]
    | cons c plain ih =>
      rw [mem_cons, not_or] at hfree
      obtain ⟨hpaired, hbreaks, hnormal⟩ := ih hfree.2
      have hunit : Paired (replaceLf [c]) ∧ Breaks .crlf (replaceLf [c]) ∧ normalise (replaceLf [c]) = [c] := by
        by_cases hc : c = '\n' <;> simp [replaceLf, Paired, Breaks, normalise_cons, normalise_nil, unit, hc, Ne.symm hfree.1]
      have hcons : replaceLf (c :: plain) = replaceLf [c] ++ replaceLf plain := by simp [replaceLf]
      rw [hcons, (normalise_append _ _).1 fun hseam => hunit.1.2 hseam.1, hunit.2.2, hnormal]
      exact ⟨hunit.1.append hpaired, hunit.2.1.append hunit.1.2 hbreaks, rfl⟩

theorem Breaks.at (h : Breaks e text) (hi : text[i]? = some '\n') : 0 < i ∧ text[i - 1]? = some '\r' ↔ e = .crlf := by
  cases i with
  | zero => simpa using fun he => h.2 he (head?_eq_getElem?.trans hi)
  | succ i =>
    obtain ⟨hlt, hlf⟩ := List.getElem?_eq_some_iff.mp hi
    simpa [getElem?_eq_getElem (Nat.lt_of_succ_lt hlt)] using isChain_iff_getElem.mp h.1 i hlt hlf

/-- From the character before the text on, all breaks are of one kind. -/
theorem countBreaks_eq (before : Option Char)
    (h : (before.toList ++ text).IsChain fun c d => d = '\n' → (c = '\r' ↔ e = .crlf))
    (hhead : before = none → e = .crlf → text.head? ≠ some '\n') :
    countBreaks before text = if e = .crlf then (text.count '\n', 0) else (0, text.count '\n') := by
  induction text generalizing before with
  | nil => simp [countBreaks]
  | cons c rest ih =>
    have hrest := ih (some c) (isChain_append.mp h).2.1 (by simp)
    have hbreak : c = '\n' → (before = some '\r' ↔ e = .crlf) := by
      rintro rfl
      cases before with
      | none => simpa using hhead rfl
      | some d => simpa using (isChain_append.mp h).2.2 d rfl '\n' rfl rfl
    rw [countBreaks, hrest]
    by_cases hc : c = '\n'
    · simp only [hc, hbreak hc]
      cases e <;> simp
    · cases e <;> simp [hc]

private theorem dominantEnding_eq (h : Breaks e text) (hlf : '\n' ∈ text) : dominantEnding text = e := by
  rw [dominantEnding, countBreaks_eq none h.1 fun _ => h.2]
  have hpos := count_pos_iff.mpr hlf
  cases e <;> simp [hpos]

private theorem adoptionEnding_eq (h : Breaks e text) (hlf : '\n' ∈ text) (start : Nat) : adoptionEnding text start = e := by
  unfold adoptionEnding endingAt
  cases hfind : (text.drop start).findIdx? (· = '\n') with
  | none => exact dominantEnding_eq h hlf
  | some offset =>
    obtain ⟨hlt, hat, _⟩ := findIdx?_eq_some_iff_getElem.mp hfind
    have hbreak : text[start + offset]? = some '\n' := by
      rw [← getElem?_drop, getElem?_eq_getElem hlt]
      simpa using hat
    simp only [Option.map_some, Option.getD_some, h.at hbreak]
    cases e <;> simp

/-- The quote is replaced in the normal form; breaks stay whole and of one kind. -/
def Kept (text old new bytes : List Char) : Prop :=
  (∃ before after, normalise text = before ++ normalise old ++ after ∧
    normalise bytes = before ++ normalise new ++ after) ∧
  ('\n' ∈ text → ∀ e, Breaks e text → Breaks e bytes) ∧ Paired bytes

theorem splice_kept (hpaired : Paired text) (hstart : ¬Splits (text.take start) (text.drop start))
    (hstop : ¬Splits (text.take stop) (text.drop stop))
    (hquote : normalise text = normalise (text.take start) ++ normalise old ++ normalise (text.drop stop))
    (new : List Char) (normalised : Bool) :
    Kept text old new (splice text start stop new (adoptionEnding text start) normalised).bytes := by
  have hfront := (Paired.cut ((take_append_drop start text).symm ▸ hpaired) hstart).1
  have hback := (Paired.cut ((take_append_drop stop text).symm ▸ hpaired) hstop).2
  obtain ⟨hnew, _, hnormal⟩ := reconcile_whole new (adoptionEnding text start)
  have hjoined := hfront.append hnew
  refine ⟨⟨_, _, hquote, ?_⟩, fun hlf e hbreaks => ?_, hjoined.append hback⟩
  · rw [splice, (normalise_append _ _).1 fun hseam => hjoined.2 hseam.1,
      (normalise_append _ _).1 fun hseam => hfront.2 hseam.1, hnormal]
  · have hbefore := (Breaks.cut ((take_append_drop start text).symm ▸ hbreaks) hstart).1
    have hafter := (Breaks.cut ((take_append_drop stop text).symm ▸ hbreaks) hstop).2
    rw [splice, adoptionEnding_eq hbreaks hlf] at *
    exact (hbefore.append hfront.2 (reconcile_whole new e).2.1).append hjoined.2 hafter

/-- Each edit of a quote in a text of pairs keeps them exactly when the quote, if it occurs as such, neither begins
nor ends in one. -/
theorem replaceOnce_kept_iff (text old : List Char) (hpaired : Paired text) :
    (∀ new edit, Paired new → replaceOnce text old new = .applied edit → Kept text old new edit.bytes) ↔
      ∀ start, occurrences text old = [start] →
        ¬Splits (text.take start) (text.drop start) ∧
        ¬Splits (text.take (start + old.length)) (text.drop (start + old.length)) := by
  -- The parts of a text around a quote that occurs as it is.
  have hparts : ∀ {start}, occurrences text old = [start] → ¬Splits (text.take start) (text.drop start) →
      normalise (text.take (start + old.length)) = normalise (text.take start) ++ normalise old := by
    intro start hrun hseam
    obtain ⟨⟨post, hpost⟩, _⟩ := occurs_of_occurrences hrun
    have htake : text.take (start + old.length) = text.take start ++ old := by
      rw [take_add, ← hpost, take_left]
    rw [htake, (normalise_append _ _).1 fun h => hseam ⟨h.1, ?_⟩]
    rw [← hpost, head?_append, h.2]
    rfl
  constructor
  · intro hkept start hrun
    have hx : ∀ e, reconcile ['x'] e = ['x'] := by rintro (_ | _) <;> decide
    obtain ⟨⟨before, after, hbefore, hafter⟩, _, hwhole⟩ := hkept ['x'] _ (by simp [Paired]) (by rw [replaceOnce, hrun])
    simp only [splice, hx] at hafter hwhole
    have hlast : (text.take start).getLast? ≠ some '\r' := by
      intro hcr
      rw [append_assoc] at hwhole
      exact absurd ((isChain_append.mp hwhole.1).2.2 _ hcr 'x' rfl rfl) (by decide)
    have hstart : ¬Splits (text.take start) (text.drop start) := fun h => hlast h.1
    refine ⟨hstart, fun hstop => ?_⟩
    -- The normal form of such an edit is longer by the break whose CR the quote took.
    obtain ⟨rest, hpost, hjoined⟩ := (normalise_append _ _).2 hstop
    rw [take_append_drop, hparts hrun hstart, hbefore] at hjoined
    rw [(normalise_append _ _).1 (by simp [Splits]), (normalise_append _ _).1 fun h => hlast h.1, hpost] at hafter
    have hlong := congrArg length hjoined
    have hshort := congrArg length hafter
    simp only [length_append, length_cons] at hlong hshort
    omega
  · intro hwhole new edit _ hrun
    unfold replaceOnce at hrun
    split at hrun
    · rename_i start hexact
      obtain ⟨hstart, hstop⟩ := hwhole start hexact
      cases hrun
      refine splice_kept hpaired hstart hstop ?_ new _
      rw [← hparts hexact hstart, ← (normalise_append _ _).1 hstop, take_append_drop]
    · split at hrun
      · rename_i start hnorm
        obtain ⟨hat, hfits⟩ := occurs_of_occurrences hnorm
        obtain ⟨first, hfirst, hfront, _, hstart⟩ := originalOffset_eq (Nat.le_of_add_right_le hfits)
        obtain ⟨last, hlast, _, hback, hstop⟩ := originalOffset_eq hfits
        simp only [hfirst, hlast] at hrun
        cases hrun
        refine splice_kept hpaired hstart hstop ?_ new _
        obtain ⟨post, hpost⟩ := hat
        rw [hfront, hback, ← drop_drop, ← hpost, drop_left, append_assoc, hpost, take_append_drop]
      · cases hrun
      · cases hrun
    · cases hrun

/-- A quote that begins in a pair leaves the CR of it alone. -/
theorem cut_pair_left : ∃ edit, replaceOnce ['a', '\r', '\n', 'b'] ['\n', 'b'] ['x'] = .applied edit ∧
    edit.bytes = ['a', '\r', 'x'] ∧ ¬Kept ['a', '\r', '\n', 'b'] ['\n', 'b'] ['x'] edit.bytes :=
  ⟨_, rfl, rfl, fun hkept => absurd (show Paired ['a', '\r', 'x'] from hkept.2.2) (by simp [Paired])⟩

theorem sampleText_kept : Paired ['a', '\r', '\n'] ∧ ∀ new edit, Paired new →
    replaceOnce ['a', '\r', '\n'] ['a', '\n'] new = .applied edit → Kept ['a', '\r', '\n'] ['a', '\n'] new edit.bytes := by
  have hpaired : Paired ['a', '\r', '\n'] := by simp [Paired]
  exact ⟨hpaired, (replaceOnce_kept_iff _ _ hpaired).mpr fun _ hrun => absurd (show [] = _ from hrun) (by simp)⟩

end Aworkit.Desktop.LineEndings
