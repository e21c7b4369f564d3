import Aworkit.Logic.Fallible

/-! Tables of a relational store as lists of rows, newest last. A row that clashes with a stored one on a key is
refused. -/
namespace Table
open List
variable {ρ α : Type} {ε : Type}

/-- The table with one more row, unless the row clashes with a stored one. -/
def insert (clashes : ρ → ρ → Bool) (row : ρ) (rows : List ρ) : Option (List ρ) :=
  if rows.any (clashes row) then none else some (rows ++ [row])

def Keyed (clashes : ρ → ρ → Bool) (rows : List ρ) : Prop :=
  rows.Pairwise fun earlier later => clashes later earlier = false

variable {clashes : ρ → ρ → Bool} {rows rows' : List ρ}

theorem insert_eq_some :
    insert clashes row rows = some rows' ↔ rows' = rows ++ [row] ∧ ∀ other ∈ rows, clashes row other = false := by
  unfold insert
  split
  case isTrue h =>
    obtain ⟨other, hother, hclash⟩ := any_eq_true.mp h
    refine ⟨nofun, fun h => ?_⟩
    rw [h.2 other hother] at hclash
    cases hclash
  case isFalse h =>
    simp only [any_eq_true, not_exists, not_and, Bool.not_eq_true] at h
    exact ⟨fun heq => ⟨(Option.some.inj heq).symm, h⟩, fun heq => congrArg some heq.1.symm⟩

/-- Inserts a row for each checked item; a row that clashes is an error. -/
def extend (check : α → Except ε Unit) (clashes : ρ → ρ → Bool) (refused : ε) (row : α → ρ) :
    List α → List ρ → Except ε (List ρ)
  | [], rows => .ok rows
  | item :: rest, rows => do
    check item
    let rows ← Fallible.require (insert clashes (row item) rows) refused
    extend check clashes refused row rest rows

theorem extend_eq_ok {check : α → Except ε Unit} {row : α → ρ}
    {items : List α} : extend check clashes refused row items rows = .ok rows' ↔
      rows' = rows ++ items.map row ∧ (∀ item ∈ items, check item = .ok ()) ∧
        (∀ item ∈ items, ∀ other ∈ rows, clashes (row item) other = false) ∧ Keyed clashes (items.map row) := by
  induction items generalizing rows with
  | nil =>
    rw [extend, map_nil, append_nil]
    exact ⟨fun h => ⟨(Except.ok.inj h).symm, nofun, nofun, .nil⟩, fun h => congrArg Except.ok h.1.symm⟩
  | cons item rest ih =>
    simp only [extend, Fallible.bind_ok_iff, Fallible.require_eq_ok, insert_eq_some, ih]
    constructor
    · rintro ⟨_, hcheck, _, ⟨rfl, hfresh⟩, rfl, hchecks, hrest, hkeyed⟩
      refine ⟨by simp, ?_, ?_, ?_⟩
      · exact forall_mem_cons.mpr ⟨hcheck, hchecks⟩
      · refine forall_mem_cons.mpr ⟨hfresh, fun other hother old hold => ?_⟩
        exact hrest other hother old (mem_append_left _ hold)
      · refine pairwise_cons.mpr ⟨fun other hother => ?_, hkeyed⟩
        obtain ⟨later, hlater, rfl⟩ := mem_map.mp hother
        exact hrest later hlater _ (mem_append_right _ mem_cons_self)
    · rintro ⟨rfl, hchecks, hfresh, hkeyed⟩
      obtain ⟨hcheck, hchecks⟩ := forall_mem_cons.mp hchecks
      obtain ⟨hitem, hrest⟩ := forall_mem_cons.mp hfresh
      obtain ⟨hbehind, hkeyed⟩ := pairwise_cons.mp hkeyed
      refine ⟨(), hcheck, _, ⟨rfl, hitem⟩, by simp, hchecks, fun later hlater old hold => ?_, hkeyed⟩
      rcases mem_append.mp hold with hold | hold
      · exact hrest later hlater old hold
      · rw [mem_singleton.mp hold]
        exact hbehind _ (mem_map_of_mem hlater)

section
variable (h : Keyed clashes rows)
include h

theorem Keyed.append (hnew : Keyed clashes new)
    (hfresh : ∀ row ∈ new, ∀ other ∈ rows, clashes row other = false) : Keyed clashes (rows ++ new) :=
  pairwise_append.mpr ⟨h, hnew, fun other hother row hrow => hfresh row hrow other hother⟩

theorem Keyed.filter (keep : ρ → Bool) :
    Keyed clashes (rows.filter keep) := List.Pairwise.filter keep h

theorem Keyed.map (update : ρ → ρ)
    (hkeys : ∀ a b, clashes (update a) (update b) = clashes a b) : Keyed clashes (rows.map update) :=
  pairwise_map.mpr (h.imp fun {a b} hab => (hkeys b a).trans hab)

theorem Keyed.find {key : ρ → Bool}
    (hkey : ∀ a b, key a = true → key b = true → clashes a b = true) (hrow : row ∈ rows) (hhas : key row = true) :
    rows.find? key = some row := by
  induction rows with
  | nil => cases hrow
  | cons first rest ih =>
    obtain ⟨hfirst, hrest⟩ := pairwise_cons.mp h
    rcases mem_cons.mp hrow with rfl | hbehind
    · exact find?_cons_of_pos hhas
    · rw [find?_cons_of_neg, ih hrest hbehind]
      intro hother
      cases (hkey row first hhas hother).symm.trans (hfirst row hbehind)

end

theorem find_filter {keep key : ρ → Bool} (h : ∀ row, key row = true → keep row = true) (rows : List ρ) :
    (rows.filter keep).find? key = rows.find? key := by
  rw [find?_filter]
  congr 1
  funext row
  cases hkey : key row with
  | false => simp
  | true => simp [h row hkey]

end Table
