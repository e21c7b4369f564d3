import Aworkit.Collections.OrderedMap

/-! Loops that read the saved values of a map, or members of a set, back into an empty one. A value carries its own
key. -/
namespace OrderedMap
open Std List ExtTreeSet
variable {κ α : Type} [Ord κ] [TransOrd κ] [LawfulEqOrd κ] {table : ExtTreeMap κ α} {ε : Type}

/-- Each value of the map is filed under its own key. -/
def Keyed (key : α → κ) (m : ExtTreeMap κ α) : Prop := ∀ (k : κ) (v : α), m[k]? = some v → key v = k

/-- The table holds exactly the items read so far, each under its key. -/
def Filed (key : α → κ) (done : List α) (table : ExtTreeMap κ α) : Prop :=
  ∀ (k : κ) (v : α), table[k]? = some v ↔ v ∈ done ∧ key v = k

section Values
variable {key : α → κ} {m : ExtTreeMap κ α}

theorem Keyed.mem_values (h : Keyed key m) (v : α) : v ∈ values m ↔ m[key v]? = some v := by
  rw [OrderedMap.mem_values]
  constructor
  · rintro ⟨k, hk⟩
    rw [h k v hk, hk]
  · intro hv
    exact ⟨key v, hv⟩

theorem Keyed.insert (h : Keyed key m) (hkey : key v = k) : Keyed key (m.insert k v) := by
  exact all_insert h hkey

theorem Keyed.map (h : Keyed key m) {f : α → α} (hkey : ∀ v, key (f v) = key v) : Keyed key (m.map fun _ v => f v) := by
  intro k found hfound
  rw [ExtTreeMap.getElem?_map] at hfound
  obtain ⟨v, hv, rfl⟩ := Option.map_eq_some_iff.mp hfound
  rw [hkey, h k v hv]

theorem Keyed.nodup (h : Keyed key m) : ((values m).map key).Nodup := by
  have hkeys : (values m).map key = m.keys := by
    rw [values, map_map, ← ExtTreeMap.map_fst_toList_eq_keys]
    apply map_congr_left
    rintro ⟨k, v⟩ hmem
    exact h k v (ExtTreeMap.mem_toList_iff_getElem?_eq_some.mp hmem)
  rw [hkeys]
  exact ExtTreeMap.nodup_keys

omit [LawfulEqOrd κ] in
theorem Filed.absent (h : Filed key done table)
    (hnew : ∀ other ∈ done, key other ≠ key item) : table.contains (key item) = false := by
  rw [ExtTreeMap.contains_eq_isSome_getElem?, Option.isSome_eq_false_iff, Option.isNone_iff_eq_none,
    Option.eq_none_iff_forall_ne_some]
  intro other hother
  obtain ⟨hmem, hsame⟩ := (h _ other).mp hother
  exact hnew other hmem hsame

theorem Filed.snoc {done : List α} (h : Filed key done table) {item : α}
    (hnew : ∀ other ∈ done, key other ≠ key item) : Filed key (done ++ [item]) (table.insert (key item) item) :=
  lookup_insert key h hnew

theorem Filed.eq (h : Keyed key m) (hfiled : Filed key (values m) table) : table = m := by
  apply ExtTreeMap.ext_getElem?
  intro k
  apply Option.ext
  intro v
  rw [hfiled, h.mem_values]
  constructor
  · rintro ⟨hv, rfl⟩
    exact hv
  · intro hv
    have hkey := h k v hv
    exact ⟨hkey ▸ hv, hkey⟩

/-- A loop over the values of a keyed map succeeds when every round does, on a value of the map behind values with
other keys. -/
theorem values_loop {σ : Type} (h : Keyed key m) (step : σ → α → Except ε σ) (keeps : List α → σ → Prop)
    (hstep : ∀ before state item, m[key item]? = some item →
      (∀ other ∈ before, m[key other]? = some other ∧ key other ≠ key item) → keeps before state →
        ∃ next, step state item = .ok next ∧ keeps (before ++ [item]) next) (first : σ) (hfirst : keeps [] first) :
    ∃ last, (values m).foldlM step first = .ok last ∧ keeps (values m) last := by
  refine Fallible.foldlM_succeeds step keeps (values m) [] ?_ first hfirst
  intro before state item after hsplit hkeeps
  rw [nil_append] at hsplit
  have hvalue : ∀ v ∈ before ++ item :: after, m[key v]? = some v := by
    intro v hv
    rw [← hsplit] at hv
    exact (h.mem_values v).mp hv
  have hnodup := h.nodup
  rw [hsplit, map_append, map_cons] at hnodup
  apply hstep before state item (hvalue item (by simp)) ?_ hkeeps
  intro other hother
  refine ⟨hvalue other (mem_append_left _ hother), ?_⟩
  intro hsame
  exact disjoint_of_nodup_append hnodup (mem_map_of_mem hother) (hsame ▸ mem_cons_self)

theorem values_rebuild (h : Keyed key m) (step : ExtTreeMap κ α → α → Except ε (ExtTreeMap κ α))
    (hstep : ∀ table item, m[key item]? = some item → table.contains (key item) = false →
      step table item = .ok (table.insert (key item) item)) : (values m).foldlM step ∅ = Except.ok m := by
  have hloop := values_loop h step (Filed key) ?_ ∅ (by simp [Filed])
  · obtain ⟨last, hlast, hfiled⟩ := hloop
    rw [hlast, hfiled.eq h]
  · intro before table item hitem hbefore hfiled
    have hnew : ∀ other ∈ before, key other ≠ key item := fun other hother => (hbefore other hother).2
    exact ⟨_, hstep table item hitem (hfiled.absent hnew), hfiled.snoc hnew⟩

end Values

/-- A loop that adds a set's saved members, each new, reads it back. -/
theorem members_rebuild {γ : Type} (keys : ExtTreeSet κ) (save : κ → γ)
    (step : ExtTreeSet κ → γ → Except ε (ExtTreeSet κ))
    (hstep : ∀ read k, k ∈ keys → read.contains k = false → step read (save k) = .ok (read.insert k)) :
    (keys.toList.map save).foldlM step ∅ = Except.ok keys := by
  have hnodup : keys.toList.Nodup := by
    apply keys.distinct_toList.imp
    rintro a b hne rfl
    exact hne ReflOrd.compare_self
  have hloop := Fallible.foldlM_succeeds (fun read k => step read (save k))
    (fun done read => ∀ k, k ∈ read ↔ k ∈ done) keys.toList [] ?_ ∅ (by simp)
  · obtain ⟨read, hread, hmem⟩ := hloop
    rw [foldlM_map, hread]
    congr 1
    apply ext_mem
    intro k
    rw [hmem, nil_append, mem_toList]
  · intro before read k after hsplit hmem
    rw [nil_append] at hsplit
    rw [hsplit] at hnodup
    have hkey : k ∈ keys := by
      rw [← mem_toList, hsplit]
      simp
    have hnew : read.contains k = false := by
      rw [Bool.eq_false_iff]
      intro hcontains
      have hbefore := (hmem k).mp (contains_iff_mem.mp hcontains)
      exact disjoint_of_nodup_append hnodup hbefore mem_cons_self
    refine ⟨read.insert k, hstep read k hkey hnew, ?_⟩
    intro other
    rw [mem_insert, LawfulEqOrd.compare_eq_iff_eq, hmem, mem_append, mem_singleton,
      or_comm, @eq_comm _ k]

end OrderedMap
