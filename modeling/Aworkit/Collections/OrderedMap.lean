import Aworkit.Logic.Fallible

/-! Ordered maps as tables: sums over the values under an update, tables built from a list with a unique key, and
grouping by a key. -/
namespace OrderedMap
open Std List LawfulEqOrd ExtTreeMap ExtTreeSet
variable {κ β : Type*} [Ord κ] [TransOrd κ] [LawfulEqOrd κ]

def values (m : ExtTreeMap κ β) : List β := m.toList.map Prod.snd

def sumValues (f : β → Nat) (m : ExtTreeMap κ β) : Nat := ((values m).map f).sum

section
variable (m : ExtTreeMap κ β)
include m

theorem mem_values (v : β) : v ∈ values m ↔ ∃ k : κ, m[k]? = some v := by
  simp [values, mem_map]

private theorem nodup_toList : m.toList.Nodup := by
  refine m.distinct_keys_toList.imp ?_
  rintro a _ h rfl
  exact h ReflOrd.compare_self

private theorem toList_perm_split (k : κ) :
    m.toList.Perm (m[k]?.toList.map (fun v => (k, v)) ++ m.toList.filter (fun entry => compare k entry.1 != .eq)) := by
  have hleft : (m[k]?.toList.map (fun v => (k, v))).Nodup := by
    cases m[k]? <;> simp
  have hright := (nodup_toList m).filter (fun entry => compare k entry.1 != .eq)
  have hapart : List.Disjoint (m[k]?.toList.map (fun v => (k, v)))
      (m.toList.filter (fun entry => compare k entry.1 != .eq)) := by
    intro entry hl hr
    obtain ⟨v, _, rfl⟩ := mem_map.mp hl
    simp at hr
  refine (perm_ext_iff_of_nodup (nodup_toList m) (hleft.append hright hapart)).mpr ?_
  rintro ⟨key, v⟩
  simp only [mem_append, mem_map, Option.mem_toList, Prod.mk.injEq, mem_filter,
    mem_toList_iff_getElem?_eq_some, bne_iff_ne, ne_eq, LawfulEqOrd.compare_eq_iff_eq]
  constructor
  · intro h
    by_cases hk : k = key
    · subst hk
      exact .inl ⟨v, h, rfl, rfl⟩
    · exact .inr ⟨h, hk⟩
  · rintro (⟨v', h, rfl, rfl⟩ | ⟨h, _⟩)
    · exact h
    · exact h

private theorem filter_insert_perm (k : κ) (v : β) :
    ((m.insert k v).toList.filter (fun entry => compare k entry.1 != .eq)).Perm
      (m.toList.filter (fun entry => compare k entry.1 != .eq)) := by
  refine (perm_ext_iff_of_nodup ((nodup_toList _).filter _) ((nodup_toList _).filter _)).mpr ?_
  rintro ⟨key, value⟩
  simp only [mem_filter, ExtTreeMap.mem_toList_iff_getElem?_eq_some, ExtTreeMap.getElem?_insert,
    bne_iff_ne, ne_eq]
  refine and_congr_left fun hne => ?_
  rw [if_neg hne]

end

theorem sumValues_insert (f : β → Nat) (m : ExtTreeMap κ β) (k : κ) (v : β) :
    sumValues f (m.insert k v) + m[k]?.elim 0 f = sumValues f m + f v := by
  have hnew := ((toList_perm_split (m.insert k v) k).map (fun entry => f entry.2)).sum_eq
  have hold := ((toList_perm_split m k).map (fun entry => f entry.2)).sum_eq
  have hrest := ((filter_insert_perm m k v).map (fun entry => f entry.2)).sum_eq
  have hself : (m.insert k v)[k]? = some v := by simp
  rw [hself] at hnew
  simp only [map_append, List.map_map, sum_append, Option.toList_some, map_cons, map_nil,
    sum_cons, sum_nil] at hnew hold
  have hone : ((m[k]?.toList.map ((fun entry : κ × β => f entry.2) ∘ fun v => (k, v)))).sum = m[k]?.elim 0 f := by
    cases m[k]? <;> simp
  have hsum : ∀ n : ExtTreeMap κ β, sumValues f n = (n.toList.map fun entry => f entry.2).sum := by
    intro n
    simp only [sumValues, values, List.map_map]
    rfl
  rw [hsum, hsum]
  omega

omit [LawfulEqOrd κ] in
theorem sumValues_map (f : β → Nat) (g : β → β) (m : ExtTreeMap κ β) :
    sumValues f (m.map fun _ v => g v) = sumValues (fun v => f (g v)) m := by
  simp [sumValues, values, toList_map, Function.comp_def]

omit [LawfulEqOrd κ] in
theorem sumValues_add (f g : β → Nat) (m : ExtTreeMap κ β) :
    sumValues (fun v => f v + g v) m = sumValues f m + sumValues g m :=
  sum_map_add

omit [LawfulEqOrd κ] in
theorem sumValues_le (f g : β → Nat) (m : ExtTreeMap κ β) (h : ∀ v ∈ values m, f v ≤ g v) :
    sumValues f m ≤ sumValues g m := by
  exact sum_le_sum h

theorem le_sumValues (f : β → Nat) (m : ExtTreeMap κ β) (k : κ) (v : β) (h : m[k]? = some v) : f v ≤ sumValues f m := by
  refine single_le_sum (by simp) _ (mem_map.mpr ⟨v, (mem_values m v).mpr ⟨k, h⟩, rfl⟩)

omit [LawfulEqOrd κ] in
theorem sumValues_empty (f : β → Nat) : sumValues f (∅ : ExtTreeMap κ β) = 0 := by
  have he : (∅ : ExtTreeMap κ β).toList = [] := toList_eq_nil_iff.mpr rfl
  simp [sumValues, values, he]

omit [TransOrd κ] in
private theorem sum_entries_le {γ : Type*} (f : β → Nat) (key : γ → κ) (bound : γ → Nat) (entries : List (κ × β))
    (items : List γ) (hnodup : entries.Pairwise fun a b => compare a.1 b.1 ≠ .eq)
    (h : ∀ entry ∈ entries, ∃ item ∈ items, key item = entry.1 ∧ f entry.2 ≤ bound item) :
    (entries.map fun entry => f entry.2).sum ≤ (items.map bound).sum := by
  classical
  induction entries generalizing items with
  | nil => exact Nat.zero_le _
  | cons entry rest ih =>
    obtain ⟨item, hitem, hkey, hle⟩ := h entry mem_cons_self
    rw [pairwise_cons] at hnodup
    have hrest : (rest.map fun entry => f entry.2).sum ≤ ((items.erase item).map bound).sum := by
      refine ih _ hnodup.2 fun other hother => ?_
      obtain ⟨item', hitem', hkey', hle'⟩ := h other (mem_cons_of_mem _ hother)
      refine ⟨item', (mem_erase_of_ne ?_).mpr hitem', hkey', hle'⟩
      rintro rfl
      exact hnodup.1 other hother (compare_eq_iff_eq.mpr (hkey.symm.trans hkey'))
    have hsplit := ((perm_cons_erase hitem).map bound).sum_eq
    simp only [map_cons, sum_cons] at hsplit ⊢
    omega

theorem sumValues_le_sum {γ : Type*} (f : β → Nat) (m : ExtTreeMap κ β) (items : List γ) (key : γ → κ)
    (bound : γ → Nat) (h : ∀ k v, m[k]? = some v → ∃ item ∈ items, key item = k ∧ f v ≤ bound item) :
    sumValues f m ≤ (items.map bound).sum := by
  have hsum := sum_entries_le f key bound m.toList items m.distinct_keys_toList ?_
  · simpa [sumValues, values, Function.comp_def] using hsum
  · intro entry hentry
    exact h entry.1 entry.2 (mem_toList_iff_getElem?_eq_some.mp hentry)

variable {k other : κ} {m : ExtTreeMap κ β} {v found : β}

theorem insert_ne (m : ExtTreeMap κ β) (v : β) (h : k ≠ other) : (m.insert k v)[other]? = m[other]? := by
  rw [ExtTreeMap.getElem?_insert, if_neg]
  exact fun hcmp => h (compare_eq_iff_eq.mp hcmp)

theorem found_insert (h : (m.insert k v)[other]? = some found) :
    k = other ∧ v = found ∨ k ≠ other ∧ m[other]? = some found := by
  by_cases hk : k = other
  · subst hk
    rw [getElem?_insert_self] at h
    exact .inl ⟨rfl, Option.some.inj h⟩
  · rw [insert_ne m v hk] at h
    exact .inr ⟨hk, h⟩

theorem all_insert {p : κ → β → Prop} (h : ∀ other found, m[other]? = some found → p other found) (hnew : p k v) :
    ∀ other found, (m.insert k v)[other]? = some found → p other found := by
  intro other found hfound
  rcases found_insert hfound with ⟨rfl, rfl⟩ | ⟨_, hold⟩
  · exact hnew
  · exact h other found hold

theorem insert_fresh (v : β) (hfresh : m[k]? = none)
    (h : m[other]? = some found) : (m.insert k v)[other]? = some found := by
  rw [insert_ne m v, h]
  rintro rfl
  rw [h] at hfresh
  cases hfresh

omit [LawfulEqOrd κ] in
theorem size_replace (v : β) (h : m[k]? = some old) : (m.insert k v).size = m.size := by
  rw [ExtTreeMap.size_insert, contains_eq_isSome_getElem?, h]
  rfl

omit [LawfulEqOrd κ] in
theorem size_insert_succ_iff (m : ExtTreeMap κ β) (k : κ) (v : β) :
    (m.insert k v).size = m.size + 1 ↔ m[k]? = none := by
  cases h : m[k]? with
  | none => simp [ExtTreeMap.size_insert, contains_eq_isSome_getElem?, h]
  | some old => simp [size_replace v h]

theorem insert_erase (h : m[k]? = some v) : (m.erase k).insert k v = m := by
  refine ExtTreeMap.ext_getElem? fun other => ?_
  rw [ExtTreeMap.getElem?_insert, ExtTreeMap.getElem?_erase]
  by_cases hk : compare k other = .eq
  · rw [if_pos hk, ← eq_of_compare hk, h]
  · rw [if_neg hk, if_neg hk]

theorem erase_insert (h : m[k]? = none) : (m.insert k v).erase k = m := by
  apply ExtTreeMap.ext_getElem?
  intro other
  rw [ExtTreeMap.getElem?_erase, ExtTreeMap.getElem?_insert]
  by_cases hk : compare k other = .eq
  · rw [if_pos hk, ← eq_of_compare hk, h]
  · rw [if_neg hk, if_neg hk]

theorem sumValues_erase (f : β → Nat) (h : m[k]? = some v) : sumValues f (m.erase k) + f v = sumValues f m := by
  have hinsert := sumValues_insert f (m.erase k) k v
  rw [insert_erase h, getElem?_erase_self] at hinsert
  exact hinsert.symm

theorem erase_ne (m : ExtTreeMap κ β) (h : k ≠ other) : (m.erase k)[other]? = m[other]? := by
  rw [getElem?_erase, if_neg fun heq => h (eq_of_compare heq)]

theorem found_erase (h : (m.erase k)[other]? = some v) : other ≠ k ∧ m[other]? = some v := by
  have hne : k ≠ other := by
    rintro rfl
    rw [getElem?_erase_self] at h
    cases h
  exact ⟨hne.symm, (erase_ne m hne).symm.trans h⟩

omit [LawfulEqOrd κ] in
theorem sumValues_congr {f g : β → Nat} (h : ∀ v ∈ values m, f v = g v) : sumValues f m = sumValues g m := by
  rw [sumValues, map_congr_left h]
  rfl

omit [LawfulEqOrd κ] in
theorem sumValues_zero (m : ExtTreeMap κ β) : sumValues (fun _ => 0) m = 0 := by
  simp [sumValues]

omit [LawfulEqOrd κ] in
theorem length_filter_values (p : β → Bool) (m : ExtTreeMap κ β) :
    ((values m).filter p).length = sumValues (fun v => if p v then 1 else 0) m := by
  rw [sumValues]
  induction values m with
  | nil => rfl
  | cons v rest ih => cases hp : p v <;> simp [hp, ih, Nat.add_comm]

/-- A table that holds what was read so far. -/
def Holds (entries : List (κ × β)) (m : ExtTreeMap κ β) : Prop := ∀ k v, m[k]? = some v ↔ (k, v) ∈ entries

/-- A loop that inserts a map's entries under their keys, with changed values, rebuilds it. -/
theorem foldlM_rebuild {ε α γ : Type} {β : Type} {κ : Type} [Ord κ] [TransOrd κ] [LawfulEqOrd κ]
    (m : ExtTreeMap κ β) (save : κ × β → α) (g : β → γ) (step : ExtTreeMap κ γ → α → Except ε (ExtTreeMap κ γ))
    (hstep : ∀ state k v, m[k]? = some v → state[k]? = none → step state (save (k, v)) = .ok (state.insert k (g v))) :
    (m.toList.map save).foldlM step ∅ = Except.ok (m.map fun _ v => g v) := by
  have hkeys : (m.toList.map Prod.fst).Nodup := by
    rw [map_fst_toList_eq_keys]
    exact nodup_keys
  have hloop := Fallible.foldlM_succeeds (fun state entry => step state (save entry))
    (fun done state => Holds (done.map fun entry => (entry.1, g entry.2)) state) m.toList [] ?_ ∅ (by simp [Holds])
  · obtain ⟨last, hlast, hholds⟩ := hloop
    rw [foldlM_map, hlast]
    refine congrArg _ (ext_getElem? fun k => Option.ext fun v => ?_)
    rw [hholds]
    simp [mem_toList_iff_getElem?_eq_some, eq_comm]
  · rintro before state ⟨k, v⟩ after hsplit hholds
    rw [nil_append] at hsplit
    have hmem : (k, v) ∈ m.toList := by rw [hsplit]; simp
    have hfresh : state[k]? = none := by
      rw [Option.eq_none_iff_forall_ne_some]
      intro w hw
      obtain ⟨⟨k', v'⟩, hbefore, hsame⟩ := mem_map.mp ((hholds k w).mp hw)
      obtain rfl := congrArg Prod.fst hsame
      rw [hsplit, map_append, map_cons] at hkeys
      exact disjoint_of_nodup_append hkeys (mem_map_of_mem hbefore) mem_cons_self
    refine ⟨_, hstep state k v (mem_toList_iff_getElem?_eq_some.mp hmem) hfresh, ?_⟩
    intro other w
    rw [map_append, mem_append, ← hholds other w]
    by_cases hk : k = other
    · subst hk
      simp [hfresh, eq_comm]
    · rw [insert_ne _ _ hk]
      simp [Ne.symm hk]

theorem first_least {keys : ExtTreeSet κ} (h : keys.toList.head? = some k) :
    k ∈ keys ∧ ∀ other ∈ keys, other ≠ k → compare k other = .lt := by
  obtain ⟨rest, hlist⟩ : ∃ rest, keys.toList = k :: rest := head?_eq_some_iff.mp h
  have hordered := keys.ordered_toList
  rw [hlist, pairwise_cons] at hordered
  refine ⟨mem_toList.mp (hlist ▸ mem_cons_self), ?_⟩
  intro other hother hne
  rw [← mem_toList, hlist] at hother
  rcases mem_cons.mp hother with rfl | hmem
  · exact absurd rfl hne
  · exact hordered.1 other hmem

theorem mem_filter_set (keys : ExtTreeSet κ) (p : κ → Bool) (k : κ) : k ∈ keys.filter p ↔ k ∈ keys ∧ p k = true := by
  rw [← ExtTreeSet.mem_toList, ExtTreeSet.toList_filter, mem_filter, ExtTreeSet.mem_toList]

theorem mem_insert_set (keys : ExtTreeSet κ) (k other : κ) : other ∈ keys.insert k ↔ other = k ∨ other ∈ keys := by
  rw [ExtTreeSet.mem_insert, LawfulEqOrd.compare_eq_iff_eq, @eq_comm _ k]

theorem ofList_toList [BEq κ] [LawfulBEq κ] (keys : ExtTreeSet κ) : ExtTreeSet.ofList keys.toList = keys := by
  apply ext_mem
  intro k
  rw [ExtTreeSet.mem_ofList, List.contains_iff_mem, ExtTreeSet.mem_toList]

theorem lookup_insert {α : Type*} (key : α → κ) {items : List α} {m : ExtTreeMap κ α} {last : α}
    (h : ∀ k item, m[k]? = some item ↔ item ∈ items ∧ key item = k) (hfresh : ∀ item ∈ items, key item ≠ key last)
    (k : κ) (item : α) : (m.insert (key last) last)[k]? = some item ↔ item ∈ items ++ [last] ∧ key item = k := by
  rw [ExtTreeMap.getElem?_insert, mem_append, mem_singleton]
  split
  · rename_i hcmp
    obtain rfl := LawfulEqOrd.compare_eq_iff_eq.mp hcmp
    constructor
    · intro he
      cases he
      exact ⟨.inr rfl, rfl⟩
    · rintro ⟨hmem | rfl, hkey⟩
      · exact absurd hkey (hfresh item hmem)
      · rfl
  · rename_i hcmp
    rw [h]
    constructor
    · rintro ⟨hmem, hkey⟩
      exact ⟨.inl hmem, hkey⟩
    · rintro ⟨hmem | rfl, hkey⟩
      · exact ⟨hmem, hkey⟩
      · exact absurd (LawfulEqOrd.compare_eq_iff_eq.mpr hkey) hcmp

section Collect
variable {α ε : Type*} (check : α → Except ε Unit) (duplicate : α → ε) (key : α → κ)

/-- One step of a table under a unique key: the item's own check comes first. -/
def collectStep (m : ExtTreeMap κ α) (item : α) : Except ε (ExtTreeMap κ α) :=
  match check item with
  | .error e => .error e
  | .ok () => if m.contains (key item) then .error (duplicate item) else .ok (m.insert (key item) item)

/-- The items by key, or the first failed check or repeated key. -/
def collectUnique (items : List α) : Except ε (ExtTreeMap κ α) :=
  items.foldlM (collectStep check duplicate key) ∅

omit [LawfulEqOrd κ] in
private theorem collectStep_ok {m m' : ExtTreeMap κ α} (h : collectStep check duplicate key m item = .ok m') :
    check item = .ok () ∧ key item ∉ m ∧ m' = m.insert (key item) item := by
  unfold collectStep at h
  cases hc : check item with
  | error e => simp [hc] at h
  | ok u =>
    simp only [hc] at h
    split at h
    · cases h
    · rename_i hn
      exact ⟨rfl, by simpa using hn, (Except.ok.inj h).symm⟩

/-- What a finished table says about its list. -/
structure Collected (items : List α) (m : ExtTreeMap κ α) : Prop where
  checked : ∀ item ∈ items, check item = .ok ()
  nodup : (items.map key).Nodup
  lookup : ∀ (k : κ) (item : α), m[k]? = some item ↔ item ∈ items ∧ key item = k

private theorem collectStep_collected {items : List α} {m m' : ExtTreeMap κ α} {last : α}
    (hb : Collected check key items m) (hstep : collectStep check duplicate key m last = .ok m') :
    Collected check key (items ++ [last]) m' := by
  obtain ⟨hc, hnew, rfl⟩ := collectStep_ok check duplicate key hstep
  have hfresh : ∀ item ∈ items, key item ≠ key last := by
    intro item hitem heq
    have hfound := (hb.lookup (key last) item).mpr ⟨hitem, heq⟩
    exact hnew (mem_iff_isSome_getElem?.mpr (by simp [hfound]))
  refine ⟨?_, ?_, ?_⟩
  · intro item hitem
    rcases mem_append.mp hitem with hitem | hitem
    · exact hb.checked item hitem
    · rw [mem_singleton.mp hitem]
      exact hc
  · rw [map_append]
    refine hb.nodup.append (by simp) ?_
    intro k hk hk'
    obtain ⟨item, hitem, rfl⟩ := mem_map.mp hk
    exact hfresh item hitem (by simpa using hk')
  · exact lookup_insert key hb.lookup hfresh

theorem collectUnique_ok (items : List α) (m : ExtTreeMap κ α)
    (h : collectUnique check duplicate key items = .ok m) : Collected check key items m :=
  Fallible.foldlM_keeps (collectStep check duplicate key) (Collected check key)
    (fun _ _ _ _ hb hstep => collectStep_collected check duplicate key hb hstep) items [] ∅ m
    ⟨by simp, by simp, by simp⟩ h

/-- The items under each key, in list order. -/
def group (items : List α) : ExtTreeMap κ (List α) :=
  items.foldl (fun m item => m.insert (key item) (m[key item]?.getD [] ++ [item])) ∅

theorem mem_group (items : List α) (k : κ) (item : α) :
    item ∈ (group key items)[k]?.getD [] ↔ item ∈ items ∧ key item = k := by
  induction items using reverseRecOn generalizing item with
  | nil => simp [group]
  | append_singleton items last ih =>
    have hg : group key (items ++ [last]) =
        (group key items).insert (key last) ((group key items)[key last]?.getD [] ++ [last]) := by
      simp [group]
    rw [hg, ExtTreeMap.getElem?_insert]
    split
    · rename_i hcmp
      obtain rfl := compare_eq_iff_eq.mp hcmp
      simp only [Option.getD_some, mem_append, ih, mem_singleton]
      constructor
      · rintro (⟨hmem, hkey⟩ | rfl)
        · exact ⟨.inl hmem, hkey⟩
        · exact ⟨.inr rfl, rfl⟩
      · rintro ⟨hmem | rfl, hkey⟩
        · exact .inl ⟨hmem, hkey⟩
        · exact .inr rfl
    · rename_i hcmp
      rw [ih]
      constructor
      · rintro ⟨hmem, rfl⟩
        exact ⟨mem_append_left _ hmem, rfl⟩
      · rintro ⟨hmem, rfl⟩
        rcases mem_append.mp hmem with hmem | hmem
        · exact ⟨hmem, rfl⟩
        · rw [mem_singleton.mp hmem] at hcmp
          exact absurd ReflOrd.compare_self hcmp

end Collect

theorem nodup_of_size_ofList [BEq κ] [LawfulBEq κ] {items : List κ}
    (h : (ofList items).size = items.length) : items.Nodup := by
  have hnodup : (ofList items).toList.Nodup := by
    refine (distinct_toList).imp ?_
    rintro a _ hne rfl
    exact hne ReflOrd.compare_self
  have hsubset : (ofList items).toList ⊆ items := by
    intro item hitem
    rw [ExtTreeSet.mem_toList, ExtTreeSet.mem_ofList] at hitem
    simpa using hitem
  have hlength : items.length ≤ (ofList items).toList.length := by
    rw [ExtTreeSet.length_toList, h]
  exact ((subperm_of_subset hnodup hsubset).perm_of_length_le hlength).nodup_iff.mp hnodup

end OrderedMap
