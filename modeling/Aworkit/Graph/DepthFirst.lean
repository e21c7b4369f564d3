import Mathlib

/-! Depth-first search that refuses an edge into its own path. In the list of closed nodes every edge leads to an
earlier close. -/
namespace DepthFirst
open List
variable {α ε : Type*} [DecidableEq α]

/-- Visits the targets of labelled edges, refusing one on the path. -/
def visitEdges (visit : α → List α → Option (Except ε (List α))) (path : List α) :
    List (ε × α) → List α → Option (Except ε (List α))
  | [], closed => some (.ok closed)
  | (label, target) :: rest, closed =>
    if target ∈ path then some (.error label)
    else
      match visit target closed with
      | none => none
      | some (.error e) => some (.error e)
      | some (.ok closed') => visitEdges visit path rest closed'

/-- Closes a node after all it leads to; `none` when the fuel gives out. -/
def visit (edges : α → List (ε × α)) : Nat → List α → α → List α → Option (Except ε (List α))
  | 0, _, _, _ => none
  | fuel + 1, path, node, closed =>
    if node ∈ closed then some (.ok closed)
    else
      match visitEdges (visit edges fuel (node :: path)) (node :: path) (edges node) closed with
      | none => none
      | some (.error e) => some (.error e)
      | some (.ok closed') => some (.ok (node :: closed'))

def visitRoots (edges : α → List (ε × α)) (fuel : Nat) : List α → List α → Option (Except ε (List α))
  | [], closed => some (.ok closed)
  | node :: rest, closed =>
    match visit edges fuel [] node closed with
    | none => none
    | some (.error e) => some (.error e)
    | some (.ok closed') => visitRoots edges fuel rest closed'

section Fuel
variable (edges : α → List (ε × α)) (nodes : List α)

private theorem visitEdges_isSome (visit : α → List α → Option (Except ε (List α))) (path : List α)
    (es : List (ε × α)) (h : ∀ e ∈ es, e.2 ∉ path → ∀ closed, (visit e.2 closed).isSome = true)
    (closed : List α) : (visitEdges visit path es closed).isSome = true := by
  induction es generalizing closed with
  | nil => rfl
  | cons e rest ih =>
    obtain ⟨label, target⟩ := e
    unfold visitEdges
    split
    · rfl
    · rename_i hp
      have ht := h (label, target) mem_cons_self hp closed
      cases hv : visit target closed with
      | none =>
        rw [hv] at ht
        cases ht
      | some result =>
        cases result with
        | error e => rfl
        | ok closed' => exact ih (fun e he => h e (mem_cons_of_mem _ he)) closed'

/-- The path holds distinct nodes, so fuel for all nodes is enough. -/
theorem visit_isSome (hclosed : ∀ node, ∀ e ∈ edges node, e.2 ∈ nodes) (fuel : Nat) (path : List α) (node : α)
    (closed : List α) (hnode : node ∈ nodes) (hfresh : node ∉ path) (hnodup : path.Nodup) (hpath : path ⊆ nodes)
    (hfuel : nodes.length ≤ fuel + path.length) : (visit edges fuel path node closed).isSome = true := by
  have hcard : path.length + 1 ≤ nodes.length := by
    have hsub : (node :: path).Subperm nodes :=
      subperm_of_subset (nodup_cons.mpr ⟨hfresh, hnodup⟩) (cons_subset.mpr ⟨hnode, hpath⟩)
    simpa using hsub.length_le
  induction fuel generalizing path node closed with
  | zero => omega
  | succ fuel ih =>
    unfold visit
    split
    · rfl
    · have hrest : (visitEdges (visit edges fuel (node :: path)) (node :: path) (edges node) closed).isSome =
          true := by
        refine visitEdges_isSome _ _ _ (fun e he hp closed => ?_) closed
        have hnodup' : (node :: path).Nodup := nodup_cons.mpr ⟨hfresh, hnodup⟩
        have hpath' : node :: path ⊆ nodes := cons_subset.mpr ⟨hnode, hpath⟩
        have htarget := hclosed node e he
        refine ih (node :: path) e.2 closed htarget hp hnodup' hpath' (by simp only [length_cons]; omega) ?_
        have hsub : (e.2 :: node :: path).Subperm nodes :=
          subperm_of_subset (nodup_cons.mpr ⟨hp, hnodup'⟩) (cons_subset.mpr ⟨htarget, hpath'⟩)
        simpa using hsub.length_le
      cases hv : visitEdges (visit edges fuel (node :: path)) (node :: path) (edges node) closed with
      | none =>
        rw [hv] at hrest
        cases hrest
      | some result =>
        cases result with
        | error e => rfl
        | ok closed' => rfl

theorem visitRoots_isSome (hclosed : ∀ node, ∀ e ∈ edges node, e.2 ∈ nodes) (roots : List α) (hroots : roots ⊆ nodes)
    (closed : List α) : (visitRoots edges nodes.length roots closed).isSome = true := by
  induction roots generalizing closed with
  | nil => rfl
  | cons node rest ih =>
    obtain ⟨hnode, hrest⟩ := cons_subset.mp hroots
    have hv := visit_isSome edges nodes hclosed nodes.length [] node closed hnode (by simp) (by simp)
      (by simp) (by simp)
    unfold visitRoots
    cases he : visit edges nodes.length [] node closed with
    | none =>
      rw [he] at hv
      cases hv
    | some result =>
      cases result with
      | error e => rfl
      | ok closed' => exact ih hrest closed'

end Fuel

/-- The search from all roots: the closed nodes, last close first, or the label of the edge that closed a cycle. -/
def search (edges : α → List (ε × α)) (roots targets : List α)
    (h : ∀ node, ∀ e ∈ edges node, e.2 ∈ targets) : Except ε (List α) :=
  (visitRoots edges (roots ++ targets).length roots []).get
    (visitRoots_isSome edges (roots ++ targets) (fun node e he => mem_append_right _ (h node e he)) roots
      (subset_append_left _ _) [])

section Order
variable (edges : α → List (ε × α))

/-- Every edge of a listed node leads into the rest of the list. -/
def Ordered : List α → Prop
  | [] => True
  | node :: rest => (∀ e ∈ edges node, e.2 ∈ rest) ∧ Ordered rest

/-- The position of a node counted from the end of the list. -/
def rank (node : α) : List α → Nat
  | [] => 0
  | first :: rest => if node = first then rest.length else rank node rest

theorem rank_lt (node : α) (closed : List α) (h : closed ≠ []) : rank node closed < closed.length := by
  induction closed with
  | nil => exact absurd rfl h
  | cons first rest ih =>
    unfold rank
    split
    · simp
    · cases rest with
      | nil => simp [rank]
      | cons second rest =>
        have hr := ih (by simp)
        simp only [length_cons] at hr ⊢
        omega

omit [DecidableEq α] in
theorem Ordered.mem_target (closed : List α) (hordered : Ordered edges closed) (node : α) (hnode : node ∈ closed)
    (e : ε × α) (he : e ∈ edges node) : e.2 ∈ closed := by
  induction closed with
  | nil => simp at hnode
  | cons first rest ih =>
    obtain ⟨hfirst, hrest⟩ := hordered
    rcases mem_cons.mp hnode with rfl | hnode
    · exact mem_cons_of_mem _ (hfirst e he)
    · exact mem_cons_of_mem _ (ih hrest hnode)

theorem rank_edge_lt (closed : List α) (hordered : Ordered edges closed) (hnodup : closed.Nodup) (node : α)
    (hnode : node ∈ closed) (e : ε × α) (he : e ∈ edges node) : rank e.2 closed < rank node closed := by
  induction closed with
  | nil => simp at hnode
  | cons first rest ih =>
    obtain ⟨hfirst, hrest⟩ := hordered
    obtain ⟨hnotin, hnodup⟩ := nodup_cons.mp hnodup
    have hlift : ∀ target ∈ rest, rank target (first :: rest) = rank target rest := by
      intro target ht
      have hne : target ≠ first := by
        rintro rfl
        exact hnotin ht
      simp [rank, hne]
    by_cases hn : node = first
    · subst hn
      have ht := hfirst e he
      have hlt := rank_lt e.2 rest (ne_nil_of_mem ht)
      rw [hlift e.2 ht]
      simpa [rank] using hlt
    · have hmem : node ∈ rest := by simpa [hn] using hnode
      have htarget := Ordered.mem_target edges rest hrest node hmem e he
      rw [hlift e.2 htarget, hlift node hmem]
      exact ih hrest hnodup hmem

/-- What the search keeps of its closed nodes while it stands on a path. -/
structure Sound (nodes path closed : List α) : Prop where
  ordered : Ordered edges closed
  nodup : closed.Nodup
  apart : ∀ node ∈ closed, node ∉ path
  within : closed ⊆ nodes

variable (nodes : List α)

private theorem visitEdges_sound (visit : α → List α → Option (Except ε (List α))) (path : List α)
    (hvisit : ∀ target closed closed', target ∉ path → target ∈ nodes → Sound edges nodes path closed →
      visit target closed = some (.ok closed') →
      Sound edges nodes path closed' ∧ closed ⊆ closed' ∧ target ∈ closed')
    (es : List (ε × α)) (hes : ∀ e ∈ es, e.2 ∈ nodes) (closed closed' : List α)
    (hs : Sound edges nodes path closed) (h : visitEdges visit path es closed = some (.ok closed')) :
    Sound edges nodes path closed' ∧ closed ⊆ closed' ∧ ∀ e ∈ es, e.2 ∈ closed' := by
  induction es generalizing closed with
  | nil =>
    obtain rfl := Except.ok.inj (Option.some.inj h)
    exact ⟨hs, List.Subset.refl _, by simp⟩
  | cons e rest ih =>
    obtain ⟨label, target⟩ := e
    unfold visitEdges at h
    split at h
    · cases h
    · rename_i hp
      cases hv : visit target closed with
      | none => simp [hv] at h
      | some result =>
        cases result with
        | error e => simp [hv] at h
        | ok middle =>
          simp only [hv] at h
          have ht := hes (label, target) mem_cons_self
          obtain ⟨hm, hsub, hmem⟩ := hvisit target closed middle hp ht hs hv
          obtain ⟨hc, hsub', hall⟩ := ih (fun e he => hes e (mem_cons_of_mem _ he)) middle hm h
          refine ⟨hc, List.Subset.trans hsub hsub', ?_⟩
          intro e he
          rcases mem_cons.mp he with rfl | he
          · exact hsub' hmem
          · exact hall e he

theorem visit_sound (hclosed : ∀ node, ∀ e ∈ edges node, e.2 ∈ nodes) (fuel : Nat) (path : List α) (node : α)
    (closed closed' : List α) (hfresh : node ∉ path) (hnode : node ∈ nodes)
    (hs : Sound edges nodes path closed) (h : visit edges fuel path node closed = some (.ok closed')) :
    Sound edges nodes path closed' ∧ closed ⊆ closed' ∧ node ∈ closed' := by
  induction fuel generalizing path node closed closed' with
  | zero => cases h
  | succ fuel ih =>
    unfold visit at h
    split at h
    · rename_i hmem
      obtain rfl := Except.ok.inj (Option.some.inj h)
      exact ⟨hs, List.Subset.refl _, hmem⟩
    · rename_i hopen
      cases hv : visitEdges (visit edges fuel (node :: path)) (node :: path) (edges node) closed with
      | none => simp [hv] at h
      | some result =>
        cases result with
        | error e => simp [hv] at h
        | ok middle =>
          simp only [hv, Option.some.injEq, Except.ok.injEq] at h
          subst h
          have hs' : Sound edges nodes (node :: path) closed := by
            refine ⟨hs.ordered, hs.nodup, fun other ho => ?_, hs.within⟩
            have hne : other ≠ node := by
              rintro rfl
              exact hopen ho
            simp [hne, hs.apart other ho]
          obtain ⟨hm, hsub, hall⟩ := visitEdges_sound edges nodes (visit edges fuel (node :: path)) (node :: path)
            (fun target c c' hp ht hc hvt => ih (node :: path) target c c' hp ht hc hvt) (edges node)
            (hclosed node) closed middle hs' hv
          have hnotin : node ∉ middle := fun hin => hm.apart node hin mem_cons_self
          refine ⟨⟨⟨hall, hm.ordered⟩, nodup_cons.mpr ⟨hnotin, hm.nodup⟩, ?_, ?_⟩, ?_, mem_cons_self⟩
          · intro other ho
            rcases mem_cons.mp ho with rfl | ho
            · exact hfresh
            · exact fun hp => hm.apart other ho (mem_cons_of_mem _ hp)
          · exact cons_subset.mpr ⟨hnode, hm.within⟩
          · exact List.Subset.trans hsub (subset_cons_self _ _)

theorem visitRoots_sound (hclosed : ∀ node, ∀ e ∈ edges node, e.2 ∈ nodes) (fuel : Nat) (roots : List α)
    (hroots : roots ⊆ nodes) (closed closed' : List α) (hs : Sound edges nodes [] closed)
    (h : visitRoots edges fuel roots closed = some (.ok closed')) :
    Sound edges nodes [] closed' ∧ closed ⊆ closed' ∧ roots ⊆ closed' := by
  induction roots generalizing closed with
  | nil =>
    obtain rfl := Except.ok.inj (Option.some.inj h)
    exact ⟨hs, List.Subset.refl _, nil_subset _⟩
  | cons node rest ih =>
    obtain ⟨hnode, hrest⟩ := cons_subset.mp hroots
    unfold visitRoots at h
    cases hv : visit edges fuel [] node closed with
    | none => simp [hv] at h
    | some result =>
      cases result with
      | error e => simp [hv] at h
      | ok middle =>
        simp only [hv] at h
        obtain ⟨hm, hsub, hmem⟩ := visit_sound edges nodes hclosed fuel [] node closed middle (by simp) hnode hs hv
        obtain ⟨hc, hsub', hall⟩ := ih hrest middle hm h
        exact ⟨hc, List.Subset.trans hsub hsub', cons_subset.mpr ⟨hsub' hmem, hall⟩⟩

end Order

/-- An accepted search lists every root, without repetition and inside the graph, so that each edge goes down in
rank. -/
theorem search_ok (edges : α → List (ε × α)) (roots targets : List α)
    (h : ∀ node, ∀ e ∈ edges node, e.2 ∈ targets) (closed : List α) (hok : search edges roots targets h = .ok closed) :
    Ordered edges closed ∧ closed.Nodup ∧ roots ⊆ closed ∧ closed ⊆ roots ++ targets := by
  have hsome : visitRoots edges (roots ++ targets).length roots [] = some (.ok closed) := by
    rw [← hok, search, Option.some_get]
  have hin : ∀ node, ∀ e ∈ edges node, e.2 ∈ roots ++ targets :=
    fun node e he => mem_append_right _ (h node e he)
  obtain ⟨hs, _, hr⟩ := visitRoots_sound edges (roots ++ targets) hin _ roots (subset_append_left _ _) []
    closed ⟨trivial, nodup_nil, by simp, by simp⟩ hsome
  exact ⟨hs.ordered, hs.nodup, hr, hs.within⟩

end DepthFirst
