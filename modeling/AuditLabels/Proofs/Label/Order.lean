import Mathlib
import AuditLabels.Label.Lookup

/-!
# Codes in order

The members of a vocabulary are declared, listed and coded in one order.  So whoever sorts the
members that a list of codes names, by their declaration, has them as the catalog lists them: in
ascending order of codes, each once, and whatever order the codes were given in.
-/

namespace AuditLabels

namespace Vocabulary

/-! ## One order -/

/-- Two ascending readings of one list order its members alike. -/
theorem lt_iff_lt_of_ascending {α β γ : Type} [LinearOrder β] [LinearOrder γ] {f : α → β}
    {g : α → γ} {xs : List α} (hf : (xs.map f).Pairwise (· < ·)) (hg : (xs.map g).Pairwise (· < ·))
    {x y : α} (hx : x ∈ xs) (hy : y ∈ xs) : f x < f y ↔ g x < g y := by
  have hboth : xs.Pairwise fun x y => f x < f y ∧ g x < g y :=
    (List.pairwise_map.1 hf).and (List.pairwise_map.1 hg)
  have halike : ∀ ⦃x⦄, x ∈ xs → ∀ ⦃y⦄, y ∈ xs → (f x < f y ↔ g x < g y) := by
    refine List.Pairwise.forall_of_forall_of_flip ?_ ?_ ?_
    · exact fun x _ => iff_of_false (lt_irrefl _) (lt_irrefl _)
    · exact hboth.imp fun h => iff_of_true h.1 h.2
    · exact hboth.imp fun h => iff_of_false h.1.asymm h.2.asymm
  exact halike hx hy

/-- The members are declared in the order in which they are listed. -/
def InOrder (α : Type) [Vocabulary α] : Prop := ((all : List α).map rank).Pairwise (· < ·)

variable {α : Type} [Vocabulary α]

/-- The order of declaration is the order of codes. -/
theorem InOrder.rank_le_iff (h : InOrder α) (x y : α) : rank x ≤ rank y ↔ code x ≤ code y := by
  have hlt : rank y < rank x ↔ code y < code x :=
    lt_iff_lt_of_ascending h ascending (mem_all y) (mem_all x)
  rw [← not_lt, hlt, not_lt]

/-! ## Repeats -/

@[simp] theorem mem_dropRepeats {β : Type} [DecidableEq β] (z : β) (xs : List β) :
    z ∈ dropRepeats xs ↔ z ∈ xs := by
  induction xs using dropRepeats.induct with
  | case1 => rfl
  | case2 x => rfl
  | case3 y r ih =>
    rw [dropRepeats, if_pos rfl, ih]
    simp
  | case4 x y r hne ih =>
    rw [dropRepeats, if_neg hne, List.mem_cons, ih, List.mem_cons (a := z) (b := x)]

/-- Where equal members stand side by side, no member is left twice. -/
theorem ascending_dropRepeats [DecidableEq α] {xs : List α} (h : (xs.map code).Pairwise (· ≤ ·)) :
    ((dropRepeats xs).map code).Pairwise (· < ·) := by
  induction xs using dropRepeats.induct with
  | case1 => exact List.Pairwise.nil
  | case2 x => exact List.pairwise_singleton _ _
  | case3 y r ih =>
    rw [dropRepeats, if_pos rfl]
    exact ih h.of_cons
  | case4 x y r hne ih =>
    rw [dropRepeats, if_neg hne, List.map_cons, List.pairwise_cons]
    refine ⟨?_, ih h.of_cons⟩
    rw [List.map_cons, List.pairwise_cons] at h
    have hlt : code x < code y :=
      lt_of_le_of_ne (h.1 _ List.mem_cons_self) fun heq => hne (code_injective heq)
    -- what follows has at least the code of the next member
    have hnext : ∀ c ∈ (y :: r).map code, code y ≤ c := by
      intro c hc
      rcases List.mem_cons.1 hc with rfl | hc
      · exact le_rfl
      · exact (List.pairwise_cons.1 h.2).1 c hc
    intro c hc
    obtain ⟨z, hz, rfl⟩ := List.mem_map.1 hc
    exact hlt.trans_le (hnext _ (List.mem_map_of_mem ((mem_dropRepeats z _).1 hz)))

/-! ## Sorting -/

section Sorting

variable [DecidableEq α] (codes : List Int)

theorem mem_sorted (x : α) : x ∈ sorted codes ↔ code x ∈ codes := by
  rw [sorted, mem_dropRepeats, List.mem_mergeSort, List.mem_filterMap]
  constructor
  · rintro ⟨c, hc, hx⟩
    rw [ofCode?_eq_some_iff.1 hx]
    exact hc
  · intro hx
    exact ⟨code x, hx, ofCode?_eq_some_iff.2 rfl⟩

theorem ascending_sorted (h : InOrder α) :
    ((sorted codes : List α).map code).Pairwise (· < ·) := by
  apply ascending_dropRepeats
  have hsort : ((codes.filterMap ofCode?).mergeSort fun x y : α => rank x ≤ rank y).Pairwise
      fun x y => decide (rank x ≤ rank y) = true :=
    List.pairwise_mergeSort (by simpa using fun _ _ _ => le_trans)
      (by simpa using fun x y => le_total (rank x) (rank y)) _
  refine List.pairwise_map.2 (hsort.imp ?_)
  intro x y hxy
  exact (h.rank_le_iff x y).1 (of_decide_eq_true hxy)

/-- The sorted members are those of the list of all members whose codes are there. -/
theorem sorted_eq_filter (h : InOrder α) :
    (sorted codes : List α) = all.filter fun x => code x ∈ codes := by
  -- ascending lists of codes are the same if they have the same members
  apply List.map_injective_iff.2 fun x y => code_injective
  have hlisted : (((all : List α).filter fun x => code x ∈ codes).map code).Pairwise (· < ·) :=
    ascending.sublist (List.filter_sublist.map code)
  refine List.Pairwise.eq_of_mem_iff (ascending_sorted codes h) hlisted fun c => ?_
  simp only [List.mem_map, mem_sorted, List.mem_filter, decide_eq_true_eq, mem_all, true_and]

end Sorting

/-- What becomes of codes that are sorted as members of a vocabulary with a catalog: the members
are in the order of the list of all members, and the codes in that of the catalog.  The order of the
codes, repeated ones and those of no member make no difference. -/
structure SortsAs (α : Type) [Vocabulary α] [DecidableEq α] (catalog : List Entry)
    (codes : List Int) : Prop where
  order : ∀ x y : α, rank x ≤ rank y ↔ code x ≤ code y
  members : (sorted codes : List α) = all.filter fun x => code x ∈ codes
  ascending : ((sorted codes : List α).map code).Pairwise (· < ·)
  sublist : ((sorted codes : List α).map code).Sublist (catalog.map Entry.code)
  only_members : ∀ other : List Int, (∀ x : α, code x ∈ other ↔ code x ∈ codes) →
    (sorted other : List α) = sorted codes

theorem sortsAs_of_inOrder [DecidableEq α] (h : InOrder α) (codes : List Int) :
    SortsAs α ((all : List α).map Entry.of) codes where
  order := h.rank_le_iff
  members := sorted_eq_filter codes h
  ascending := ascending_sorted codes h
  sublist := by
    rw [sorted_eq_filter codes h, List.map_map]
    exact List.filter_sublist.map code
  only_members other hother := by
    rw [sorted_eq_filter other h, sorted_eq_filter codes h]
    simp only [hother]

/-- **Sorted codes are in the order of the catalog.**  Whatever codes there are, the actions among
them and the resources among them are sorted into the part of the catalog that they make up. -/
theorem sorted_as_catalog (codes : List Int) :
    SortsAs Action Namespace.action.catalog codes ∧
      SortsAs Resource Namespace.resource.catalog codes := by
  have hactions : InOrder Action := by
    unfold InOrder
    decide
  have hresources : InOrder Resource := by
    unfold InOrder
    decide
  exact ⟨sortsAs_of_inOrder hactions codes, sortsAs_of_inOrder hresources codes⟩

example : (sorted [301, 5, 10, -1, 301, 1] : List Action) =
    [.settingsUpdate, .panelCreate, .botStaffRemove] := by
  cbv

end Vocabulary

end AuditLabels
