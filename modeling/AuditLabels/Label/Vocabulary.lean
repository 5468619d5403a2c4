/-!
# Vocabularies

A vocabulary is a finite set of coded things with a label for each, such as the actions or the
resources of an audit log.  Its members are listed once, in ascending order of their codes, so a
code names at most one member.
-/

namespace AuditLabels

/-- A finite type whose members carry distinct codes and labels for people to read. -/
class Vocabulary (α : Type) where
  /-- Every member, in ascending order of codes. -/
  all : List α
  /-- The code of a member in stored audit entries. -/
  code : α → Int
  /-- The label shown for a member. -/
  label : α → String
  /-- The name of a member. -/
  name : α → String
  /-- The place of a member among the declared ones. -/
  rank : α → Nat
  /-- The member with a code. -/
  ofCode? : Int → Option α
  /-- A code is read as the member that carries it, and as nothing if none does. -/
  ofCode?_eq_some_iff : ∀ {n x}, ofCode? n = some x ↔ code x = n
  mem_all : ∀ x, x ∈ all
  ascending : (all.map code).Pairwise (· < ·)

namespace Vocabulary

/-! ## From codes to members -/

/-- In a list with ascending codes, members with one code are equal. -/
theorem eq_of_code_eq {α : Type} {f : α → Int} {xs : List α}
    (hs : (xs.map f).Pairwise (· < ·)) {x y : α} (hx : x ∈ xs) (hy : y ∈ xs) (h : f x = f y) :
    x = y := by
  induction xs with
  | nil => simp at hx
  | cons a r ih =>
    rw [List.map_cons, List.pairwise_cons] at hs
    rcases List.mem_cons.1 hx with rfl | hx' <;> rcases List.mem_cons.1 hy with rfl | hy'
    · rfl
    · have := hs.1 _ (List.mem_map_of_mem hy'); omega
    · have := hs.1 _ (List.mem_map_of_mem hx'); omega
    · exact ih hs.2 hx' hy'

variable {α : Type} [Vocabulary α]

/-- **Codes are faithful.**  Two members with one code are equal. -/
theorem code_injective {x y : α} (h : code x = code y) : x = y :=
  eq_of_code_eq ascending (mem_all x) (mem_all y) h

/-! ## Sorting -/

/-- The list without the members that equal the one before them. -/
def dropRepeats [DecidableEq α] : List α → List α
  | [] => []
  | [x] => [x]
  | x :: y :: r => if x = y then dropRepeats (y :: r) else x :: dropRepeats (y :: r)

/-- The members named by a list of codes in the order of their declaration, each once. -/
def sorted [DecidableEq α] (codes : List Int) : List α :=
  dropRepeats ((codes.filterMap ofCode?).mergeSort fun x y => rank x ≤ rank y)

end Vocabulary

end AuditLabels
