/-!
# Variables

Named texts that the service is set up from.  A variable keeps the first value it is given, so a
later definition of a name that is taken has no effect.
-/

namespace AuditLabels

/-- Names with values.  Where a name occurs twice, the first of its values counts. -/
structure Variables where
  bindings : List (String × String)
  deriving DecidableEq, Repr

namespace Variables

/-- No variable is set. -/
def empty : Variables := ⟨[]⟩

/-- The value of a variable, if it is set. -/
def get? (vars : Variables) (name : String) : Option String := vars.bindings.lookup name

/-- Give a variable a value, unless it has one. -/
def define (vars : Variables) (name value : String) : Variables :=
  if (vars.get? name).isSome then vars else ⟨(name, value) :: vars.bindings⟩

@[simp] theorem get?_empty (name : String) : empty.get? name = none := rfl

/-- A variable keeps its value; one that is not set takes the new one. -/
theorem get?_define (vars : Variables) (name value other : String) :
    (vars.define name value).get? other =
      (vars.get? other).or (if other = name then some value else none) := by
  unfold define
  split
  · rename_i h
    obtain ⟨v, hv⟩ := Option.isSome_iff_exists.1 h
    by_cases ho : other = name
    · simp [ho, hv]
    · simp [ho]
  · rename_i h
    have hn : vars.get? name = none := by simpa using h
    by_cases ho : other = name
    · subst ho
      rw [hn]
      simp [get?]
    · have hb : (other == name) = false := by simpa using ho
      simp [get?, List.lookup_cons, hb, ho]

/-- A variable that is set is not changed. -/
theorem get?_define_of_isSome {vars : Variables} {other : String} (h : (vars.get? other).isSome)
    (name value : String) : (vars.define name value).get? other = vars.get? other := by
  obtain ⟨v, hv⟩ := Option.isSome_iff_exists.1 h
  simp [get?_define, hv]

end Variables

end AuditLabels
