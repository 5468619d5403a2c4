import AuditLabels.Proofs.Label.Agreement
import AuditLabels.Proofs.Text.Numeral

/-!
# Labels identify codes

Who sees a label knows its code.  A stored label stands in one entry of one catalog, and what is
said about a code without an entry is no stored label and quotes the code.
-/

namespace AuditLabels

/-! ## Stored labels -/

namespace Namespace

/-- The code has an entry in the catalog of the namespace. -/
def Knows (ns : Namespace) (c : Int) : Prop := ∃ e ∈ ns.catalog, e.code = c

theorem knows_iff (ns : Namespace) (c : Int) : ns.Knows c ↔ ∃ l, ns.label? c = some l := by
  constructor
  · rintro ⟨e, he, rfl⟩
    exact ⟨e.label, (ns.label?_eq_some_iff e.code e.label).2 he⟩
  · rintro ⟨l, hl⟩
    exact ⟨⟨c, l⟩, (ns.label?_eq_some_iff c l).1 hl, rfl⟩

/-- The entries of all catalogs, each with the namespace it is known in. -/
def stored : List (Namespace × Entry) :=
  [action, resource].flatMap fun ns => ns.catalog.map fun e => (ns, e)

theorem mem_stored {ns : Namespace} {e : Entry} (he : e ∈ ns.catalog) : (ns, e) ∈ stored := by
  have hns : ns ∈ [action, resource] := by
    cases ns <;> simp
  rw [stored, List.mem_flatMap]
  exact ⟨ns, hns, List.mem_map_of_mem he⟩

/-- No label is stored twice, in one catalog or in both. -/
theorem nodup_labels_stored : (stored.map fun p => p.2.label).Nodup := by
  decide

/-- A stored label stands in one entry of one catalog. -/
theorem eq_of_label_eq {n₁ n₂ : Namespace} {e f : Entry} (he : e ∈ n₁.catalog)
    (hf : f ∈ n₂.catalog) (h : e.label = f.label) : n₁ = n₂ ∧ e = f := by
  have hpair : (n₁, e) = (n₂, f) :=
    List.inj_on_of_nodup_map nodup_labels_stored (mem_stored he) (mem_stored hf) h
  exact Prod.mk.inj hpair

/-! ## Labels that quote their code -/

/-- No stored label begins like the ones that quote a code. -/
theorem not_unknown_prefix_stored :
    ∀ p ∈ stored, ¬ "Unknown (".toList <+: p.2.label.toList := by
  decide

end Namespace

theorem toList_unknownLabel (c : Int) :
    (unknownLabel c).toList = "Unknown (".toList ++ ((Text.ofInt c).toList ++ [')']) := by
  rw [unknownLabel, String.toList_append, String.toList_append, List.append_assoc]
  rfl

/-- **The code can be read off a label that quotes it.** -/
theorem unknownLabel_injective : Function.Injective unknownLabel := by
  intro c d h
  have hchars := congrArg String.toList h
  rw [toList_unknownLabel, toList_unknownLabel, List.append_cancel_left_eq,
    List.append_cancel_right_eq] at hchars
  exact Text.ofInt_injective (String.toList_injective hchars)

namespace Namespace

/-- A stored label is never mistaken for one that quotes a code. -/
theorem label_ne_unknownLabel {ns : Namespace} {e : Entry} (he : e ∈ ns.catalog) (d : Int) :
    e.label ≠ unknownLabel d := by
  intro h
  apply not_unknown_prefix_stored _ (mem_stored he)
  show "Unknown (".toList <+: e.label.toList
  rw [h, toList_unknownLabel]
  exact List.prefix_append _ _

/-! ## All labels -/

theorem label_of_mem {ns : Namespace} {e : Entry} (he : e ∈ ns.catalog) :
    ns.label e.code = e.label := by
  have hl : ns.label? e.code = some e.label := (ns.label?_eq_some_iff e.code e.label).2 he
  rw [label, hl, Option.getD_some]

theorem label_of_not_knows {ns : Namespace} {c : Int} (h : ¬ ns.Knows c) :
    ns.label c = unknownLabel c := by
  have hl : ns.label? c = none := by
    cases hl : ns.label? c with
    | none => rfl
    | some l => exact absurd ((ns.knows_iff c).2 ⟨l, hl⟩) h
  rw [label, hl, Option.getD_none]

end Namespace

/-- **Labels identify codes.**  Two codes have one label exactly if they are one code, asked for in
one namespace or in two that both do not know it.  No two entries share a label, whether they stand
in one catalog or in two, and no entry has the label of a code without one. -/
theorem labels_identify_codes (n₁ n₂ : Namespace) (c₁ c₂ : Int) :
    (n₁.label c₁ = n₂.label c₂ ↔ c₁ = c₂ ∧ (n₁ = n₂ ∨ ¬ n₁.Knows c₁ ∧ ¬ n₂.Knows c₁)) ∧
      (∀ e ∈ n₁.catalog, ∀ f ∈ n₂.catalog, e.label = f.label → n₁ = n₂ ∧ e = f) ∧
      (∀ e ∈ n₁.catalog, e.label ≠ unknownLabel c₂) := by
  refine ⟨⟨?_, ?_⟩, fun e he f hf => Namespace.eq_of_label_eq he hf,
    fun e he => Namespace.label_ne_unknownLabel he c₂⟩
  · intro h
    by_cases h₁ : n₁.Knows c₁ <;> by_cases h₂ : n₂.Knows c₂
    · obtain ⟨e, he, rfl⟩ := h₁
      obtain ⟨f, hf, rfl⟩ := h₂
      rw [Namespace.label_of_mem he, Namespace.label_of_mem hf] at h
      obtain ⟨rfl, rfl⟩ := Namespace.eq_of_label_eq he hf h
      exact ⟨rfl, .inl rfl⟩
    · obtain ⟨e, he, rfl⟩ := h₁
      rw [Namespace.label_of_mem he, Namespace.label_of_not_knows h₂] at h
      exact absurd h (Namespace.label_ne_unknownLabel he c₂)
    · obtain ⟨f, hf, rfl⟩ := h₂
      rw [Namespace.label_of_not_knows h₁, Namespace.label_of_mem hf] at h
      exact absurd h.symm (Namespace.label_ne_unknownLabel hf c₁)
    · rw [Namespace.label_of_not_knows h₁, Namespace.label_of_not_knows h₂] at h
      obtain rfl := unknownLabel_injective h
      exact ⟨rfl, .inr ⟨h₁, h₂⟩⟩
  · rintro ⟨rfl, rfl | ⟨h₁, h₂⟩⟩
    · rfl
    · rw [Namespace.label_of_not_knows h₁, Namespace.label_of_not_knows h₂]

/-- Five is a resource but no action, so its two labels differ. -/
theorem labels_identify_codes_five :
    Namespace.resource.Knows 5 ∧ Namespace.action.label 5 ≠ Namespace.resource.label 5 := by
  have hknows : Namespace.resource.Knows 5 := ⟨⟨5, "Form"⟩, by decide, rfl⟩
  refine ⟨hknows, ?_⟩
  intro h
  obtain ⟨-, hns | ⟨-, hnot⟩⟩ := (labels_identify_codes .action .resource 5 5).1.1 h
  · cases hns
  · exact hnot hknows

end AuditLabels
