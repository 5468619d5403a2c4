import Mathlib
import AuditLabels.Wire.Labels

/-!
# All answers about a code agree

The catalog of a namespace lists every code once, in ascending order, and every way to ask for the
label of a code answers what the catalog says: alone, with its namespace, or anywhere in a batch.
-/

namespace AuditLabels

/-! ## Catalogs -/

section Members

variable {α : Type} [Vocabulary α]

theorem pairwise_code_entries :
    (((Vocabulary.all : List α).map Entry.of).map Entry.code).Pairwise (· < ·) := by
  rw [List.map_map]
  exact Vocabulary.ascending

/-- The label of a code is what the entry of the code says. -/
theorem map_label_ofCode?_eq_some_iff (c : Int) (l : String) :
    (Vocabulary.ofCode? c : Option α).map Vocabulary.label = some l ↔
      (⟨c, l⟩ : Entry) ∈ (Vocabulary.all : List α).map Entry.of := by
  rw [Option.map_eq_some_iff, List.mem_map]
  constructor
  · rintro ⟨x, hx, rfl⟩
    refine ⟨x, Vocabulary.mem_all x, ?_⟩
    rw [Entry.of, Vocabulary.ofCode?_eq_some_iff.1 hx]
  · rintro ⟨x, -, hx⟩
    obtain ⟨hcode, hlabel⟩ := Entry.mk.inj hx
    exact ⟨x, Vocabulary.ofCode?_eq_some_iff.2 hcode, hlabel⟩

end Members

namespace Namespace

theorem pairwise_code_catalog (ns : Namespace) : (ns.catalog.map Entry.code).Pairwise (· < ·) := by
  cases ns
  · exact pairwise_code_entries
  · exact pairwise_code_entries

/-- Two entries of a catalog with one code are one entry. -/
theorem entry_unique (ns : Namespace) {e f : Entry} (he : e ∈ ns.catalog) (hf : f ∈ ns.catalog)
    (h : e.code = f.code) : e = f :=
  Vocabulary.eq_of_code_eq ns.pairwise_code_catalog he hf h

/-- Every code of a catalog is a number of 16 bits. -/
theorem int16_of_mem_catalog (ns : Namespace) :
    ∀ e ∈ ns.catalog, -2 ^ 15 ≤ e.code ∧ e.code < 2 ^ 15 := by
  cases ns <;> decide

theorem label?_eq_some_iff (ns : Namespace) (c : Int) (l : String) :
    ns.label? c = some l ↔ (⟨c, l⟩ : Entry) ∈ ns.catalog := by
  cases ns
  · exact map_label_ofCode?_eq_some_iff c l
  · exact map_label_ofCode?_eq_some_iff c l

/-- A number that differs from the code it becomes in 16 bits has no entry. -/
theorem label?_eq_none_of_bmod_ne (ns : Namespace) {c : Int} (h : c.bmod (2 ^ 16) ≠ c) :
    ns.label? c = none := by
  cases hl : ns.label? c with
  | none => rfl
  | some l =>
    -- within 16 bits nothing wraps
    obtain ⟨hlow, hhigh⟩ : -2 ^ 15 ≤ c ∧ c < 2 ^ 15 :=
      ns.int16_of_mem_catalog _ ((ns.label?_eq_some_iff c l).1 hl)
    exact absurd (Int.bmod_eq_of_le (by omega) (by omega)) h

end Namespace

/-! ## Batches -/

/-- The codes of a batch that are asked for in a namespace. -/
def BatchRequest.codes (r : BatchRequest) : Namespace → List Int
  | .action => r.actions
  | .resource => r.resources

/-- The answers of a batch in a namespace. -/
def BatchResponse.answers (r : BatchResponse) : Namespace → List Resolved
  | .action => r.actions
  | .resource => r.resources

theorem BatchResponse.answers_of (r : BatchRequest) (ns : Namespace) :
    (of r).answers ns = (r.codes ns).map ns.resolve := by
  cases ns <;> rfl

/-! ## Agreement -/

/-- Whoever asks for the code is told this label, and whether it is a stored one. -/
structure Tells (ns : Namespace) (c : Int) (label : String) (known : Bool) : Prop where
  text : ns.label c = label
  alone : Wire.labelJson ns (ns.resolve c) = .object
    [("namespace", .text ns.name), ("code", .number c), ("label", .text label),
      ("known", .boolean known)]
  batch : ∀ (r : BatchRequest) (i : Nat), (r.codes ns)[i]? = some c →
    ((BatchResponse.of r).answers ns)[i]? = some ⟨c, label, known⟩

theorem Tells.of_resolve {ns : Namespace} {c : Int} {l : String} {k : Bool} (hl : ns.label c = l)
    (hr : ns.resolve c = ⟨c, l, k⟩) : Tells ns c l k where
  text := hl
  alone := by
    rw [hr]
    rfl
  batch r i hi := by
    rw [BatchResponse.answers_of, List.getElem?_map, hi, Option.map_some, hr]

theorem tells_of_label?_eq_some {ns : Namespace} {c : Int} {l : String} (h : ns.label? c = some l) :
    Tells ns c l true := by
  refine .of_resolve ?_ ?_
  · rw [Namespace.label, h, Option.getD_some]
  · rw [Namespace.resolve, h]

theorem tells_of_label?_eq_none {ns : Namespace} {c : Int} (h : ns.label? c = none) :
    Tells ns c ("Unknown (" ++ toString c ++ ")") false := by
  have hc : unknownLabel c = "Unknown (" ++ toString c ++ ")" := by
    cases c <;> rfl
  refine .of_resolve ?_ ?_
  · rw [Namespace.label, h, Option.getD_none, hc]
  · rw [Namespace.resolve, h, hc]

/-- **All answers about a code agree.**  The catalog of a namespace ascends, so it has at most one
entry for a code.  If it has one, every answer is its label; otherwise every answer quotes the code,
even where the code would become a known one in 16 bits. -/
theorem answers_agree (ns : Namespace) (c : Int) :
    (ns.catalog.map Entry.code).Pairwise (· < ·) ∧
      (∀ e ∈ ns.catalog, -2 ^ 15 ≤ e.code ∧ e.code < 2 ^ 15) ∧
      (∀ e ∈ ns.catalog, ∀ f ∈ ns.catalog, e.code = f.code → e = f) ∧
      (∀ l, ns.label? c = some l ↔ ∃ e ∈ ns.catalog, e.code = c ∧ e.label = l) ∧
      (∀ r : BatchRequest, ((BatchResponse.of r).answers ns).length = (r.codes ns).length) ∧
      (∀ e ∈ ns.catalog, e.code = c → Tells ns c e.label true) ∧
      ((∀ e ∈ ns.catalog, e.code ≠ c) → Tells ns c ("Unknown (" ++ toString c ++ ")") false) ∧
      (∀ e ∈ ns.catalog, c.bmod (2 ^ 16) = e.code → c ≠ e.code →
        Tells ns c ("Unknown (" ++ toString c ++ ")") false) := by
  have hentry : ∀ l, ns.label? c = some l ↔ ∃ e ∈ ns.catalog, e.code = c ∧ e.label = l := by
    intro l
    rw [ns.label?_eq_some_iff]
    constructor
    · intro h
      exact ⟨_, h, rfl, rfl⟩
    · rintro ⟨e, he, rfl, rfl⟩
      exact he
  refine ⟨ns.pairwise_code_catalog, ns.int16_of_mem_catalog,
    fun e he f hf => ns.entry_unique he hf, hentry, ?_, ?_, ?_, ?_⟩
  · intro r
    rw [BatchResponse.answers_of, List.length_map]
  · intro e he hc
    exact tells_of_label?_eq_some ((hentry e.label).2 ⟨e, he, hc, rfl⟩)
  · intro hnone
    refine tells_of_label?_eq_none ?_
    cases hl : ns.label? c with
    | none => rfl
    | some l =>
      obtain ⟨e, he, hc, -⟩ := (hentry l).1 hl
      exact absurd hc (hnone e he)
  · intro e he hbmod hne
    exact tells_of_label?_eq_none (ns.label?_eq_none_of_bmod_ne fun h => hne (h ▸ hbmod))

/-- One more than all numbers of 16 bits is no code, though it becomes the first one in 16 bits. -/
theorem answers_agree_wrapped : Tells .action 65537 "Unknown (65537)" false :=
  (answers_agree .action 65537).2.2.2.2.2.2.2 ⟨1, "Settings Update"⟩ (by decide) (by decide)
    (by decide)

end AuditLabels
