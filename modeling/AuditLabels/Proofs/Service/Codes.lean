import AuditLabels.Proofs.Label.Distinct
import AuditLabels.Proofs.Service.Batch

/-!
# Codes in paths

A code in a path is an exact number: any digits behind at most one sign, as long as the number they
say has 64 bits.  So the code that is quoted in the label of an unknown code can be asked for again.
-/

namespace AuditLabels

/-- A number of 64 bits. -/
theorem Text.isInt64_iff (z : Int) : isInt64 z = true ↔ -2 ^ 63 ≤ z ∧ z ≤ 2 ^ 63 - 1 := by
  rw [isInt64, Bool.and_eq_true, decide_eq_true_iff, decide_eq_true_iff]
  omega

namespace Lookup

theorem readCode_eq_ok_iff {s : String} {n : Int} :
    readCode s = .ok n ↔ Text.IsSigned s.toList n ∧ -2 ^ 63 ≤ n ∧ n ≤ 2 ^ 63 - 1 := by
  rw [← Text.isInt64_iff, ← Text.int64?_eq_some_iff, readCode]
  cases Text.int64? s.toList with
  | none => simp
  | some m => simp

/-- What is no code is refused as one. -/
theorem readCode_eq_error {s : String} (h : ∀ n, readCode s ≠ .ok n) :
    readCode s = .error (.invalidPath "Invalid code format") := by
  unfold readCode at h ⊢
  cases hs : Text.int64? s.toList with
  | none => rfl
  | some m =>
    rw [hs] at h
    exact absurd rfl (h m)

end Lookup

namespace Namespace

/-- An unknown code is answered with its quotation. -/
theorem resolve_of_not_knows {ns : Namespace} {n : Int} (h : ¬ ns.Knows n) :
    ns.resolve n = ⟨n, unknownLabel n, false⟩ := by
  have hl : ns.label? n = none := by
    rw [Option.eq_none_iff_forall_ne_some]
    exact fun l hl => h ((ns.knows_iff n).2 ⟨l, hl⟩)
  rw [resolve, hl]

end Namespace

/-- What is quoted in a label is the text of the code. -/
theorem unknownLabel_eq_iff (n : Int) (t : String) :
    unknownLabel n = "Unknown (" ++ t ++ ")" ↔ t = Text.ofInt n := by
  constructor
  · intro h
    have hchars := congrArg String.toList h
    rw [toList_unknownLabel, String.toList_append, String.toList_append, List.append_assoc,
      List.append_cancel_left_eq] at hchars
    exact String.toList_injective (List.append_cancel_right hchars).symm
  · rintro rfl
    rfl

/-- **Codes are read exactly.**  A text is read as a code if it is one or more digits behind at most
one sign and the number that they say has 64 bits; any other text is refused.  And what is quoted in
the label of an unknown code is read as that code, and whoever asks for it gets the same label. -/
theorem Lookup.readCode_exact :
    (∀ (s : String) (n : Int),
      readCode s = .ok n ↔ Text.IsSigned s.toList n ∧ -2 ^ 63 ≤ n ∧ n ≤ 2 ^ 63 - 1) ∧
    (∀ s : String, (∀ n, ¬ (Text.IsSigned s.toList n ∧ -2 ^ 63 ≤ n ∧ n ≤ 2 ^ 63 - 1)) →
      ∃ f, readCode s = .error f ∧ f.code = "INVALID_PATH_PARAMETER" ∧ f.status = 400 ∧
        f.message = "Invalid path parameter: Invalid code format") ∧
    (∀ (ns : Namespace) (n : Int), -2 ^ 63 ≤ n → n ≤ 2 ^ 63 - 1 → ¬ ns.Knows n →
      ∃ t, (∀ t', (ns.resolve n).label = "Unknown (" ++ t' ++ ")" ↔ t' = t) ∧
        readCode t = .ok n ∧
        ∀ s : Service, s.Gets (Route.pathOf [ns.name.toList, t.toList]) (200, .object
          [("namespace", .text ns.name), ("code", .number n),
           ("label", .text ("Unknown (" ++ t ++ ")")), ("known", .boolean false)])) := by
  refine ⟨fun s n => readCode_eq_ok_iff, ?_, ?_⟩
  · intro s hnone
    refine ⟨_, readCode_eq_error fun n hn => hnone n (readCode_eq_ok_iff.1 hn), rfl, rfl, ?_⟩
    decide
  · intro ns n hlow hhigh hunknown
    have hn : Text.isInt64 n = true := (Text.isInt64_iff n).2 ⟨hlow, hhigh⟩
    have hresolve := Namespace.resolve_of_not_knows hunknown
    refine ⟨Text.ofInt n, ?_, ?_, ?_⟩
    · intro t'
      rw [hresolve]
      exact unknownLabel_eq_iff n t'
    · rw [readCode, Text.int64?_ofInt hn]
    · intro s
      have hgets := s.gets_label ns hn
      rw [hresolve] at hgets
      exact hgets

/-- The smallest number of 64 bits is read with a zero in front, the number before it is refused,
and asking for it again gives its label. -/
theorem Lookup.readCode_exact_smallest :
    readCode "-09223372036854775808" = .ok (-9223372036854775808) ∧
      (∃ f, readCode "-9223372036854775809" = .error f ∧ f.code = "INVALID_PATH_PARAMETER") ∧
      ¬ Namespace.action.Knows (-9223372036854775808) ∧
      ∃ t, readCode t = .ok (-9223372036854775808) ∧
        (Namespace.action.resolve (-9223372036854775808)).label = "Unknown (" ++ t ++ ")" := by
  have hunknown : ¬ Namespace.action.Knows (-9223372036854775808) := by
    rintro ⟨e, he, hcode⟩
    have hbound := Namespace.action.int16_of_mem_catalog e he
    omega
  have hread : readCode "-09223372036854775808" = .ok (-9223372036854775808) := by
    cbv
  have hbelow : ∀ n, ¬ (Text.IsSigned "-9223372036854775809".toList n ∧ -2 ^ 63 ≤ n ∧
      n ≤ 2 ^ 63 - 1) := by
    intro n hn
    have hrefused : readCode "-9223372036854775809" =
        .error (.invalidPath "Invalid code format") := by
      cbv
    have hread := (readCode_exact.1 _ n).2 hn
    rw [hrefused] at hread
    cases hread
  obtain ⟨f, hf, hcode, -⟩ := readCode_exact.2.1 _ hbelow
  obtain ⟨t, hlabel, ht, -⟩ :=
    readCode_exact.2.2 .action (-9223372036854775808) (by norm_num) (by norm_num) hunknown
  exact ⟨hread, ⟨f, hf, hcode⟩, hunknown, t, ht, (hlabel t).2 rfl⟩

end AuditLabels
