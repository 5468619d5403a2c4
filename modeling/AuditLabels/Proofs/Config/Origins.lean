import AuditLabels.Proofs.Config.Writing

/-!
# Lists of origins

How a text is taken apart into origins.  A comma between two texts keeps their origins apart, and a
text without commas has one origin or none, so a list of origins is known piece by piece: nothing
that stands in a piece is lost, joined to another piece or moved, and nothing else is listed.
-/

namespace AuditLabels.Config

open Text (IsTrim isTrim_iff isBlank trim)

/-! ## Single pieces -/

/-- The text without the blanks around it, unless nothing is left of it. -/
def kept (cs : List Char) : List String := if trim cs = [] then [] else [String.ofList (trim cs)]

/-- What is listed of pieces is what is kept of each of them. -/
theorem map_filter_trim (pieces : List (List Char)) :
    ((pieces.map trim).filter fun cs => !cs.isEmpty).map String.ofList = pieces.flatMap kept := by
  induction pieces with
  | nil => rfl
  | cons piece pieces ih =>
    rw [List.map_cons, List.flatMap_cons, ← ih, kept]
    by_cases h : trim piece = []
    · rw [if_pos h, h, List.filter_cons_of_neg (by simp), List.nil_append]
    · rw [if_neg h, List.filter_cons_of_pos (by simpa using h), List.map_cons,
        List.singleton_append]

theorem splitOrigins_eq (raw : String) :
    splitOrigins raw = (Text.split ',' raw.toList).flatMap kept :=
  map_filter_trim _

/-- The trim of a text holds no comma if the text holds none, and what is kept is an origin. -/
theorem isOrigin_of_mem_kept {cs : List Char} (hcomma : ',' ∉ cs) {o : String} (ho : o ∈ kept cs) :
    IsOrigin o := by
  have htrim := Text.isTrim_trim cs
  unfold kept at ho
  split at ho
  · cases ho
  · next hne =>
    obtain rfl := List.mem_singleton.1 ho
    obtain ⟨a, b, hcs, -, -⟩ := htrim.padded
    have hinside : ∀ c ∈ trim cs, c ∈ cs := by
      intro c hc
      rw [hcs]
      simp [hc]
    constructor
    · simpa using hne
    · rw [String.toList_ofList]
      exact fun hmem => hcomma (hinside _ hmem)
    · rw [String.toList_ofList]
      exact htrim.first
    · rw [String.toList_ofList]
      exact htrim.last

/-- What is kept of a text is its trim, as a text. -/
theorem kept_of_isTrim {cs : List Char} {t : String} (h : IsTrim cs t.toList) :
    kept cs = if t = "" then [] else [t] := by
  have ht : String.ofList (trim cs) = t := by
    rw [← isTrim_iff.1 h, String.ofList_toList]
  have hempty : trim cs = [] ↔ t = "" := by
    rw [← isTrim_iff.1 h]
    simp
  rw [kept, ht]
  simp only [hempty]

/-! ## Pieces one behind another -/

theorem isOrigin_of_mem_splitOrigins {raw o : String} (ho : o ∈ splitOrigins raw) :
    IsOrigin o := by
  rw [splitOrigins_eq, List.mem_flatMap] at ho
  obtain ⟨piece, hpiece, ho⟩ := ho
  exact isOrigin_of_mem_kept (Text.isPiece_of_mem_split hpiece).1 ho

theorem splitOrigins_append (a b : String) :
    splitOrigins (a ++ "," ++ b) = splitOrigins a ++ splitOrigins b := by
  have htext : (a ++ "," ++ b).toList = a.toList ++ ',' :: b.toList := by simp
  rw [splitOrigins_eq, splitOrigins_eq, splitOrigins_eq, htext, Text.split_append_cons,
    List.flatMap_append]

theorem splitOrigins_of_isTrim {raw t : String} (hcomma : ',' ∉ raw.toList)
    (ht : IsTrim raw.toList t.toList) : splitOrigins raw = if t = "" then [] else [t] := by
  rw [splitOrigins_eq, Text.split_of_not_mem hcomma, List.flatMap_singleton, kept_of_isTrim ht]

/-- Any number of pieces: by induction, each comma keeps the origins in front of it apart from the
ones behind it. -/
theorem splitOrigins_intercalate {pieces trims : List String}
    (h : List.Forall₂ (fun p t => ',' ∉ p.toList ∧ IsTrim p.toList t.toList) pieces trims) :
    splitOrigins (",".intercalate pieces) = trims.filter (· ≠ "") := by
  induction h with
  | nil => rfl
  | @cons p t pieces trims hp hrest ih =>
    have hone : splitOrigins p = [t].filter (· ≠ "") := by
      rw [splitOrigins_of_isTrim hp.1 hp.2]
      by_cases ht : t = "" <;> simp [ht]
    have happend : t :: trims = [t] ++ trims := rfl
    rw [happend, List.filter_append, ← hone, ← ih]
    cases hrest with
    | nil =>
      have hnil : splitOrigins (",".intercalate []) = [] := rfl
      rw [hnil, List.append_nil]
      simp
    | cons =>
      rw [← splitOrigins_append]
      simp [String.intercalate_cons_cons]

/-! ## The origins of a configuration -/

/-- **Origins are listed piece by piece.**  Each of them is a text without commas that neither
starts nor ends with a blank.  The origins of two texts with a comma between them are those of the
first one and behind them those of the second one, and a text without commas lists its trim, unless
that is empty.  So any number of pieces lists their trims in order, less the empty ones; and these
are the origins of a configuration. -/
theorem splitOrigins_piecewise :
    (∀ raw, ∀ o ∈ splitOrigins raw, IsOrigin o) ∧
    (∀ a b, splitOrigins (a ++ "," ++ b) = splitOrigins a ++ splitOrigins b) ∧
    (∀ raw, ',' ∉ raw.toList → ∃ t : String, IsTrim raw.toList t.toList ∧
      splitOrigins raw = if t = "" then [] else [t]) ∧
    (∀ pieces trims : List String,
      List.Forall₂ (fun p t => ',' ∉ p.toList ∧ IsTrim p.toList t.toList) pieces trims →
        splitOrigins (",".intercalate pieces) = trims.filter (· ≠ "")) ∧
    (∀ vars c, ofVariables vars = .ok c →
      c.origins = ((vars.get? "CORS_ALLOWED_ORIGINS").map splitOrigins).getD []) := by
  refine ⟨fun raw o ho => isOrigin_of_mem_splitOrigins ho, splitOrigins_append, ?_,
    fun pieces trims h => splitOrigins_intercalate h,
    fun vars c h => (ofVariables_eq_ok_iff.1 h).origins⟩
  intro raw hcomma
  have ht : IsTrim raw.toList (String.ofList (trim raw.toList)).toList := by
    rw [String.toList_ofList]
    exact Text.isTrim_trim _
  exact ⟨_, ht, splitOrigins_of_isTrim hcomma ht⟩

/-- Commas at either end and a piece of blanks list nothing; a wide blank is taken off and one
inside a piece stays. -/
theorem splitOrigins_piecewise_blanks :
    ∃ c, ofVariables ⟨[("API_PORT", "1"), ("CORS_ALLOWED_ORIGINS", ",\u3000http://a ,\t, b c,")]⟩ =
        .ok c ∧ c.origins = ["http://a", "b c"] := by
  obtain ⟨-, -, -, hpieces, hconfig⟩ := splitOrigins_piecewise
  have hblanks : List.Forall₂ (fun p t : String => ',' ∉ p.toList ∧ IsTrim p.toList t.toList)
      ["", "\u3000http://a ", "\t", " b c", ""] ["", "http://a", "", "b c", ""] := by
    simp only [List.forall₂_cons, List.forall₂_nil_left_iff, isTrim_iff, and_true]
    decide
  have hread : ofVariables
      ⟨[("API_PORT", "1"), ("CORS_ALLOWED_ORIGINS", ",\u3000http://a ,\t, b c,")]⟩ =
        .ok ⟨"audit-labels", .development, "127.0.0.1", 1, ⟨10, 50⟩, ["http://a", "b c"]⟩ := by
    cbv
  refine ⟨_, hread, ?_⟩
  rw [hconfig _ _ hread]
  exact hpieces _ _ hblanks

end AuditLabels.Config
