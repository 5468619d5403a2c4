import AuditLabels.Proofs.Service.Lookup

/-!
# Paths and methods

Which paths lead somewhere, told by how they are written, and which methods serve what they lead to.
-/

namespace AuditLabels.Route

/-! ## Paths -/

/-- How the paths that lead somewhere are written.  The namespace in front of a code may be empty;
no other segment may. -/
inductive Leads : List Char → Route → Prop
  | health : Leads "/health".toList .health
  | batch : Leads "/api/v1/audit-labels".toList (.lookup .batch)
  | catalog {space : List Char} (hspace : '/' ∉ space) (hne : space ≠ []) :
      Leads (pathOf [space]) (.lookup (.catalog space))
  | label {space code : List Char} (hspace : '/' ∉ space) (hcode : '/' ∉ code) (hne : code ≠ []) :
      Leads (pathOf [space, code]) (.lookup (.label space code))

/-- A path with the base in front is the path of the segments behind it. -/
theorem eq_pathOf_of_split {path : List Char} {segments : List (List Char)}
    (h : Text.split '/' path = base ++ segments) :
    path = pathOf segments ∧ ∀ w ∈ segments, '/' ∉ w := by
  have hslash : ∀ w ∈ segments, '/' ∉ w := by
    intro w hw
    have hpiece : w ∈ Text.split '/' path := by
      rw [h]
      exact List.mem_append_right base hw
    exact (Text.isPiece_of_mem_split hpiece).1
  exact ⟨Text.eq_of_split_eq (h.trans (split_pathOf hslash).symm), hslash⟩

/-- Segments behind the base that ask for a lookup make a path that leads to it. -/
theorem leads_of_ofSegments? {segments : List (List Char)} {l : Lookup}
    (hslash : ∀ w ∈ segments, '/' ∉ w) (h : ofSegments? segments = some l) :
    Leads (pathOf segments) (.lookup l) := by
  unfold ofSegments? at h
  split at h
  · obtain rfl := Option.some.inj h
    exact .batch
  · next space =>
    split at h
    · cases h
    · next hne =>
      obtain rfl := Option.some.inj h
      exact .catalog (hslash space (by simp)) (by simpa using hne)
  · next space code =>
    split at h
    · cases h
    · next hne =>
      obtain rfl := Option.some.inj h
      exact .label (hslash space (by simp)) (hslash code (by simp)) (by simpa using hne)
  · cases h

/-- **A path is known exactly if it is written like one of the four.** -/
theorem ofPath?_eq_some_iff {path : List Char} {route : Route} :
    ofPath? path = some route ↔ Leads path route := by
  constructor
  · intro h
    unfold ofPath? at h
    dsimp only at h
    split at h
    · next hhealth =>
      obtain rfl := Option.some.inj h
      rw [hhealth]
      exact .health
    split at h
    · next hbase =>
      obtain ⟨l, hl, rfl⟩ := Option.map_eq_some_iff.1 h
      -- joined again, the pieces behind the base make the path
      have hsplit := List.take_append_drop base.length (Text.split '/' path)
      rw [hbase] at hsplit
      obtain ⟨hpath, hslash⟩ := eq_pathOf_of_split hsplit.symm
      rw [hpath]
      exact leads_of_ofSegments? hslash hl
    · cases h
  · intro h
    cases h with
    | health => rfl
    | batch => rfl
    | catalog hspace hne =>
      rw [ofPath?_pathOf (by simpa using hspace), ofSegments?, List.isEmpty_eq_false_iff.2 hne]
      rfl
    | label hspace hcode hne =>
      rw [ofPath?_pathOf (by simpa using ⟨hspace, hcode⟩), ofSegments?,
        List.isEmpty_eq_false_iff.2 hne]
      rfl

theorem ofPath?_eq_none_iff {path : List Char} :
    ofPath? path = none ↔ ∀ route, ¬ Leads path route := by
  rw [Option.eq_none_iff_forall_ne_some]
  exact forall_congr' fun route => not_congr ofPath?_eq_some_iff

/-- A path leads to one thing. -/
theorem Leads.unique {path : List Char} {a b : Route} (ha : Leads path a) (hb : Leads path b) :
    a = b := by
  rw [← ofPath?_eq_some_iff] at ha hb
  exact Option.some.inj (ha.symm.trans hb)

/-! ## Methods -/

/-- The methods by which a route is served. -/
def methods : Route → List Http.Method
  | health => [.get, .head]
  | lookup .batch => [.post]
  | lookup (.catalog _) | lookup (.label ..) => [.get, .head]

theorem mem_methods_lookup {l : Lookup} {m : Http.Method} :
    m ∈ (lookup l).methods ↔ l.serves m = true := by
  cases l <;> simp [methods, Lookup.serves]

end AuditLabels.Route
