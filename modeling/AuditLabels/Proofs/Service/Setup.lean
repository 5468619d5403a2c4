import AuditLabels.Proofs.RateLimit.Quota
import AuditLabels.Proofs.Service.Origins

/-!
# Setting up the service

What a configuration leads to before the first request.  A rate that cannot be kept is an error of
the configuration, and an origin that no header can say is left out with a warning.  But the
wildcard, which stands for all origins, is one that a header can say: it is not left out, and the
program is broken off.
-/

namespace AuditLabels

/-! ## The wildcard -/

namespace CorsPolicy

/-- The wildcard can be said in a header, and no other origin is said like it. -/
theorem wildcard_mem_iff {origins : List String} :
    wildcard ∈ origins.filterMap originValue? ↔ "*" ∈ origins := by
  rw [mem_filterMap_originValue?_iff]
  have hstar : Text.Utf8.encode "*".toList = wildcard := by decide
  constructor
  · rintro ⟨o, ho, -, hvalue⟩
    rw [← hstar] at hvalue
    have hchars := congrArg Text.Utf8.decode? hvalue
    rw [Text.Utf8.decode?_encode, Text.Utf8.decode?_encode] at hchars
    rw [String.toList_injective (Option.some.inj hchars)]
    exact ho
  · intro ho
    have hvalue : IsValue "*" := isValue_iff.2 (by decide)
    exact ⟨"*", ho, hvalue, hstar.symm⟩

/-- **A configuration has a policy exactly if it does not list the wildcard.** -/
theorem ofConfig?_eq_none_iff (c : Config) : (ofConfig? c).2 = none ↔ "*" ∈ c.origins := by
  rw [← wildcard_mem_iff]
  unfold ofConfig?
  by_cases horigins : c.origins = []
  · rw [horigins]
    cases c.environment.isProduction <;> simp
  · rw [if_neg (by simpa using horigins)]
    simp

/-! ## Warnings -/

theorem invalidOrigin_injective {o p : String} (h : invalidOrigin o = invalidOrigin p) : o = p := by
  simpa [invalidOrigin] using h

/-- The warnings about origins are the ones about origins that no header can say. -/
theorem invalidOrigin_mem_iff (c : Config) (o : String) :
    invalidOrigin o ∈ (ofConfig? c).1 ↔ o ∈ c.origins ∧ ¬ IsValue o := by
  have hunsayable : (originValue? o).isNone = true ↔ ¬ IsValue o := by
    rw [Option.isNone_iff_eq_none, Option.eq_none_iff_forall_ne_some]
    simp [originValue?_eq_some_iff]
  unfold ofConfig?
  by_cases horigins : c.origins = []
  · rw [horigins]
    cases c.environment.isProduction <;> simp [invalidOrigin]
  · rw [if_neg (by simpa using horigins)]
    dsimp only
    rw [List.mem_append, List.mem_map]
    constructor
    · rintro (⟨p, hp, heq⟩ | hinfo)
      · obtain rfl := invalidOrigin_injective heq
        obtain ⟨hmem, hnone⟩ := List.mem_filter.1 hp
        exact ⟨hmem, hunsayable.1 hnone⟩
      · simp [invalidOrigin] at hinfo
    · rintro ⟨hmem, hvalue⟩
      exact .inl ⟨o, List.mem_filter.2 ⟨hmem, hunsayable.2 hvalue⟩, rfl⟩

end CorsPolicy

/-! ## Setting up -/

/-- A piece between the commas of the variable is the wildcard, with or without blanks around it. -/
def Config.ListsWildcard (vars : Variables) : Prop :=
  ∃ raw piece, vars.get? "CORS_ALLOWED_ORIGINS" = some raw ∧
    Text.IsPiece ',' raw.toList piece ∧ Text.IsPadded piece ['*']

theorem Config.listsWildcard_iff {vars : Variables} {c : Config} (h : ofVariables vars = .ok c) :
    ListsWildcard vars ↔ "*" ∈ c.origins := by
  have hstar : Text.trim ['*'] = ['*'] := rfl
  rw [mem_origins_iff h]
  constructor
  · rintro ⟨raw, piece, hraw, hpiece, hpadded⟩
    have htrim : Text.trim piece = ['*'] := by
      rw [Text.trim_of_isPadded hpadded, hstar]
    refine ⟨raw, piece, hraw, hpiece, ?_, ?_⟩
    · rw [htrim]
      exact List.cons_ne_nil _ _
    · rw [htrim]
  · rintro ⟨raw, piece, hraw, hpiece, -, heq⟩
    have htrim : Text.trim piece = ['*'] := by
      rw [← String.toList_ofList (l := Text.trim piece), ← heq]
      rfl
    refine ⟨raw, piece, hraw, hpiece, ?_⟩
    rw [← htrim]
    exact Text.isPadded_trim piece

namespace Service

/-- What setting up a service comes to: it is refused for its rate, broken off for the wildcard, or
done; and what is done with origins that no header can say. -/
structure SetUp (vars : Variables) (c : Config) (events : List Log.Event)
    (result : Except StartError Service) : Prop where
  refused : result = .error (.badRate c.rate) ↔ ¬ c.rate.Kept
  broken_off : result = .error .wildcardOrigin ↔ c.rate.Kept ∧ Config.ListsWildcard vars
  served : (∃ s, result = .ok s) ↔ c.rate.Kept ∧ ¬ Config.ListsWildcard vars
  warned : c.rate.Kept → ∀ o,
    CorsPolicy.invalidOrigin o ∈ events ↔ o ∈ c.origins ∧ ¬ CorsPolicy.IsValue o
  skipped : ∀ s, result = .ok s → c.origins ≠ [] → ∃ values, s.cors = .only values ∧
    ∀ v, v ∈ values ↔ ∃ o ∈ c.origins, CorsPolicy.IsValue o ∧ v = Text.Utf8.encode o.toList

/-- A rate that can be kept leaves the rest to the policy. -/
theorem ofConfig_of_kept {c : Config} (h : c.rate.Kept) :
    ∃ quota, ofConfig c = ((CorsPolicy.ofConfig? c).1,
      (CorsPolicy.ofConfig? c).2.elim (.error .wildcardOrigin) fun cors => .ok ⟨quota, cors⟩) := by
  obtain ⟨quota, hquota⟩ := (Quota.exists_ofRate?_iff c.rate).2 h
  refine ⟨quota, ?_⟩
  rcases hpolicy : CorsPolicy.ofConfig? c with ⟨events, cors?⟩
  cases cors? with
  | none => simp [ofConfig, hquota, hpolicy]
  | some cors => simp [ofConfig, hquota, hpolicy]

theorem ofConfig_of_not_kept {c : Config} (h : ¬ c.rate.Kept) :
    ofConfig c = ([], .error (.badRate c.rate)) := by
  have hnone : Quota.ofRate? c.rate = none := by
    cases hq : Quota.ofRate? c.rate with
    | none => rfl
    | some q => exact absurd ((Quota.exists_ofRate?_iff c.rate).1 ⟨q, hq⟩) h
  rw [ofConfig, hnone]

/-- **Only the wildcard breaks the program off.**  Whatever the variables of a configuration hold,
setting up the service is done, or refused for its rate, or broken off because the wildcard is
listed among the origins; origins that no header can say are left out with a warning. -/
theorem setUp_of_ofVariables {vars : Variables} {c : Config} (h : Config.ofVariables vars = .ok c) :
    SetUp vars c (ofConfig c).1 (ofConfig c).2 := by
  by_cases hkept : c.rate.Kept
  · obtain ⟨quota, hsetup⟩ := ofConfig_of_kept hkept
    have hwildcard : (CorsPolicy.ofConfig? c).2 = none ↔ Config.ListsWildcard vars := by
      rw [CorsPolicy.ofConfig?_eq_none_iff, Config.listsWildcard_iff h]
    have hskipped : ∀ s, (ofConfig c).2 = .ok s → c.origins ≠ [] →
        ∃ values, s.cors = .only values ∧ ∀ v, v ∈ values ↔
          ∃ o ∈ c.origins, CorsPolicy.IsValue o ∧ v = Text.Utf8.encode o.toList := by
      intro s hs horigins
      rcases CorsPolicy.ofConfig?_eq_some (cors_of_ofConfig_eq_ok hs) with
        ⟨-, hnone, -⟩ | ⟨-, hcors, -⟩
      · exact absurd hnone horigins
      · exact ⟨_, hcors, fun v => CorsPolicy.mem_filterMap_originValue?_iff⟩
    rw [hsetup] at hskipped ⊢
    refine ⟨?_, ?_, ?_, fun _ => CorsPolicy.invalidOrigin_mem_iff c, hskipped⟩
    · refine iff_of_false ?_ fun hnot => hnot hkept
      cases (CorsPolicy.ofConfig? c).2 <;> simp
    · rw [and_iff_right hkept, ← hwildcard]
      cases (CorsPolicy.ofConfig? c).2 <;> simp
    · rw [and_iff_right hkept, ← hwildcard]
      cases (CorsPolicy.ofConfig? c).2 <;> simp
  · rw [ofConfig_of_not_kept hkept]
    exact {
      refused := iff_of_true rfl hkept
      broken_off := iff_of_false nofun fun h => hkept h.1
      served := iff_of_false nofun fun h => hkept h.1
      warned := fun h => absurd h hkept
      skipped := nofun }

/-- The configuration of a port and of origins, and otherwise of defaults. -/
def withOrigins (origins : List String) : Config :=
  ⟨"audit-labels", .development, "127.0.0.1", 1, ⟨10, 50⟩, origins⟩

/-- A line break inside an origin is warned about, and the service is set up. -/
theorem setUp_of_ofVariables_break :
    Config.ofVariables ⟨[("API_PORT", "1"), ("CORS_ALLOWED_ORIGINS", "http://a, b\nc")]⟩ =
        .ok (withOrigins ["http://a", "b\nc"]) ∧
      CorsPolicy.invalidOrigin "b\nc" ∈ (ofConfig (withOrigins ["http://a", "b\nc"])).1 ∧
      ∃ s, (ofConfig (withOrigins ["http://a", "b\nc"])).2 = .ok s := by
  have hvars : Config.ofVariables
      ⟨[("API_PORT", "1"), ("CORS_ALLOWED_ORIGINS", "http://a, b\nc")]⟩ =
        .ok (withOrigins ["http://a", "b\nc"]) := by
    cbv
  have hkept : (withOrigins ["http://a", "b\nc"]).rate.Kept := ⟨by decide, by decide, by decide⟩
  have hvalue : ¬ CorsPolicy.IsValue "b\nc" := by
    rw [CorsPolicy.isValue_iff]
    decide
  have hlisted : ¬ Config.ListsWildcard
      ⟨[("API_PORT", "1"), ("CORS_ALLOWED_ORIGINS", "http://a, b\nc")]⟩ := by
    rw [Config.listsWildcard_iff hvars]
    decide
  have hsetup := setUp_of_ofVariables hvars
  exact ⟨hvars, (hsetup.warned hkept "b\nc").2 ⟨by decide, hvalue⟩,
    hsetup.served.2 ⟨hkept, hlisted⟩⟩

/-- **The wildcard is no error of the configuration.**  It stands in a configuration that is
accepted, and setting up the service comes neither to a service nor to an error that can be told. -/
theorem wildcard_breaks_off :
    ∃ c, Config.ofVariables ⟨[("API_PORT", "1"), ("CORS_ALLOWED_ORIGINS", "*")]⟩ = .ok c ∧
      (∀ s, (ofConfig c).2 ≠ .ok s) ∧ ∀ e, (ofConfig c).2 = .error e → e.failure? = none := by
  have hvars : Config.ofVariables ⟨[("API_PORT", "1"), ("CORS_ALLOWED_ORIGINS", "*")]⟩ =
      .ok (withOrigins ["*"]) := by
    cbv
  have hresult : (ofConfig (withOrigins ["*"])).2 = .error .wildcardOrigin := by
    cbv
  refine ⟨_, hvars, ?_, ?_⟩
  · intro s hs
    rw [hresult] at hs
    cases hs
  · intro e he
    rw [hresult] at he
    obtain rfl := Except.error.inj he
    rfl

end Service

end AuditLabels
