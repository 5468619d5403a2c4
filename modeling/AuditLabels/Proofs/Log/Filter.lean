import Mathlib
import AuditLabels.Log.Filter
import AuditLabels.Proofs.Text.Pieces

/-!
# What a filter enables

Of the rules of a filter that concern an event one decides about it: no other is more specific, and
of those that are as specific it is the last.  The event is written if this rule admits its level.
A filter that is written as a list of words with levels consists of just these rules.
-/

namespace AuditLabels.Log

/-! ## Rules and events -/

/-- The names of the fields of an event, the message first. -/
def Event.names (e : Event) : List String := "message" :: e.fields.map Prod.fst

namespace Rule

/-- How specific a rule is.  A longer target is more specific, and of rules with targets of one
length those with a field are, by its name. -/
def place (r : Rule) : ℕ ×ₗ WithBot String := toLex (r.target.length, r.field?)

theorem precedes_iff (a b : Rule) : a.precedes b = true ↔ b.place ≤ a.place := by
  rw [place, place, Prod.Lex.toLex_le_toLex, precedes, Bool.or_eq_true, Bool.and_eq_true,
    decide_eq_true_eq, beq_iff_eq, eq_comm (a := a.target.length)]
  refine or_congr Iff.rfl (and_congr_right fun _ => ?_)
  cases a.field? with
  | none =>
    cases b.field? with
    | none => exact iff_of_true rfl le_rfl
    | some g => exact iff_of_false nofun (not_le_of_gt (WithBot.bot_lt_coe g))
  | some f =>
    cases b.field? with
    | none => exact iff_of_true rfl bot_le
    | some g => exact decide_eq_true_iff.trans WithBot.coe_le_coe.symm

/-- The rule is about events of the target that have fields of these names. -/
structure Concerns (r : Rule) (target : String) (names : List String) : Prop where
  target : r.target <+: target.toList
  field : ∀ f, r.field? = some f → f ∈ names

theorem concerns_iff (r : Rule) (e : Event) :
    r.concerns e = true ↔ r.Concerns e.target e.names := by
  have hfield : (r.field?.all fun f => f = "message" || e.fields.any fun field => field.1 == f) =
      true ↔ ∀ f, r.field? = some f → f ∈ e.names := by
    cases r.field? with
    | none => exact iff_of_true rfl nofun
    | some g => simp [Event.names]
  rw [concerns, Bool.and_eq_true, List.isPrefixOf_iff_prefix, hfield]
  exact ⟨fun h => ⟨h.1, h.2⟩, fun h => ⟨h.target, h.field⟩⟩

end Rule

/-! ## The rule that decides -/

section Decides

variable {target : String} {names : List String} {ds : List Directive} {r : Rule}

/-- The rule decides about events of the target with these fields: it concerns them, and of those
that do none in front of it is more specific and none behind it as specific. -/
def Decides (target : String) (names : List String) (ds : List Directive) (r : Rule) : Prop :=
  ∃ front back, ds = front ++ .rule r :: back ∧ r.Concerns target names ∧
    (∀ q, .rule q ∈ front → q.Concerns target names → q.place ≤ r.place) ∧
    ∀ q, .rule q ∈ back → q.Concerns target names → q.place < r.place

theorem Decides.mem (h : Decides target names ds r) : .rule r ∈ ds := by
  obtain ⟨front, back, rfl, -⟩ := h
  exact List.mem_append_right front List.mem_cons_self

theorem Decides.concerns (h : Decides target names ds r) : r.Concerns target names := by
  obtain ⟨front, back, -, hr, -⟩ := h
  exact hr

/-- No rule that concerns the events is more specific than the one that decides. -/
theorem Decides.place_le (h : Decides target names ds r) {q : Rule} (hq : .rule q ∈ ds)
    (hconcerns : q.Concerns target names) : q.place ≤ r.place := by
  obtain ⟨front, back, rfl, -, hfront, hback⟩ := h
  rcases List.mem_append.1 hq with hq | hq
  · exact hfront q hq hconcerns
  · rcases List.mem_cons.1 hq with heq | hq
    · rw [Directive.rule.inj heq]
    · exact (hback q hq hconcerns).le

/-- Another directive changes nothing if it is less specific or about other events. -/
theorem Decides.snoc (h : Decides target names ds r) {d : Directive}
    (hd : ∀ q, d = .rule q → q.Concerns target names → q.place < r.place) :
    Decides target names (ds ++ [d]) r := by
  obtain ⟨front, back, rfl, hr, hfront, hback⟩ := h
  refine ⟨front, back ++ [d], ?_, hr, hfront, ?_⟩
  · rw [List.append_assoc, List.cons_append]
  · intro q hq hconcerns
    rcases List.mem_append.1 hq with hq | hq
    · exact hback q hq hconcerns
    · exact hd q (List.mem_singleton.1 hq).symm hconcerns

/-- At most one rule decides. -/
theorem Decides.unique {q : Rule} (hr : Decides target names ds r)
    (hq : Decides target names ds q) : r = q := by
  have hplaces : r.place = q.place :=
    le_antisymm (hq.place_le hr.mem hr.concerns) (hr.place_le hq.mem hq.concerns)
  obtain ⟨front, back, rfl, hconcerns, -, hback⟩ := hr
  obtain ⟨front', back', heq, hconcerns', -, hback'⟩ := hq
  -- of two rules at one place the one in front would be less specific
  rcases List.append_eq_append_iff.1 heq with ⟨part, -, hrest⟩ | ⟨part, -, hrest⟩
  · cases part with
    | nil => exact Directive.rule.inj (List.cons.inj hrest).1
    | cons d part =>
      have hmem : .rule q ∈ back := by
        rw [(List.cons.inj hrest).2]
        exact List.mem_append_right part List.mem_cons_self
      exact absurd hplaces (hback q hmem hconcerns').ne'
  · cases part with
    | nil => exact (Directive.rule.inj (List.cons.inj hrest).1).symm
    | cons d part =>
      have hmem : .rule r ∈ back' := by
        rw [(List.cons.inj hrest).2]
        exact List.mem_append_right part List.mem_cons_self
      exact absurd hplaces (hback' r hmem hconcerns).ne

/-- What directives come to: a rule that decides, or none that concerns the events. -/
inductive Verdict (target : String) (names : List String) (ds : List Directive) :
    Option Rule → Prop
  | unconcerned : (∀ q, .rule q ∈ ds → ¬ q.Concerns target names) → Verdict target names ds none
  | decided {r : Rule} : Decides target names ds r → Verdict target names ds (some r)

variable {best : Option Rule}

theorem Verdict.place_le (h : Verdict target names ds best) {q : Rule} (hq : .rule q ∈ ds)
    (hconcerns : q.Concerns target names) : ∃ r, best = some r ∧ q.place ≤ r.place := by
  cases h with
  | unconcerned hnone => exact absurd hconcerns (hnone q hq)
  | decided hr => exact ⟨_, rfl, hr.place_le hq hconcerns⟩

theorem Verdict.snoc (h : Verdict target names ds best) {d : Directive}
    (hd : ∀ q, d = .rule q → q.Concerns target names → ∃ r, best = some r ∧ q.place < r.place) :
    Verdict target names (ds ++ [d]) best := by
  cases h with
  | unconcerned hnone =>
    refine .unconcerned fun q hq hconcerns => ?_
    rcases List.mem_append.1 hq with hq | hq
    · exact hnone q hq hconcerns
    · obtain ⟨r, hr, -⟩ := hd q (List.mem_singleton.1 hq).symm hconcerns
      cases hr
  | decided hr =>
    refine .decided (hr.snoc fun q hq hconcerns => ?_)
    obtain ⟨r', heq, hlt⟩ := hd q hq hconcerns
    rw [Option.some.inj heq]
    exact hlt

end Decides

namespace Filter

variable {e : Event}

/-- The better of two rules is found out one directive after another. -/
theorem verdict_better {ds : List Directive} {best : Option Rule}
    (h : Verdict e.target e.names ds best) (d : Directive) :
    Verdict e.target e.names (ds ++ [d]) (better e best d) := by
  cases d with
  | inSpan => exact h.snoc nofun
  | rule q =>
    have hbest : best.all q.precedes = true ↔ ∀ r, best = some r → r.place ≤ q.place := by
      cases best with
      | none => simp
      | some r => simp [Rule.precedes_iff]
    have hbetter : (q.concerns e && best.all q.precedes) = true ↔
        q.Concerns e.target e.names ∧ ∀ r, best = some r → r.place ≤ q.place := by
      rw [Bool.and_eq_true, Rule.concerns_iff, hbest]
    rw [better]
    split
    · next htrue =>
      obtain ⟨hq, hall⟩ := hbetter.1 htrue
      refine .decided ⟨ds, [], rfl, hq, fun q' hmem hconcerns => ?_, nofun⟩
      obtain ⟨r, hr, hle⟩ := h.place_le hmem hconcerns
      exact hle.trans (hall r hr)
    · next hfalse =>
      refine h.snoc fun q' heq hconcerns => ?_
      obtain rfl := Directive.rule.inj heq
      -- otherwise it would have been the better one
      by_contra hnone
      refine hfalse (hbetter.2 ⟨hconcerns, fun r hr => not_lt.1 fun hlt => hnone ⟨r, hr, hlt⟩⟩)

/-- The directives are looked at from the first one on, so the induction takes off the last. -/
theorem verdict_rule? (f : Filter) (e : Event) :
    Verdict e.target e.names f.directives (f.rule? e) := by
  obtain ⟨ds⟩ := f
  show Verdict e.target e.names ds (ds.foldl (better e) none)
  induction ds using List.reverseRecOn with
  | nil => exact .unconcerned nofun
  | append_singleton ds d ih =>
    rw [List.foldl_append]
    exact verdict_better ih d

/-- A rule is found exactly if it decides. -/
theorem rule?_eq_some_iff {f : Filter} {r : Rule} :
    f.rule? e = some r ↔ Decides e.target e.names f.directives r := by
  have hverdict := verdict_rule? f e
  constructor
  · intro h
    rw [h] at hverdict
    cases hverdict with
    | decided hr => exact hr
  · intro hr
    cases hrule : f.rule? e with
    | none =>
      rw [hrule] at hverdict
      cases hverdict with
      | unconcerned hnone => exact absurd hr.concerns (hnone r hr.mem)
    | some q =>
      rw [hrule] at hverdict
      cases hverdict with
      | decided hq => rw [hq.unique hr]

/-! ## What is enabled -/

/-- The filter enables a level for a target: the rule that decides about events with these fields
admits the level. -/
def Enables (f : Filter) (level : Level) (target : String) (names : List String) : Prop :=
  ∃ r, Decides target names f.directives r ∧ r.threshold.admits level = true

/-- **An event is written if its level is enabled.** -/
theorem admits_iff (f : Filter) (e : Event) :
    f.admits e = true ↔ f.Enables e.level e.target e.names := by
  rw [admits, Option.any_eq_true]
  simp only [rule?_eq_some_iff, Enables]

theorem enables_upTo (most level : Level) (target : String) (names : List String) :
    (upTo most).Enables level target names ↔ level.rank ≤ most.rank := by
  have hdecides : Decides target names (upTo most).directives ⟨[], none, .upTo most⟩ :=
    ⟨[], [], rfl, ⟨List.nil_prefix, nofun⟩, nofun, nofun⟩
  constructor
  · rintro ⟨r, hr, hadmits⟩
    rw [hr.unique hdecides] at hadmits
    exact of_decide_eq_true hadmits
  · intro hle
    exact ⟨_, hdecides, decide_eq_true hle⟩

/-- Errors are admitted by every rule that admits anything. -/
theorem enables_error_iff (f : Filter) (target : String) (names : List String) :
    f.Enables .error target names ↔
      ∃ r, Decides target names f.directives r ∧ r.threshold ≠ .off := by
  have hadmits : ∀ t : Threshold, t.admits .error = true ↔ t ≠ .off := by
    rintro (_ | level)
    · decide
    · cases level <;> decide
  simp only [Enables, hadmits]

end Filter

/-! ## Written filters -/

namespace Directive

/-- A text without signs that have a meaning in directives. -/
structure IsWord (cs : List Char) : Prop where
  head : cs.head?.any isHead = true
  plain : ∀ c ∈ cs, Text.isBlank c = false ∧ c ≠ ',' ∧ c ≠ '=' ∧ c ≠ '['

/-- What a directive without brackets and blanks says: a level for all targets, everything of one
target, or a target and its level. -/
inductive Writes : List Char → Rule → Prop
  | level {cs : List Char} {t : Threshold} :
      IsWord cs → Threshold.parse? cs = some t → Writes cs ⟨[], none, t⟩
  | target {cs : List Char} :
      IsWord cs → Threshold.parse? cs = none → Writes cs ⟨cs, none, .upTo .trace⟩
  | both {target cs : List Char} {t : Threshold} :
      IsWord target → (∀ c ∈ cs, Text.isBlank c = false ∧ c ≠ ',') →
      threshold? cs = some t → Writes (target ++ '=' :: cs) ⟨target, none, t⟩

theorem IsWord.head_append {cs : List Char} (h : IsWord cs) (rest : List Char) :
    (cs ++ rest).head?.any isHead = true := by
  cases cs with
  | nil => exact absurd h.head nofun
  | cons c cs => exact h.head

/-- A word ends where a sign or nothing follows it. -/
theorem IsWord.takeWhile_append {cs : List Char} (h : IsWord cs) (rest : List Char)
    (hrest : ∀ c ∈ rest.head?, (c != '=' && c != '[') = false) :
    ((cs ++ rest).takeWhile fun c => c != '=' && c != '[') = cs := by
  refine (Text.span_append (fun c hc => ?_) hrest).1
  obtain ⟨-, -, hequals, hbracket⟩ := h.plain c hc
  simp [hequals, hbracket]

theorem IsWord.parse?_eq {cs : List Char} (h : IsWord cs) :
    parse? cs = some ((Threshold.parse? cs).elim (rule ⟨cs, none, .upTo .trace⟩) fun t =>
      rule ⟨[], none, t⟩) := by
  have htrim : Text.trim cs = cs := Text.trim_of_forall_not fun c hc => (h.plain c hc).1
  have hspan := h.takeWhile_append [] nofun
  rw [List.append_nil] at hspan
  rw [parse?]
  simp only [htrim, h.head, if_true, hspan, List.drop_length]
  cases Threshold.parse? cs with
  | none => rfl
  | some t => rfl

/-- The text in front of an equals sign and the one behind it are found by their bytes. -/
theorem IsWord.parse?_append_eq {target cs : List Char} (h : IsWord target)
    (hcs : ∀ c ∈ cs, Text.isBlank c = false) :
    parse? (target ++ '=' :: cs) = (threshold? cs).map fun t => rule ⟨target, none, t⟩ := by
  have htrim : Text.trim (target ++ '=' :: cs) = target ++ '=' :: cs := by
    refine Text.trim_of_forall_not fun c hc => ?_
    rcases List.mem_append.1 hc with hc | hc
    · exact (h.plain c hc).1
    · rcases List.mem_cons.1 hc with rfl | hc
      · decide
      · exact hcs c hc
  have hspan := h.takeWhile_append ('=' :: cs) (by simp)
  have hbehind : behind (target ++ '=' :: cs) (target ++ '=' :: cs) (target.length + 1) = cs := by
    have hcut : target ++ '=' :: cs = (target ++ ['=']) ++ cs := by simp
    rw [behind, bytesOf, hcut, List.take_left' (by simp), Text.Utf8.dropBytes_append]
  have hbefore : before (target ++ '=' :: cs) (target ++ '=' :: cs) target.length = target := by
    have hall := Text.Utf8.takeBytes_append_dropBytes (Text.Utf8.size target) (target ++ '=' :: cs)
    rw [Text.Utf8.dropBytes_append] at hall
    rw [before, bytesOf, List.take_left, List.append_cancel_right hall]
  rw [parse?]
  simp only [htrim, h.head_append, if_true, hspan, List.drop_left, hbehind, hbefore]
  rfl

theorem parse?_of_writes {cs : List Char} {r : Rule} (h : Writes cs r) :
    parse? cs = some (.rule r) := by
  cases h with
  | level hword ht => rw [hword.parse?_eq, ht, Option.elim_some]
  | target hword ht => rw [hword.parse?_eq, ht, Option.elim_none]
  | both hword hcs ht => rw [hword.parse?_append_eq fun c hc => (hcs c hc).1, ht, Option.map_some]

theorem Writes.comma_notMem {cs : List Char} {r : Rule} (h : Writes cs r) : ',' ∉ cs := by
  have hword : ∀ {cs}, IsWord cs → ',' ∉ cs := fun h hmem => (h.plain ',' hmem).2.1 rfl
  cases h with
  | level h _ => exact hword h
  | target h _ => exact hword h
  | both h hcs _ =>
    intro hmem
    rcases List.mem_append.1 hmem with hmem | hmem
    · exact hword h hmem
    · exact (hcs ',' ((List.mem_cons.1 hmem).resolve_left (by decide))).2 rfl

theorem Writes.ne_nil {cs : List Char} {r : Rule} (h : Writes cs r) : cs ≠ [] := by
  rintro rfl
  have hnone := parse?_of_writes h
  cases hnone

theorem mapM_parse?_of_writes {pieces : List (List Char × Rule)}
    (h : ∀ p ∈ pieces, Writes p.1 p.2) :
    (pieces.map Prod.fst).mapM parse? = some (pieces.map fun p => .rule p.2) := by
  induction pieces with
  | nil => rfl
  | cons p pieces ih =>
    rw [List.map_cons, List.mapM_cons, parse?_of_writes (h p List.mem_cons_self),
      ih fun q hq => h q (List.mem_cons_of_mem p hq)]
    rfl

end Directive

/-- **A filter that is written as a list of directives consists of them.** -/
theorem Filter.parse?_of_writes {pieces : List (List Char × Rule)}
    (h : ∀ p ∈ pieces, Directive.Writes p.1 p.2) :
    parse? (String.ofList ([','].intercalate (pieces.map Prod.fst))) =
      some ⟨pieces.map fun p => .rule p.2⟩ := by
  have hwrites : ∀ cs ∈ pieces.map Prod.fst, ∃ r, Directive.Writes cs r := by
    intro cs hcs
    obtain ⟨p, hp, rfl⟩ := List.mem_map.1 hcs
    exact ⟨p.2, h p hp⟩
  have hpieces : (Text.split ',' ([','].intercalate (pieces.map Prod.fst))).filter
      (fun cs => !cs.isEmpty) = pieces.map Prod.fst := by
    by_cases hnil : pieces.map Prod.fst = []
    · rw [hnil]
      rfl
    · rw [Text.split_intercalate hnil fun cs hcs => (hwrites cs hcs).choose_spec.comma_notMem,
        List.filter_eq_self]
      intro cs hcs
      simpa using (hwrites cs hcs).choose_spec.ne_nil
  rw [parse?, String.toList_ofList, hpieces, Directive.mapM_parse?_of_writes h, Option.map_some]

example : Filter.parse? "warn,audit_api=off" =
    some ⟨[.rule ⟨[], none, .upTo .warn⟩, .rule ⟨"audit_api".toList, none, .off⟩]⟩ := by
  decide

end AuditLabels.Log
