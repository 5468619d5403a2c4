import AuditLabels.Proofs.Config.Reading
import Mathlib.Data.List.Forall2

/-!
# Configurations written as variables

How a configuration can be written, and that it is read back from every way in which it is.  A
number may have zeros, a plus and blanks in front, an environment any case of letters, and the
origins between commas any blanks around them; nothing of that shows in what is read.
-/

namespace AuditLabels.Config

open Text (IsPadded isBlank trim)

/-! ## Numbers -/

/-- The text is the decimal digits of the number behind any zeros, with or without a plus in front
of them and with any blanks around them. -/
def WritesNumber (raw : String) (n : Nat) : Prop :=
  ∃ (sign : List Char) (zeros : Nat), (sign = [] ∨ sign = ['+']) ∧
    IsPadded raw.toList (sign ++ (List.replicate zeros '0' ++ (Text.ofNat n).toList))

theorem ofDigitChars_replicate_zero (zeros : Nat) :
    Nat.ofDigitChars 10 (List.replicate zeros '0') 0 = 0 := by
  induction zeros with
  | zero => rfl
  | succ zeros ih =>
    rw [List.replicate_succ, Nat.ofDigitChars_cons]
    exact ih

/-- Zeros in front of the digits of a number leave it as it is. -/
theorem isUnsigned_zeros (zeros n : Nat) {sign : List Char} (hsign : sign = [] ∨ sign = ['+']) :
    Text.IsUnsigned (sign ++ (List.replicate zeros '0' ++ (Text.ofNat n).toList)) n := by
  have htext : (Text.ofNat n).toList = Nat.toDigits 10 n := String.toList_ofList
  have hne : List.replicate zeros '0' ++ Nat.toDigits 10 n ≠ [] :=
    List.append_ne_nil_of_right_ne_nil _ Nat.toDigits_ne_nil
  have hdigits : ∀ c ∈ List.replicate zeros '0' ++ Nat.toDigits 10 n, c.isDigit = true := by
    intro c hc
    rcases List.mem_append.1 hc with hc | hc
    · rw [List.eq_of_mem_replicate hc]
      decide
    · exact Nat.isDigit_of_mem_toDigits (by decide) (by decide) hc
  have hvalue : n = Nat.ofDigitChars 10 (List.replicate zeros '0' ++ Nat.toDigits 10 n) 0 := by
    rw [Nat.ofDigitChars_append, ofDigitChars_replicate_zero, Nat.ofDigitChars_ten_toDigits]
  rw [htext]
  refine ⟨_, ?_, hne, hdigits, hvalue⟩
  rcases hsign with rfl | rfl
  · exact .inl rfl
  · exact .inr rfl

/-- **A written number is read as the number.** -/
theorem isNumber_of_writes {raw : String} {n : Nat} (h : WritesNumber raw n) : IsNumber raw n := by
  obtain ⟨sign, zeros, hsign, hpadded⟩ := h
  exact ⟨_, hpadded, isUnsigned_zeros zeros n hsign⟩

/-! ## Origins -/

/-- A text that can be an origin: it is not empty, holds no comma, and neither starts nor ends with
a blank. -/
structure IsOrigin (origin : String) : Prop where
  ne_empty : origin ≠ ""
  no_comma : ',' ∉ origin.toList
  no_blank_first : ∀ c, origin.toList.head? = some c → isBlank c = false
  no_blank_last : ∀ c, origin.toList.getLast? = some c → isBlank c = false

/-- The text is the origins, each with any blanks around it, with commas between them. -/
def WritesOrigins (raw : String) (origins : List String) : Prop :=
  ∃ pieces, List.Forall₂ (fun piece origin => IsPadded piece origin.toList) pieces origins ∧
    raw.toList = [','].intercalate pieces

/-- Blanks around an origin hold no comma. -/
theorem IsOrigin.not_mem_padded {origin : String} (h : IsOrigin origin) {piece : List Char}
    (hpadded : IsPadded piece origin.toList) : ',' ∉ piece := by
  have hcomma : ¬ isBlank ',' = true := by decide
  obtain ⟨a, b, rfl, ha, hb⟩ := hpadded
  intro hmem
  rcases List.mem_append.1 hmem with hmem | hmem
  · exact hcomma (ha _ hmem)
  rcases List.mem_append.1 hmem with hmem | hmem
  · exact h.no_comma hmem
  · exact hcomma (hb _ hmem)

theorem IsOrigin.trim_padded {origin : String} (h : IsOrigin origin) {piece : List Char}
    (hpadded : IsPadded piece origin.toList) : trim piece = origin.toList := by
  rw [Text.trim_of_isPadded hpadded, Text.trim_eq_self h.no_blank_first h.no_blank_last]

/-- Pieces are trimmed to the origins that they hold, none of which is left out. -/
theorem map_trim_of_forall₂ {origins : List String} (horigins : ∀ o ∈ origins, IsOrigin o)
    {pieces : List (List Char)}
    (h : List.Forall₂ (fun piece origin => IsPadded piece origin.toList) pieces origins) :
    (∀ p ∈ pieces, ',' ∉ p) ∧
      ((pieces.map trim).filter fun cs => !cs.isEmpty).map String.ofList = origins := by
  induction h with
  | nil => exact ⟨by simp, rfl⟩
  | @cons piece origin pieces origins hpiece _ ih =>
    have horigin : IsOrigin origin := horigins origin List.mem_cons_self
    obtain ⟨hcommas, hrest⟩ := ih fun o ho => horigins o (List.mem_cons_of_mem _ ho)
    have htrim : trim piece = origin.toList := horigin.trim_padded hpiece
    have hkept : (!origin.toList.isEmpty) = true := by
      simpa using horigin.ne_empty
    refine ⟨?_, ?_⟩
    · intro p hp
      rcases List.mem_cons.1 hp with rfl | hp
      · exact horigin.not_mem_padded hpiece
      · exact hcommas p hp
    · rw [List.map_cons, htrim, List.filter_cons, if_pos hkept, List.map_cons, hrest,
        String.ofList_toList]

/-- **Written origins are read as the origins,** in their order. -/
theorem splitOrigins_of_writes {origins : List String} (horigins : ∀ o ∈ origins, IsOrigin o)
    {raw : String} (h : WritesOrigins raw origins) : splitOrigins raw = origins := by
  obtain ⟨pieces, hpieces, hraw⟩ := h
  obtain ⟨hcommas, htrim⟩ := map_trim_of_forall₂ horigins hpieces
  unfold splitOrigins
  rw [hraw]
  cases pieces with
  | nil =>
    -- no origins are written as the empty text, which has one empty piece
    cases hpieces
    rfl
  | cons piece pieces =>
    rw [Text.split_intercalate (List.cons_ne_nil _ _) hcommas]
    exact htrim

/-! ## Configurations -/

/-- The variables write the configuration: each of the seven is set, to a text that says its
part. -/
structure Writes (vars : Variables) (c : Config) : Prop where
  name : vars.get? "APP_NAME" = some c.name
  environment : ∃ raw, vars.get? "APP_ENV" = some raw ∧ Environment.IsName raw c.environment
  host : vars.get? "API_HOST" = some c.host
  port : ∃ raw, vars.get? "API_PORT" = some raw ∧ WritesNumber raw c.port.toNat
  perSecond : ∃ raw, vars.get? "RATE_LIMIT_REQUESTS_PER_SECOND" = some raw ∧
    WritesNumber raw c.rate.perSecond.toNat
  burst : ∃ raw, vars.get? "RATE_LIMIT_BURST" = some raw ∧ WritesNumber raw c.rate.burst.toNat
  origins : ∃ raw, vars.get? "CORS_ALLOWED_ORIGINS" = some raw ∧ WritesOrigins raw c.origins

/-- The plain way to write a configuration: without blanks, signs and zeros in front. -/
def written (c : Config) : Variables :=
  ⟨[("APP_NAME", c.name), ("APP_ENV", c.environment.name), ("API_HOST", c.host),
    ("API_PORT", Text.ofNat c.port.toNat),
    ("RATE_LIMIT_REQUESTS_PER_SECOND", Text.ofNat c.rate.perSecond.toNat),
    ("RATE_LIMIT_BURST", Text.ofNat c.rate.burst.toNat),
    ("CORS_ALLOWED_ORIGINS", ",".intercalate c.origins)]⟩

theorem writesNumber_ofNat (n : Nat) : WritesNumber (Text.ofNat n) n :=
  ⟨[], 0, .inl rfl, Text.isPadded_self _⟩

theorem writesOrigins_intercalate (origins : List String) :
    WritesOrigins (",".intercalate origins) origins := by
  refine ⟨origins.map String.toList, ?_, ?_⟩
  · rw [List.forall₂_map_left_iff]
    exact List.forall₂_same.2 fun o _ => Text.isPadded_self o.toList
  · rw [String.toList_intercalate]
    rfl

/-- The names of environments are small letters. -/
theorem isName_name (e : Environment) : Environment.IsName e.name e := by
  show e.name.toList.map Char.toLower = e.name.toList
  cases e <;> decide

theorem writes_written (c : Config) : Writes c.written c where
  name := rfl
  environment := ⟨_, rfl, isName_name c.environment⟩
  host := rfl
  port := ⟨_, rfl, writesNumber_ofNat _⟩
  perSecond := ⟨_, rfl, writesNumber_ofNat _⟩
  burst := ⟨_, rfl, writesNumber_ofNat _⟩
  origins := ⟨_, rfl, writesOrigins_intercalate c.origins⟩

/-- What is taken of a variable that is set is what its text says. -/
theorem takes_of_set {α : Type} {means : String → α → Prop} {vars : Variables} {name : String}
    {x : α} (h : ∃ raw, vars.get? name = some raw ∧ means raw x) (default : α) :
    Takes means (vars.get? name) default x := by
  obtain ⟨raw, hset, hmeans⟩ := h
  rw [hset]
  exact hmeans

/-- **Every configuration can be written and is read back,** whichever way it is written, as long as
its origins can be told apart. -/
theorem ofVariables_of_writes {c : Config} (horigins : ∀ o ∈ c.origins, IsOrigin o) :
    Writes c.written c ∧ ∀ vars, Writes vars c → ofVariables vars = .ok c := by
  refine ⟨writes_written c, ?_⟩
  intro vars h
  -- each variable says its part, so the variables say the configuration
  have hnumber {name : String} {n : Nat}
      (h : ∃ raw, vars.get? name = some raw ∧ WritesNumber raw n) :
      ∃ raw, vars.get? name = some raw ∧ IsNumber raw n := by
    obtain ⟨raw, hset, hwrites⟩ := h
    exact ⟨raw, hset, isNumber_of_writes hwrites⟩
  have hsplit : ((vars.get? "CORS_ALLOWED_ORIGINS").map splitOrigins).getD [] = c.origins := by
    obtain ⟨raw, hset, hwrites⟩ := h.origins
    rw [hset]
    exact splitOrigins_of_writes horigins hwrites
  have hsays : Says vars c := {
    name := by rw [h.name, Option.getD_some]
    environment := takes_of_set h.environment _
    host := by rw [h.host, Option.getD_some]
    port := hnumber h.port
    perSecond := takes_of_set (hnumber h.perSecond) _
    burst := takes_of_set (hnumber h.burst) _
    origins := hsplit.symm }
  exact ofVariables_eq_ok_iff.2 hsays

/-- Variables with blanks around numbers and origins, a plus, zeros and capitals. -/
def adorned : Variables :=
  ⟨[("CORS_ALLOWED_ORIGINS", "http://a b ,\tü"), ("RATE_LIMIT_BURST", "000"),
    ("RATE_LIMIT_REQUESTS_PER_SECOND", "4294967295"), ("API_PORT", "\t+0065535 "),
    ("API_HOST", "::1"), ("APP_ENV", "StaGing"), ("APP_NAME", "")]⟩

/-- Nothing of that is read. -/
theorem ofVariables_of_writes_adorned :
    (∀ o ∈ ["http://a b", "ü"], IsOrigin o) ∧
      Writes adorned ⟨"", .staging, "::1", 65535, ⟨4294967295, 0⟩, ["http://a b", "ü"]⟩ ∧
      ofVariables adorned =
        .ok ⟨"", .staging, "::1", 65535, ⟨4294967295, 0⟩, ["http://a b", "ü"]⟩ := by
  have horigin (o : String) (hne : o ≠ "") (hcomma : ',' ∉ o.toList)
      (hfirst : o.toList.head?.all (fun c => !isBlank c) = true)
      (hlast : o.toList.getLast?.all (fun c => !isBlank c) = true) : IsOrigin o :=
    ⟨hne, hcomma, fun c hc => by simpa [hc] using hfirst, fun c hc => by simpa [hc] using hlast⟩
  have horigins : ∀ o ∈ ["http://a b", "ü"], IsOrigin o := by
    intro o ho
    rcases List.mem_pair.1 ho with rfl | rfl
    · exact horigin _ (by decide) (by decide) (by decide) (by decide)
    · exact horigin _ (by decide) (by decide) (by decide) (by decide)
  have hblank : ∀ c ∈ [' '], isBlank c = true := List.forall_mem_singleton.2 rfl
  have htab : ∀ c ∈ ['\t'], isBlank c = true := List.forall_mem_singleton.2 rfl
  have hnone : ∀ c ∈ ([] : List Char), isBlank c = true := by simp
  have hpieces : WritesOrigins "http://a b ,\tü" ["http://a b", "ü"] := by
    refine ⟨["http://a b ".toList, "\tü".toList], .cons ?_ (.cons ?_ .nil), by decide⟩
    · exact ⟨[], [' '], rfl, hnone, hblank⟩
    · exact ⟨['\t'], [], rfl, htab, hnone⟩
  have hport : WritesNumber "\t+0065535 " 65535 :=
    ⟨['+'], 2, .inr rfl, ['\t'], [' '], by decide, htab, hblank⟩
  have hburst : WritesNumber "000" 0 := ⟨[], 2, .inl rfl, [], [], by decide, hnone, hnone⟩
  have hwrites : Writes adorned
      ⟨"", .staging, "::1", 65535, ⟨4294967295, 0⟩, ["http://a b", "ü"]⟩ := {
    name := rfl
    environment := ⟨_, rfl, rfl⟩
    host := rfl
    port := ⟨_, rfl, hport⟩
    perSecond := ⟨_, rfl, writesNumber_ofNat 4294967295⟩
    burst := ⟨_, rfl, hburst⟩
    origins := ⟨_, rfl, hpieces⟩ }
  exact ⟨horigins, hwrites, (ofVariables_of_writes horigins).2 adorned hwrites⟩

end AuditLabels.Config
