import AuditLabels.Proofs.Config.Reading
import AuditLabels.Startup.Launch

/-!
# Precedence of the file of variables

What a file of variables adds to the variables of a process.  The file is read line by line, up to
its end or to a line that is no assignment.  Every variable keeps the first value that it is given,
and the process gives its values before the file does.
-/

namespace AuditLabels

/-! ## Variables that are set -/

/-- A variable that is set is not defined again. -/
theorem Variables.define_of_isSome {vars : Variables} {name : String}
    (h : (vars.get? name).isSome) (value : String) : vars.define name value = vars :=
  if_pos h

namespace Dotenv

/-! ## The first line of a text -/

/-- What is still to come of a line whose characters so far led to the state, without its comment,
and the text behind it.  A line that the text ends in the middle of is none. -/
def restOfLine? : Scan → List Char → Option (List Char × List Char)
  | s, [] => if s.atEnd then some ([], []) else none
  | s, c :: cs =>
    let next := s.step c
    if c = '\n' && next.atEnd then some ([], cs)
    else (restOfLine? next cs).map fun (line, rest) =>
      (if next = .comment then line else c :: line, rest)

/-- The first line of a text, without its comment, and the text behind it. -/
def firstLine? : List Char → Option (List Char × List Char)
  | [] => none
  | c :: cs => restOfLine? .start (c :: cs)

/-- A line stands in front of the text behind it, and has at least a character where the text has
one. -/
theorem exists_front_of_restOfLine? {s : Scan} {cs line rest : List Char}
    (h : restOfLine? s cs = some (line, rest)) :
    ∃ front, cs = front ++ rest ∧ (cs ≠ [] → front ≠ []) := by
  induction cs generalizing s line with
  | nil =>
    unfold restOfLine? at h
    split at h
    · obtain ⟨-, rfl⟩ := Prod.mk.inj (Option.some.inj h)
      exact ⟨[], rfl, id⟩
    · cases h
  | cons c cs ih =>
    unfold restOfLine? at h
    dsimp only at h
    split at h
    · obtain ⟨-, rfl⟩ := Prod.mk.inj (Option.some.inj h)
      exact ⟨[c], rfl, fun _ => List.cons_ne_nil c []⟩
    · obtain ⟨⟨line', rest'⟩, hmore, heq⟩ := Option.map_eq_some_iff.1 h
      obtain ⟨-, rfl⟩ := Prod.mk.inj heq
      obtain ⟨front, rfl, -⟩ := ih hmore
      exact ⟨c :: front, rfl, fun _ => List.cons_ne_nil c front⟩

theorem exists_front_of_firstLine? {text line rest : List Char}
    (h : firstLine? text = some (line, rest)) : ∃ front, text = front ++ rest := by
  cases text with
  | nil => cases h
  | cons c cs =>
    obtain ⟨front, htext, -⟩ := exists_front_of_restOfLine? h
    exact ⟨front, htext⟩

/-- Behind a line less of the text is left. -/
theorem length_lt_of_restOfLine? {s : Scan} {cs line rest : List Char}
    (h : restOfLine? s cs = some (line, rest)) (hcs : cs ≠ []) : rest.length < cs.length := by
  obtain ⟨front, rfl, hne⟩ := exists_front_of_restOfLine? h
  have hpos : 0 < front.length := List.length_pos_iff.2 (hne hcs)
  rw [List.length_append]
  omega

theorem length_lt_of_firstLine? {text line rest : List Char}
    (h : firstLine? text = some (line, rest)) : rest.length < text.length := by
  cases text with
  | nil => cases h
  | cons c cs => exact length_lt_of_restOfLine? h (List.cons_ne_nil c cs)

/-- What is behind a line has no part in it. -/
theorem restOfLine?_replace {s : Scan} {part part' line rest : List Char} (hrest : rest ≠ [])
    (h : restOfLine? s (part ++ rest) = some (line, part' ++ rest)) (other : List Char) :
    restOfLine? s (part ++ other) = some (line, part' ++ other) := by
  induction part generalizing s line with
  | nil =>
    -- the line would have to come out of nothing
    have hlt : (part' ++ rest).length < rest.length := length_lt_of_restOfLine? h hrest
    rw [List.length_append] at hlt
    omega
  | cons c part ih =>
    rw [List.cons_append, restOfLine?] at h ⊢
    dsimp only at h ⊢
    split at h
    · next hbreak =>
      obtain ⟨rfl, heq⟩ := Prod.mk.inj (Option.some.inj h)
      rw [if_pos hbreak, List.append_cancel_right heq]
    · next hbreak =>
      obtain ⟨⟨line', rest'⟩, hmore, heq⟩ := Option.map_eq_some_iff.1 h
      obtain ⟨rfl, rfl⟩ := Prod.mk.inj heq
      rw [if_neg hbreak, ih hmore]
      rfl

/-- Nor has anything that stands in its place, unless the line ends with the text. -/
theorem firstLine?_replace {part part' line rest other : List Char}
    (h : firstLine? (part ++ rest) = some (line, part' ++ rest)) (hother : rest = [] → other = []) :
    firstLine? (part ++ other) = some (line, part' ++ other) := by
  by_cases hrest : rest = []
  · rw [hother hrest, ← hrest]
    exact h
  · cases part with
    | nil =>
      have hlt : (part' ++ rest).length < rest.length := length_lt_of_firstLine? h
      rw [List.length_append] at hlt
      omega
    | cons c part =>
      have hline : restOfLine? .start ((c :: part) ++ rest) = some (line, part' ++ rest) := h
      exact restOfLine?_replace hrest hline other

/-! ## Loading line by line -/

/-- An empty line at the end of a file says nothing. -/
theorem loadLines_append_nil (vars : Variables) (ls : List (List Char)) :
    loadLines vars (ls ++ [[]]) = loadLines vars ls := by
  induction ls generalizing vars with
  | nil => rfl
  | cons line ls ih =>
    rw [List.cons_append, loadLines, loadLines]
    split
    · exact ih vars
    · exact ih _
    · rfl

/-- The lines of a text are its first one and the lines of the text behind it. -/
theorem loadLines_linesFrom (vars : Variables) (s : Scan) (acc cs : List Char) :
    loadLines vars (linesFrom s acc cs) = (restOfLine? s cs).elim vars fun found =>
      loadLines vars ((acc.reverse ++ found.1) :: lines found.2) := by
  induction cs generalizing s acc with
  | nil =>
    rw [linesFrom, restOfLine?]
    split
    · -- the lines of the empty text are an empty line
      show _ = loadLines vars ([acc.reverse ++ []] ++ [[]])
      rw [List.append_nil, loadLines_append_nil]
    · rfl
  | cons c cs ih =>
    rw [linesFrom, restOfLine?]
    dsimp only
    split
    · show _ = loadLines vars ((acc.reverse ++ []) :: lines cs)
      rw [List.append_nil]
      rfl
    · split
      · next hcomment =>
        rw [ih, hcomment, Option.elim_map]
        rfl
      · next hcomment =>
        rw [ih, Option.elim_map]
        congr 1
        funext found
        show _ = loadLines vars ((acc.reverse ++ c :: found.1) :: lines found.2)
        rw [List.reverse_cons, List.append_assoc]
        rfl

theorem loadLines_lines_of_firstLine? {text line rest : List Char}
    (h : firstLine? text = some (line, rest)) (vars : Variables) :
    loadLines vars (lines text) = loadLines vars (line :: lines rest) := by
  cases text with
  | nil => cases h
  | cons c cs =>
    have hline : restOfLine? .start (c :: cs) = some (line, rest) := h
    rw [lines, loadLines_linesFrom, hline]
    rfl

theorem loadLines_lines_of_none {text : List Char} (h : firstLine? text = none)
    (vars : Variables) : loadLines vars (lines text) = vars := by
  cases text with
  | nil => rfl
  | cons c cs =>
    have hline : restOfLine? .start (c :: cs) = none := h
    rw [lines, loadLines_linesFrom, hline]
    rfl

/-! ## Reading a text -/

/-- How a text is read with variables that are set: the lines up to a rest of it are assignments, or
say nothing, and give variables their values one after another; what is set then. -/
inductive Reads : Variables → List Char → List (String × String) → Variables → List Char → Prop
  | here {vars : Variables} {text : List Char} : Reads vars text [] vars text
  | nothing {vars out : Variables} {text line more rest : List Char}
      {assigned : List (String × String)} (hline : firstLine? text = some (line, more))
      (hcontent : Content.of vars line = .nothing) (hmore : Reads vars more assigned out rest) :
      Reads vars text assigned out rest
  | assignment {vars out : Variables} {text line more rest : List Char}
      {assigned : List (String × String)} {name value : String}
      (hline : firstLine? text = some (line, more))
      (hcontent : Content.of vars line = .assignment name value)
      (hmore : Reads (vars.define name value) more assigned out rest) :
      Reads vars text ((name, value) :: assigned) out rest

/-- Reading stops: what is left has no line, or a malformed one in front. -/
def Stops (vars : Variables) (rest : List Char) : Prop :=
  ∀ line more, firstLine? rest = some (line, more) → Content.of vars line = .malformed

section Reads

variable {vars out : Variables} {text rest : List Char} {assigned : List (String × String)}

/-- **The first value counts.**  A variable that is set keeps its value, and any other has the one
that the first assignment gives it. -/
theorem Reads.get?_eq (h : Reads vars text assigned out rest) (name : String) :
    out.get? name = (vars.get? name).or (assigned.lookup name) := by
  induction h with
  | here => rw [List.lookup_nil, Option.or_none]
  | nothing _ _ _ ih => exact ih
  | @assignment vars out text line more rest assigned key value _ _ _ ih =>
    rw [ih, Variables.get?_define, Option.or_assoc, List.lookup_cons]
    by_cases hkey : name = key
    · rw [if_pos hkey, hkey, BEq.rfl, Option.some_or]
    · have hne : (name == key) = false := beq_eq_false_iff_ne.2 hkey
      rw [if_neg hkey, hne, Option.none_or]

/-- Loading a text comes to loading what is left of it. -/
theorem Reads.loadLines_eq (h : Reads vars text assigned out rest) :
    loadLines vars (lines text) = loadLines out (lines rest) := by
  induction h with
  | here => rfl
  | nothing hline hcontent _ ih =>
    rw [loadLines_lines_of_firstLine? hline, loadLines, hcontent]
    exact ih
  | assignment hline hcontent _ ih =>
    rw [loadLines_lines_of_firstLine? hline, loadLines, hcontent]
    exact ih

theorem Stops.loadLines_eq (h : Stops out rest) : loadLines out (lines rest) = out := by
  cases hline : firstLine? rest with
  | none => exact loadLines_lines_of_none hline out
  | some found =>
    obtain ⟨line, more⟩ := found
    rw [loadLines_lines_of_firstLine? hline, loadLines, h line more hline]

/-- Every text can be read up to a place where reading stops.  By induction on the length: the text
behind the first line is shorter. -/
theorem exists_reads (vars : Variables) (text : List Char) :
    ∃ assigned out rest, Reads vars text assigned out rest ∧ Stops out rest := by
  induction hn : text.length using Nat.strongRecOn generalizing vars text with
  | ind n ih =>
    cases hline : firstLine? text with
    | none =>
      refine ⟨[], vars, text, .here, ?_⟩
      intro line more hsome
      rw [hline] at hsome
      cases hsome
    | some found =>
      obtain ⟨line, more⟩ := found
      have hlt : more.length < n := by
        rw [← hn]
        exact length_lt_of_firstLine? hline
      cases hcontent : Content.of vars line with
      | nothing =>
        obtain ⟨assigned, out, rest, hreads, hstops⟩ := ih more.length hlt vars more rfl
        exact ⟨assigned, out, rest, .nothing hline hcontent hreads, hstops⟩
      | assignment name value =>
        obtain ⟨assigned, out, rest, hreads, hstops⟩ :=
          ih more.length hlt (vars.define name value) more rfl
        exact ⟨_, out, rest, .assignment hline hcontent hreads, hstops⟩
      | malformed =>
        refine ⟨[], vars, text, .here, ?_⟩
        intro line' more' hsome
        rw [hline] at hsome
        obtain ⟨rfl, rfl⟩ := Prod.mk.inj (Option.some.inj hsome)
        exact hcontent

end Reads

/-! ## Parts of a text -/

section Parts

variable {vars out : Variables} {assigned : List (String × String)}

/-- What is left is the end of the text. -/
theorem Reads.exists_part {text rest : List Char} (h : Reads vars text assigned out rest) :
    ∃ part, text = part ++ rest := by
  induction h with
  | here => exact ⟨[], rfl⟩
  | nothing hline _ _ ih =>
    obtain ⟨front, rfl⟩ := exists_front_of_firstLine? hline
    obtain ⟨part, rfl⟩ := ih
    exact ⟨front ++ part, (List.append_assoc _ _ _).symm⟩
  | assignment hline _ _ ih =>
    obtain ⟨front, rfl⟩ := exists_front_of_firstLine? hline
    obtain ⟨part, rfl⟩ := ih
    exact ⟨front ++ part, (List.append_assoc _ _ _).symm⟩

theorem Reads.length_le {text rest : List Char} (h : Reads vars text assigned out rest) :
    rest.length ≤ text.length := by
  obtain ⟨part, rfl⟩ := h.exists_part
  rw [List.length_append]
  omega

/-- Where nothing of the text is read nothing is assigned. -/
theorem Reads.eq_of_length_le {text rest : List Char} (h : Reads vars text assigned out rest)
    (hle : text.length ≤ rest.length) : assigned = [] ∧ out = vars := by
  cases h with
  | here => exact ⟨rfl, rfl⟩
  -- behind a line less is left than the text
  | nothing hline _ hmore =>
    have hlt := length_lt_of_firstLine? hline
    have hmoreLe := hmore.length_le
    omega
  | assignment hline _ hmore =>
    have hlt := length_lt_of_firstLine? hline
    have hmoreLe := hmore.length_le
    omega

/-- **What follows has no part in what is read before it.** -/
theorem Reads.replace {part rest other : List Char}
    (h : Reads vars (part ++ rest) assigned out rest) (hother : rest = [] → other = []) :
    Reads vars (part ++ other) assigned out other := by
  generalize htext : part ++ rest = text at h
  induction h generalizing part with
  | here =>
    obtain rfl : part = [] := List.append_left_eq_self.1 htext
    exact .here
  | nothing hline hcontent hmore ih =>
    subst htext
    obtain ⟨part', rfl⟩ := hmore.exists_part
    exact .nothing (firstLine?_replace hline hother) hcontent (ih hother rfl)
  | assignment hline hcontent hmore ih =>
    subst htext
    obtain ⟨part', rfl⟩ := hmore.exists_part
    exact .assignment (firstLine?_replace hline hother) hcontent (ih hother rfl)

theorem dropMark_suffix (cs : List Char) : dropMark cs <:+ cs := by
  cases cs with
  | nil => exact List.suffix_refl _
  | cons c cs =>
    rw [dropMark]
    split
    · exact List.suffix_cons c cs
    · exact List.suffix_refl _

/-- A byte order mark belongs to the part of the text that is read. -/
theorem Reads.replace_dropMark {part rest other : List Char}
    (h : Reads vars (dropMark (part ++ rest)) assigned out rest)
    (hother : rest = [] → other = []) (hread : assigned ≠ [] ∨ other = []) :
    Reads vars (dropMark (part ++ other)) assigned out other := by
  cases part with
  | nil =>
    -- there is no room for a mark, and nothing has been read
    obtain ⟨rfl, rfl⟩ := h.eq_of_length_le (dropMark_suffix rest).length_le
    obtain rfl : other = [] := hread.resolve_left fun hne => hne rfl
    exact .here
  | cons c part =>
    have hdrop : ∀ cs, dropMark (c :: part ++ cs) = dropMark (c :: part) ++ cs := by
      intro cs
      rw [List.cons_append, dropMark, dropMark]
      split
      · rfl
      · rfl
    rw [hdrop] at h ⊢
    exact h.replace hother

end Parts

end Dotenv

/-! ## Configurations of a process -/

namespace Config

/-- The variables that a configuration is read from. -/
def names : List String :=
  ["APP_NAME", "APP_ENV", "API_HOST", "API_PORT", "RATE_LIMIT_REQUESTS_PER_SECOND",
    "RATE_LIMIT_BURST", "CORS_ALLOWED_ORIGINS"]

/-- Variables that are not read make no difference. -/
theorem ofVariables_congr {vars other : Variables}
    (h : ∀ name ∈ names, vars.get? name = other.get? name) :
    ofVariables vars = ofVariables other := by
  have hname : vars.get? nameVariable = other.get? nameVariable := h _ (by decide)
  have henvironment : vars.get? environmentVariable = other.get? environmentVariable :=
    h _ (by decide)
  have hhost : vars.get? hostVariable = other.get? hostVariable := h _ (by decide)
  have hport : vars.get? portVariable = other.get? portVariable := h _ (by decide)
  have hperSecond : vars.get? perSecondVariable = other.get? perSecondVariable := h _ (by decide)
  have hburst : vars.get? burstVariable = other.get? burstVariable := h _ (by decide)
  have horigins : vars.get? originsVariable = other.get? originsVariable := h _ (by decide)
  simp only [ofVariables, readVariable, hname, henvironment, hhost, hport, hperSecond, hburst,
    horigins]

end Config

namespace Launch

open Dotenv (Reads Stops Content firstLine? lines loadLines dropMark)

variable {process vars : Variables} {assigned : List (String × String)} {rest : List Char}

/-- A file that is read up to a rest sets what is set there and what loading the rest adds. -/
theorem settings_of_reads {cs : List Char} (h : Reads process (dropMark cs) assigned vars rest) :
    settings process (some (String.ofList cs)) = loadLines vars (lines rest) := by
  show loadLines process (lines (dropMark (String.ofList cs).toList)) = _
  rw [String.toList_ofList]
  exact h.loadLines_eq

/-- The same settings make the same configuration. -/
theorem configuration_of_settings_eq {file? other? : Option String}
    (h : settings process file? = settings process other?) :
    configuration process file? = configuration process other? :=
  congrArg Config.ofVariables h

/-- A file adds nothing to variables that are all set. -/
theorem get?_settings_of_isSome {name : String} (h : (process.get? name).isSome) (text : String) :
    (settings process (some text)).get? name = process.get? name :=
  Dotenv.get?_loadLines h _

/-- What a file that is read up to a rest says about the configuration of a process. -/
structure KeepsFirst (process : Variables) (text : String) (assigned : List (String × String))
    (vars : Variables) (rest : List Char) : Prop where
  /-- The process comes first, and then the first assignment. -/
  first : ∀ name, vars.get? name = (process.get? name).or (assigned.lookup name)
  /-- Where reading stops the configuration is settled. -/
  settled : Stops vars rest → configuration process (some text) = Config.ofVariables vars
  /-- What is left where reading stops may as well not be there. -/
  rest_idle : Stops vars rest → ∀ part, text.toList = part ++ rest →
    configuration process (some (String.ofList part)) = configuration process (some text)
  /-- A line that assigns to a variable once more may as well not be there. -/
  later_idle : ∀ line more name value part, firstLine? rest = some (line, more) →
    Content.of vars line = .assignment name value → (assigned.lookup name).isSome →
    text.toList = part ++ rest →
    configuration process (some (String.ofList (part ++ more))) = configuration process (some text)

theorem keepsFirst_of_reads {text : String}
    (h : Reads process (dropMark text.toList) assigned vars rest) :
    KeepsFirst process text assigned vars rest := by
  have hload := settings_of_reads h
  rw [String.ofList_toList] at hload
  refine ⟨h.get?_eq, ?_, ?_, ?_⟩
  · intro hstops
    rw [hstops.loadLines_eq] at hload
    show Config.ofVariables (settings process (some text)) = Config.ofVariables vars
    rw [hload]
  · intro hstops part htext
    rw [htext] at h
    have hpart : Reads process (dropMark (part ++ [])) assigned vars [] :=
      h.replace_dropMark (fun _ => rfl) (.inr rfl)
    rw [List.append_nil] at hpart
    apply configuration_of_settings_eq
    rw [hload, settings_of_reads hpart, hstops.loadLines_eq]
    rfl
  · intro line more name value part hline hcontent hassigned htext
    rw [htext] at h
    have hset : (vars.get? name).isSome := by
      rw [h.get?_eq name, Option.isSome_or, hassigned, Bool.or_true]
    have hread : assigned ≠ [] := by
      rintro rfl
      cases hassigned
    have hrest : rest ≠ [] := by
      rintro rfl
      cases hline
    have hmore : Reads process (dropMark (part ++ more)) assigned vars more :=
      h.replace_dropMark (fun hnil => absurd hnil hrest) (.inl hread)
    apply configuration_of_settings_eq
    rw [hload, settings_of_reads hmore, Dotenv.loadLines_lines_of_firstLine? hline, loadLines,
      hcontent]
    show _ = loadLines (vars.define name value) (lines more)
    rw [Variables.define_of_isSome hset]

/-- **The first value counts, and nothing fails by the file itself.**  Every file is read up to a
place where reading stops, and the configuration is read from what is set there: what the process
sets, and of the rest what the file assigns first.  Later assignments and what is left of the file
make no difference, and no file makes one to a process that sets all variables itself. -/
theorem configuration_keepsFirst (process : Variables) (text : String) :
    (∃ assigned vars rest, Reads process (dropMark text.toList) assigned vars rest ∧
      Stops vars rest) ∧
    (∀ assigned vars rest, Reads process (dropMark text.toList) assigned vars rest →
      KeepsFirst process text assigned vars rest) ∧
    ((∀ name ∈ Config.names, (process.get? name).isSome) → ∀ other : String,
      configuration process (some other) = configuration process (some text)) := by
  refine ⟨Dotenv.exists_reads process _, fun _ _ _ h => keepsFirst_of_reads h, ?_⟩
  intro hset other
  apply Config.ofVariables_congr
  intro name hname
  rw [get?_settings_of_isSome (hset name hname), get?_settings_of_isSome (hset name hname)]

/-- A file that assigns twice to the host, and to the port of a process that has one, and ends in
two lines that are not read. -/
def overlong : String := "API_PORT=2\nAPI_HOST='a b' # here\nAPI_HOST=c\n=\nAPP_NAME=d"

/-- The port of the process and the first host are taken, and the name is the default one. -/
theorem configuration_keepsFirst_overlong :
    ∃ vars, Reads ⟨[("API_PORT", "1")]⟩ (dropMark overlong.toList)
        [("API_PORT", "2"), ("API_HOST", "a b"), ("API_HOST", "c")] vars "=\nAPP_NAME=d".toList ∧
      Stops vars "=\nAPP_NAME=d".toList ∧
      configuration ⟨[("API_PORT", "1")]⟩ (some overlong) =
        .ok ⟨"audit-labels", .development, "a b", 1, ⟨10, 50⟩, []⟩ := by
  have hport : firstLine? (dropMark overlong.toList) = some ("API_PORT=2".toList,
      "API_HOST='a b' # here\nAPI_HOST=c\n=\nAPP_NAME=d".toList) := by decide
  have hhost : firstLine? "API_HOST='a b' # here\nAPI_HOST=c\n=\nAPP_NAME=d".toList =
      some ("API_HOST='a b' ".toList, "API_HOST=c\n=\nAPP_NAME=d".toList) := by decide
  have hagain : firstLine? "API_HOST=c\n=\nAPP_NAME=d".toList =
      some ("API_HOST=c".toList, "=\nAPP_NAME=d".toList) := by decide
  have hreads : Reads ⟨[("API_PORT", "1")]⟩ (dropMark overlong.toList)
      [("API_PORT", "2"), ("API_HOST", "a b"), ("API_HOST", "c")]
      ⟨[("API_HOST", "a b"), ("API_PORT", "1")]⟩ "=\nAPP_NAME=d".toList := by
    refine .assignment hport (by decide) ?_
    refine .assignment hhost (by decide) ?_
    exact .assignment hagain (by decide) .here
  have hstops : Stops ⟨[("API_HOST", "a b"), ("API_PORT", "1")]⟩ "=\nAPP_NAME=d".toList := by
    intro line more hline
    obtain ⟨rfl, rfl⟩ := Prod.mk.inj (Option.some.inj hline)
    decide
  obtain ⟨-, hkeeps, -⟩ := configuration_keepsFirst ⟨[("API_PORT", "1")]⟩ overlong
  refine ⟨_, hreads, hstops, ?_⟩
  rw [(hkeeps _ _ _ hreads).settled hstops]
  cbv

end Launch

end AuditLabels
