import AuditLabels.Proofs.Http.Percent
import AuditLabels.Proofs.Service.Reply
import AuditLabels.Proofs.Text.Pieces

/-!
# Lookups by path

What is answered to a lookup whose namespace and code are written in its path.  Only the texts count
and not how they are written, the namespace is judged before the code, and the path always leads to
the lookup, whatever the texts hold.
-/

namespace AuditLabels

/-! ## Paths -/

/-- A path whose segments are written without signs that cut it is its own target. -/
theorem Http.Target.parse?_path {rest : List Char}
    (hrest : ∀ c ∈ rest, Percent.isSegmentChar c = true ∨ c = '/')
    (hsize : Text.Utf8.size ('/' :: rest) ≤ maxSize) :
    parse? (String.ofList ('/' :: rest)) = some ⟨[], '/' :: rest, none⟩ := by
  have hpath : ∀ c ∈ '/' :: rest, isPathChar c = true ∧ (c != '?') = true ∧ (c != '#') = true := by
    intro c hc
    rcases List.mem_cons.1 hc with rfl | hc
    · decide
    rcases hrest c hc with h | rfl
    · simp only [Percent.isSegmentChar, Bool.and_eq_true] at h
      exact ⟨h.1.1.1, h.1.2, h.2⟩
    · decide
  have hquery := Text.span_self fun c hc => (hpath c hc).2.1
  have hfragment := Text.span_self fun c hc => (hpath c hc).2.2
  have hall : ('/' :: rest).all isPathChar = true :=
    List.all_eq_true.2 fun c hc => (hpath c hc).1
  unfold parse?
  rw [String.toList_ofList, if_neg (Nat.not_lt_of_le hsize)]
  show parsePath? [] ('/' :: rest) = _
  unfold parsePath?
  dsimp only
  rw [hfragment.1, hquery.1, hquery.2, hall]
  rfl

namespace Route

/-- The path of a lookup whose segments are written so. -/
def pathOf (segments : List (List Char)) : List Char :=
  "/api/v1/audit-labels".toList ++ segments.flatMap ('/' :: ·)

/-- Segments that are written without slashes are told apart. -/
theorem split_append_segments (a : List Char) {segments : List (List Char)}
    (h : ∀ w ∈ segments, '/' ∉ w) :
    Text.split '/' (a ++ segments.flatMap ('/' :: ·)) = Text.split '/' a ++ segments := by
  induction segments generalizing a with
  | nil => rw [List.flatMap_nil, List.append_nil, List.append_nil]
  | cons w segments ih =>
    have hw : Text.split '/' w = [w] := Text.split_of_not_mem (h w List.mem_cons_self)
    rw [List.flatMap_cons, List.cons_append, Text.split_append_cons,
      ih w fun v hv => h v (List.mem_cons_of_mem _ hv), hw]
    rfl

theorem split_base : Text.split '/' "/api/v1/audit-labels".toList = base := by
  decide

theorem split_pathOf {segments : List (List Char)} (h : ∀ w ∈ segments, '/' ∉ w) :
    Text.split '/' (pathOf segments) = base ++ segments := by
  refine (split_append_segments _ h).trans ?_
  rw [split_base]

theorem ofPath?_pathOf {segments : List (List Char)} (h : ∀ w ∈ segments, '/' ∉ w) :
    ofPath? (pathOf segments) = (ofSegments? segments).map .lookup := by
  -- the two paths part at their second character
  have hhealth : pathOf segments ≠ healthPath := by
    intro he
    have htake : ['/', 'a'] = healthPath.take 2 := congrArg (List.take 2) he
    exact absurd htake (by decide)
  unfold ofPath?
  rw [if_neg hhealth, split_pathOf h]
  dsimp only
  rw [List.take_left, List.drop_left, if_pos rfl]

end Route

/-! ## Outcomes -/

/-- The status and the value that an outcome is answered with. -/
def Outcome.told (o : Outcome) : Nat × Json :=
  match o.result with
  | .ok v => (200, v)
  | .error f => (f.status, f.envelope)

namespace Lookup

open Service (faultJson)

/-- What is told about a code: that the first text names no namespace, or that the second one is no
code, or what the namespace knows about it. -/
def labelTold (space code : String) : Nat × Json :=
  match Namespace.parse space with
  | .error _ => (400, faultJson "INVALID_NAMESPACE" ("Unknown label namespace: " ++ space))
  | .ok ns => match Text.int64? code.toList with
    | none => (400, faultJson "INVALID_PATH_PARAMETER"
        "Invalid path parameter: Invalid code format")
    | some n => (200, .object
        [("namespace", .text ns.name), ("code", .number n), ("label", .text (ns.resolve n).label),
         ("known", .boolean (ns.resolve n).known)])

/-- What is told about all codes: that the text names no namespace, or the catalog. -/
def catalogTold (space : String) : Nat × Json :=
  match Namespace.parse space with
  | .error _ => (400, faultJson "INVALID_NAMESPACE" ("Unknown label namespace: " ++ space))
  | .ok ns => (200, .object
      [("namespace", .text ns.name), ("labels", .array (ns.catalog.map fun e =>
        .object [("code", .number e.code), ("label", .text e.label)]))])

/-- A lookup of a code that got a token is never lost. -/
theorem labelTold_ne_notFound (space code : String) : (labelTold space code).1 ≠ 404 := by
  unfold labelTold
  split
  · exact Nat.ne_of_beq_eq_false rfl
  · split
    · exact Nat.ne_of_beq_eq_false rfl
    · exact Nat.ne_of_beq_eq_false rfl

/-- Nor is a lookup of a catalog. -/
theorem catalogTold_ne_notFound (space : String) : (catalogTold space).1 ≠ 404 := by
  unfold catalogTold
  split
  · exact Nat.ne_of_beq_eq_false rfl
  · exact Nat.ne_of_beq_eq_false rfl

/-- No lookup is done by asking what may be done. -/
theorem serves_options (l : Lookup) : l.serves .options = false := by
  cases l <;> rfl

theorem decodeSegment_of_spells {w : List Char} {s : String} (h : Http.Percent.Spells w s)
    (name : String) : decodeSegment name w = .ok s := by
  rw [decodeSegment, Http.Percent.decode?_of_spells h]
  dsimp only
  rw [String.ofList_toList]

/-- A refused text is told as it is. -/
theorem readNamespace_of_parse_eq_error {s : String} {e : UnknownNamespace}
    (h : Namespace.parse s = .error e) : readNamespace s = .error (.unknownNamespace ⟨s⟩) := by
  have he : e = ⟨s⟩ := by
    unfold Namespace.parse at h
    dsimp only at h
    split at h
    · cases h
    split at h
    · cases h
    · exact (Except.error.inj h).symm
  rw [readNamespace, h, he]

theorem told_findLabel {w v : List Char} {space code : String}
    (hw : Http.Percent.Spells w space) (hv : Http.Percent.Spells v code) :
    (findLabel w v).told = labelTold space code := by
  rw [findLabel, decodeSegment_of_spells hw, Outcome.andThen_ok, decodeSegment_of_spells hv,
    Outcome.andThen_ok, labelTold]
  cases hns : Namespace.parse space with
  | error e =>
    rw [readNamespace_of_parse_eq_error hns, Outcome.andThen_error]
    rfl
  | ok ns =>
    rw [readNamespace, hns, Outcome.andThen_ok, readCode]
    cases Text.int64? code.toList with
    | none => rfl
    | some n =>
      dsimp only
      rw [Outcome.andThen_ok, Outcome.told, Wire.labelJson, Wire.resolvedMembers, ns.resolve_code]

theorem told_listCatalog {w : List Char} {space : String} (hw : Http.Percent.Spells w space) :
    (listCatalog w).told = catalogTold space := by
  rw [listCatalog, decodeSegment_of_spells hw, Outcome.andThen_ok, catalogTold]
  cases hns : Namespace.parse space with
  | error e =>
    rw [readNamespace_of_parse_eq_error hns, Outcome.andThen_error]
    rfl
  | ok ns =>
    rw [readNamespace, hns, Outcome.andThen_ok]
    rfl

end Lookup

namespace Service

open Http.Percent (Spells)

/-! ## Answers -/

/-- The path is a target, and every `GET` of it that gets a token is answered with this status and
value, whatever its query, its headers and its body. -/
def Gets (s : Service) (path : List Char) (told : Nat × Json) : Prop :=
  (∃ target, Http.Target.parse? (String.ofList path) = some target ∧ target.path = path) ∧
    ∀ (m : Moment) (b : Bucket) (r : Http.Request), r.method = .get → r.target.path = path →
      (b.take s.quota m.now).isSome = true →
        (s.handle m b r).1.answer.status = told.1 ∧ (s.handle m b r).1.answer.body = .json told.2

/-- The answer to a lookup tells its outcome. -/
theorem answerOf_eq_json (o : Outcome) : answerOf o = .json o.told.1 o.told.2 := by
  unfold answerOf Outcome.told
  cases o.result <;> rfl

/-- A lookup by a method that serves it is answered with its outcome. -/
theorem respond_of_serves (s : Service) {l : Lookup} {r : Http.Request}
    (h : l.serves r.method = true) :
    s.respond l r =
      ((answerOf (l.perform r)).withHeaders (s.cors.headers r), eventsOf (l.perform r)) := by
  have hoptions : r.method ≠ .options := by
    intro hmethod
    rw [hmethod, l.serves_options] at h
    cases h
  unfold respond
  rw [if_neg hoptions, if_pos h]

theorem status_admitted (s : Service) (m : Moment) {l : Lookup} {r : Http.Request}
    (hserves : l.serves r.method = true) :
    (s.admitted m l r).answer.status = (l.perform r).told.1 := by
  rw [admitted, s.respond_of_serves hserves]
  dsimp only
  rw [status_send, answerOf_eq_json]
  rfl

/-- What a request that got a token is told, if the lookup is done by its method. -/
theorem told_admitted (s : Service) (m : Moment) {l : Lookup} {r : Http.Request}
    (hserves : l.serves r.method = true) (hhead : r.method ≠ .head) :
    (s.admitted m l r).answer.status = (l.perform r).told.1 ∧
      (s.admitted m l r).answer.body = .json (l.perform r).told.2 := by
  refine ⟨s.status_admitted m hserves, ?_⟩
  rw [admitted, s.respond_of_serves hserves]
  dsimp only
  rw [body_send, if_neg hhead, answerOf_eq_json]
  rfl

/-- Segments in which no sign cuts the path are asked for with the outcome of their lookup. -/
theorem gets_pathOf (s : Service) {segments : List (List Char)} {l : Lookup}
    (hchars : ∀ w ∈ segments, ∀ c ∈ w, Http.Percent.isSegmentChar c = true)
    (hl : Route.ofSegments? segments = some l) (hserves : l.serves .get = true)
    {told : Nat × Json} (htold : ∀ r, (l.perform r).told = told)
    (hsize : Text.Utf8.size (Route.pathOf segments) ≤ Http.Target.maxSize) :
    s.Gets (Route.pathOf segments) told := by
  have hslash : ∀ w ∈ segments, '/' ∉ w := by
    intro w hw hc
    exact absurd (hchars w hw _ hc) (by decide)
  have hroute : Route.ofPath? (Route.pathOf segments) = some (.lookup l) := by
    rw [Route.ofPath?_pathOf hslash, hl]
    rfl
  -- the path is cut nowhere, so the target parser takes it as a whole
  have hpath : ∀ c ∈ Route.pathOf segments, Http.Percent.isSegmentChar c = true ∨ c = '/' := by
    intro c hc
    rcases List.mem_append.1 hc with hc | hc
    · have hbase : ("/api/v1/audit-labels".toList.all fun c =>
          Http.Percent.isSegmentChar c || c == '/') = true := by decide
      rcases Bool.or_eq_true_iff.1 (List.all_eq_true.1 hbase c hc) with h | h
      · exact .inl h
      · exact .inr (beq_iff_eq.1 h)
    · obtain ⟨w, hw, hc⟩ := List.mem_flatMap.1 hc
      rcases List.mem_cons.1 hc with rfl | hc
      · exact .inr rfl
      · exact .inl (hchars w hw c hc)
  refine ⟨⟨⟨[], Route.pathOf segments, none⟩, ?_, rfl⟩, ?_⟩
  · exact Http.Target.parse?_path (fun c hc => hpath c (List.mem_cons_of_mem '/' hc)) hsize
  · intro m b r hmethod htarget hb
    obtain ⟨rest, htake⟩ := Option.isSome_iff_exists.1 hb
    have hhandle : s.handle m b r = (s.admitted m l r, rest) := by
      simp only [handle, htarget, hroute, htake]
    rw [hhandle, ← htold r]
    exact s.told_admitted m (by rw [hmethod]; exact hserves) (by rw [hmethod]; decide)

/-- **The texts of a path decide the answer.**  However a namespace and a code are written in a
path, a `GET` that gets a token is told of the namespace if that is wrong, and otherwise of the code
if that is wrong, and otherwise what the namespace knows about the code; the path is always found.
The same holds of the catalog of a namespace. -/
theorem gets_written_texts (s : Service) {space code : String} (hspace : space ≠ "")
    (hcode : code ≠ "") :
    ((Lookup.labelTold space code).1 ≠ 404 ∧
      ∀ w v, Spells w space → Spells v code →
        Text.Utf8.size (Route.pathOf [w, v]) ≤ Http.Target.maxSize →
        s.Gets (Route.pathOf [w, v]) (Lookup.labelTold space code)) ∧
    ((Lookup.catalogTold space).1 ≠ 404 ∧
      ∀ w, Spells w space → Text.Utf8.size (Route.pathOf [w]) ≤ Http.Target.maxSize →
        s.Gets (Route.pathOf [w]) (Lookup.catalogTold space)) := by
  have hchars : ∀ {w : List Char} {t : String}, Spells w t →
      ∀ c ∈ w, Http.Percent.isSegmentChar c = true :=
    fun h => Http.Percent.isSegmentChar_of_writes h
  refine ⟨⟨Lookup.labelTold_ne_notFound space code, ?_⟩,
    Lookup.catalogTold_ne_notFound space, ?_⟩
  · intro w v hw hv hsize
    refine s.gets_pathOf ?_ (l := .label w v) ?_ rfl (fun r => Lookup.told_findLabel hw hv) hsize
    · intro u hu
      rcases List.mem_cons.1 hu with rfl | hu
      · exact hchars hw
      · rw [List.mem_singleton.1 hu]
        exact hchars hv
    · have hne := Http.Percent.ne_nil_of_spells hv hcode
      rw [Route.ofSegments?, List.isEmpty_eq_false_iff.2 hne]
      rfl
  · intro w hw hsize
    refine s.gets_pathOf ?_ (l := .catalog w) ?_ rfl (fun r => Lookup.told_listCatalog hw) hsize
    · intro u hu
      rw [List.mem_singleton.1 hu]
      exact hchars hw
    · have hne := Http.Percent.ne_nil_of_spells hw hspace
      rw [Route.ofSegments?, List.isEmpty_eq_false_iff.2 hne]
      rfl

/-- An escaped letter of the namespace is read, and the first action is found.  A blank in front of
the namespace does not count, and the catalog goes from the first resource to the last. -/
theorem gets_written_texts_escaped :
    ∃ s, (ofConfig ⟨"audit-labels", .development, "127.0.0.1", 0, ⟨1, 2⟩, []⟩).2 = .ok s ∧
      s.Gets (Route.pathOf ["%61ction".toList, "1".toList]) (200, .object
        [("namespace", .text "action"), ("code", .number 1), ("label", .text "Settings Update"),
         ("known", .boolean true)]) ∧
      ∃ labels, labels.length = 18 ∧
        labels.head? = some (.object [("code", .number 1), ("label", .text "Settings")]) ∧
        labels.getLast? = some (.object [("code", .number 18), ("label", .text "Bot Staff")]) ∧
        s.Gets (Route.pathOf ["%20resources".toList]) (200, .object
          [("namespace", .text "resource"), ("labels", .array labels)]) := by
  have hplain : ∀ {t : String}, t.toList.all Http.Percent.isUnreserved = true →
      Spells t.toList t :=
    fun h => Http.Percent.spells_toList fun c hc => List.all_eq_true.1 h c hc
  refine ⟨_, rfl, ?_, Namespace.resource.catalog.map fun e =>
    .object [("code", .number e.code), ("label", .text e.label)], rfl, rfl, rfl, ?_⟩
  · have hspace : Spells "%61ction".toList "action" :=
      .escaped (x := '6') (y := '1') (rfl : _ = some 6) (rfl : _ = some 1)
        (hplain (t := "ction") (by decide))
    have hcode : Spells "1".toList "1" := hplain (by decide)
    have htold : Lookup.labelTold "action" "1" = (200, .object
        [("namespace", .text "action"), ("code", .number 1), ("label", .text "Settings Update"),
         ("known", .boolean true)]) := rfl
    rw [← htold]
    exact (gets_written_texts _ (by decide) (by decide)).1.2 _ _ hspace hcode (by decide)
  · have hspace : Spells "%20resources".toList " resources" :=
      .escaped (x := '2') (y := '0') (rfl : _ = some 2) (rfl : _ = some 0)
        (hplain (t := "resources") (by decide))
    have htold : Lookup.catalogTold " resources" = (200, .object
        [("namespace", .text "resource"), ("labels", .array (Namespace.resource.catalog.map
          fun e => .object [("code", .number e.code), ("label", .text e.label)]))]) := rfl
    rw [← htold]
    exact (gets_written_texts _ (by decide) (show "1" ≠ "" by decide)).2.2 _ hspace (by decide)

end Service

end AuditLabels
