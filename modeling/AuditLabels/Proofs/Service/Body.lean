import AuditLabels.Proofs.Service.Batch

/-!
# Bodies

How the body of a batch relates to the text that it is.  A body that is a batch request as a whole
is taken for that request, and one that is refused is no batch request either, for the same reason
and at the same place.  But only the first value of a body is read, so what follows it decides
whether a body that is answered was a request.
-/

namespace AuditLabels

open Json (readWhole skipSpace)
open Http.MediaType (SaysJson)

/-! ## Whole texts and their beginnings -/

/-- A text whose value cannot be read is no whole text, for the same reason. -/
theorem Json.readWhole_of_read_eq_error {α : Type} {read : Json.Reader α} {bytes : List UInt8}
    {f : Json.Fault} (h : read bytes = .error f) : readWhole read bytes = .error f := by
  rw [readWhole, h]
  rfl

/-- A text whose value is read is a whole text if only blanks follow. -/
theorem Json.readWhole_eq_ok_iff_of_read {α : Type} {read : Json.Reader α}
    {bytes rest : List UInt8} {x : α} (h : read bytes = .ok (x, rest)) :
    readWhole read bytes = .ok x ↔ skipSpace rest = [] := by
  rw [readWhole_eq_ok, h]
  constructor
  · rintro ⟨r, hr, hs⟩
    obtain ⟨-, rfl⟩ := Prod.mk.inj (Except.ok.inj hr)
    exact hs
  · intro hs
    exact ⟨rest, rfl, hs⟩

namespace Service

open Lookup (IsLead IsPlace batchTold resolveBatch told_of_read_eq_ok told_of_read_eq_error)

/-! ## Envelopes -/

/-- A request that was read is never said to be an invalid body. -/
theorem batchTold_validate_ne (q : BatchRequest) (message : String) :
    (batchTold (Lookup.validate q)).2 ≠ faultJson "INVALID_BODY" message := by
  rw [Lookup.batchTold_validate]
  intro h
  split at h
  · simp [BatchRequest.labelsJson, faultJson] at h
  · simp [BatchRequest.overlongJson, faultJson] at h

/-! ## Agreement with the whole text -/

variable {s : Service} {m : Moment} {b : Bucket} {r : Http.Request}

/-- **A body and its text are read alike.**  If the text is a batch request, the body is taken for
that request and is answered as its lists are long; and if the body is said to be invalid, the text
is no batch request, and the message is the one about the text behind what introduces it. -/
theorem body_agrees_with_text (h : s.Posts m b r) (hjson : SaysJson r) {t : String}
    (hbody : r.body = Text.Utf8.encode t.toList) (hsize : r.body.length ≤ 2097152) :
    (∀ q, readWhole BatchRequest.read (Text.Utf8.encode t.toList) = .ok q →
      Lookup.decodeBatch r.body = .ok q ∧
      match Lookup.validate q with
      | .ok q' => q' = q ∧ (s.handle m b r).1.answer.status = 200 ∧
          (s.handle m b r).1.answer.body = .json q.labelsJson
      | .error f => (s.handle m b r).1.answer.status = f.status ∧
          (s.handle m b r).1.answer.body = .json f.envelope) ∧
    (∀ message, (s.handle m b r).1.answer.body = .json (faultJson "INVALID_BODY" message) →
      ∃ f lead place, readWhole BatchRequest.read (Text.Utf8.encode t.toList) = .error f ∧
        IsLead f.cause lead ∧ IsPlace f.path place ∧
        message = "Invalid request body: " ++ (lead ++ place ++ f.message r.body)) := by
  obtain ⟨hstatus, hanswer⟩ := told_handle h
  rw [← hbody, hstatus, hanswer]
  constructor
  · intro q hq
    obtain ⟨rest, hread, -⟩ := Json.readWhole_eq_ok.1 hq
    refine ⟨Lookup.decodeBatch_of_read_eq_ok hread, ?_⟩
    rw [told_of_read_eq_ok hjson hsize hread, Lookup.validate_eq]
    by_cases hlong : q.overlong = []
    · rw [if_pos hlong]
      exact ⟨rfl, rfl, rfl⟩
    · rw [if_neg hlong]
      exact ⟨rfl, rfl⟩
  · intro message hmessage
    cases hread : BatchRequest.read r.body with
    | ok x =>
      obtain ⟨q, rest⟩ := x
      rw [told_of_read_eq_ok hjson hsize hread] at hmessage
      exact absurd (Http.Body.json.inj hmessage) (batchTold_validate_ne q message)
    | error f =>
      rw [told_of_read_eq_error hjson hsize hread] at hmessage
      obtain ⟨lead, place, hlead, hplace, htext⟩ := Lookup.faultText_eq f r.body
      refine ⟨f, lead, place, Json.readWhole_of_read_eq_error hread, hlead, hplace, ?_⟩
      rw [← htext]
      simpa [faultJson] using hmessage.symm

/-- A list with a code more than a list may have. -/
def overfull : String :=
  String.ofList ("[[".toList ++ [','].intercalate (List.replicate 101 ['0']) ++ "]]".toList)

/-- Evaluation has to start from the characters, since it is slow to take a long text apart. -/
theorem toList_overfull : overfull.toList =
    "[[".toList ++ [','].intercalate (List.replicate 101 ['0']) ++ "]]".toList :=
  String.toList_ofList

/-- Where the first code is `null`, the body and its text are refused at one place.  A body with a
code too many is read as its text is, and its answer has the whole list. -/
theorem body_agrees_with_text_element :
    ∃ s, (ofConfig twoAtOnce).2 = .ok s ∧
      (∃ r, r = posted "application/json" "[[null]]" ∧ s.Posts early .full r ∧ SaysJson r ∧
        ∃ f lead place,
          readWhole BatchRequest.read (Text.Utf8.encode "[[null]]".toList) = .error f ∧
          IsLead f.cause lead ∧ IsPlace f.path place ∧
          "Invalid request body: Failed to deserialize the JSON body into the target type: " ++
            "[0][0]: invalid type: null, expected i64 at line 1 column 6" =
              "Invalid request body: " ++ (lead ++ place ++ f.message r.body)) ∧
      ∃ r, r = posted "application/json" overfull ∧ s.Posts early .full r ∧ SaysJson r ∧
        readWhole BatchRequest.read (Text.Utf8.encode overfull.toList) =
          .ok ⟨List.replicate 101 0, []⟩ ∧
        Lookup.decodeBatch r.body = .ok ⟨List.replicate 101 0, []⟩ ∧
        (s.handle early .full r).1.answer.status = 400 ∧
        (s.handle early .full r).1.answer.body = .json (.object [("error", .object
          [("code", .text "VALIDATION_ERROR"),
           ("message", .text
             "Validation error: action_types: At most 100 action types per request"),
           ("details", .object [("action_types", .array [.object
             [("code", .text "length"), ("message", .text "At most 100 action types per request"),
              ("params", .object [("max", .number 100),
                ("value", .array (List.replicate 101 (.number 0)))])]])])])]) := by
  obtain ⟨s, hs⟩ : ∃ s, (ofConfig twoAtOnce).2 = .ok s := ⟨_, rfl⟩
  refine ⟨s, hs, ⟨_, rfl, ?_⟩, _, rfl, ?_⟩
  · have hposts := s.posts_posted early "application/json" "[[null]]"
    have hjson := saysJson_posted "[[null]]"
    have hread : BatchRequest.read (posted "application/json" "[[null]]").body =
        .error ⟨.invalidType .null .int64, 2, [.index 0, .index 0]⟩ := by
      cbv
    have htext : "Invalid request body: " ++
        Lookup.faultText ⟨.invalidType .null .int64, 2, [.index 0, .index 0]⟩
          (posted "application/json" "[[null]]").body =
        "Invalid request body: Failed to deserialize the JSON body into the target type: " ++
          "[0][0]: invalid type: null, expected i64 at line 1 column 6" := by
      decide +kernel
    refine ⟨hposts, hjson, ?_⟩
    apply (body_agrees_with_text hposts hjson (body_posted _ _) (by decide)).2
    rw [(told_handle hposts).2, told_of_read_eq_error hjson (by decide) hread, htext]
  · have hposts := s.posts_posted early "application/json" overfull
    have hjson := saysJson_posted overfull
    have hread : readWhole BatchRequest.read (Text.Utf8.encode overfull.toList) =
        .ok ⟨List.replicate 101 0, []⟩ := by
      rw [toList_overfull]
      cbv
    have hsize : (posted "application/json" overfull).body.length ≤ 2097152 := by
      rw [body_posted, toList_overfull]
      decide +kernel
    have hlong : Lookup.validate ⟨List.replicate 101 0, []⟩ =
        .error (.tooLong [⟨"action_types", "action types", List.replicate 101 0⟩]) := by
      decide +kernel
    have hcodes : (List.replicate 101 (0 : Int)).map Json.number = List.replicate 101 (.number 0) :=
      List.map_replicate
    obtain ⟨hdecode, hanswer⟩ :=
      (body_agrees_with_text hposts hjson (body_posted _ _) hsize).1 _ hread
    rw [hlong] at hanswer
    rw [← hcodes]
    exact ⟨hposts, hjson, hread, hdecode, hanswer⟩

/-! ## What follows the first value -/

/-- **Only the first value of a body is read.**  A body of the right kind and size is answered if a
batch request within the limits stands at its beginning, and then with the labels of that request;
it is that request as a whole exactly if nothing but blanks follows. -/
theorem answered_iff_begins (h : s.Posts m b r) (hjson : SaysJson r) :
    ((s.handle m b r).1.answer.status = 200 ↔ r.body.length ≤ 2097152 ∧
      ∃ q rest, BatchRequest.read r.body = .ok (q, rest) ∧
        q.actions.length ≤ 100 ∧ q.resources.length ≤ 100) ∧
    ∀ q rest, (s.handle m b r).1.answer.status = 200 → BatchRequest.read r.body = .ok (q, rest) →
      (s.handle m b r).1.answer.body = .json q.labelsJson ∧
        (readWhole BatchRequest.read r.body = .ok q ↔ skipSpace rest = []) := by
  obtain ⟨hstatus, hanswer⟩ := told_handle h
  rw [hstatus, hanswer]
  rcases Lookup.told_resolveBatch_cases r with ⟨q, hq, htold⟩ | ⟨f, hf, htold⟩
  · obtain ⟨-, hsize, ⟨rest, hread⟩, hlong⟩ := Lookup.readBatch_eq_ok_iff.1 hq
    rw [htold, hread]
    refine ⟨iff_of_true rfl ⟨hsize, q, rest, rfl, q.overlong_eq_nil_iff.1 hlong⟩, ?_⟩
    intro q' rest' _ he
    obtain ⟨rfl, rfl⟩ := Prod.mk.inj (Except.ok.inj he)
    exact ⟨rfl, Json.readWhole_eq_ok_iff_of_read hread⟩
  · have hrefused : (resolveBatch r).told.1 ≠ 200 := by
      rw [htold]
      exact Nat.ne_of_beq_eq_false rfl
    refine ⟨iff_of_false hrefused ?_, fun q rest hok => absurd hok hrefused⟩
    rintro ⟨hsize, q, rest, hread, hlimits⟩
    have hq : Lookup.readBatch r = .ok q := Lookup.readBatch_eq_ok_iff.2
      ⟨hjson, hsize, ⟨rest, hread⟩, q.overlong_eq_nil_iff.2 hlimits⟩
    rw [hf] at hq
    cases hq

/-- One list and a line break behind it are a request, and are answered. -/
theorem answered_iff_begins_blank :
    ∃ s r, (ofConfig twoAtOnce).2 = .ok s ∧ r = posted "application/json" "[[1]]\n" ∧
      s.Posts early .full r ∧ SaysJson r ∧ (s.handle early .full r).1.answer.status = 200 ∧
      (s.handle early .full r).1.answer.body = .json (.object
        [("action_types", .array [.object [("code", .number 1), ("label", .text "Settings Update"),
          ("known", .boolean true)]]),
         ("resource_types", .array [])]) ∧
      readWhole BatchRequest.read r.body = .ok ⟨[1], []⟩ := by
  obtain ⟨s, hs⟩ : ∃ s, (ofConfig twoAtOnce).2 = .ok s := ⟨_, rfl⟩
  have hposts := s.posts_posted early "application/json" "[[1]]\n"
  have hjson := saysJson_posted "[[1]]\n"
  have hread : BatchRequest.read (posted "application/json" "[[1]]\n").body =
      .ok (⟨[1], []⟩, [0x0A]) := by
    cbv
  obtain ⟨hiff, hanswer⟩ := answered_iff_begins hposts hjson
  have hok := hiff.2 ⟨by decide, _, _, hread, by decide, by decide⟩
  obtain ⟨hlabels, hwhole⟩ := hanswer _ _ hok hread
  exact ⟨s, _, hs, rfl, hposts, hjson, hok, hlabels, hwhole.2 (by decide)⟩

/-- **A body that is no request is answered.**  Behind the empty request stands a letter, so the
whole body is no request, but nobody looks at the letter. -/
theorem trailing_text_answered :
    ∃ s r, (ofConfig twoAtOnce).2 = .ok s ∧ r = posted "application/json" "\x7b\x7d x" ∧
      s.Posts early .full r ∧ SaysJson r ∧ (∀ q, readWhole BatchRequest.read r.body ≠ .ok q) ∧
      (s.handle early .full r).1.answer.status = 200 := by
  obtain ⟨s, hs⟩ : ∃ s, (ofConfig twoAtOnce).2 = .ok s := ⟨_, rfl⟩
  have hposts := s.posts_posted early "application/json" "\x7b\x7d x"
  have hjson := saysJson_posted "\x7b\x7d x"
  have hread : BatchRequest.read (posted "application/json" "\x7b\x7d x").body =
      .ok (⟨[], []⟩, [0x20, 0x78]) := by
    cbv
  refine ⟨s, _, hs, rfl, hposts, hjson, ?_, ?_⟩
  · intro q hq
    obtain ⟨rest, hrest, hblank⟩ := Json.readWhole_eq_ok.1 hq
    rw [hread] at hrest
    obtain ⟨-, rfl⟩ := Prod.mk.inj (Except.ok.inj hrest)
    exact absurd hblank (by decide)
  · rw [(told_handle hposts).1, told_of_read_eq_ok hjson (by decide) hread]
    rfl

end Service

end AuditLabels
