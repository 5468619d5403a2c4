import AuditLabels.Proofs.Batch.Codes
import AuditLabels.Proofs.Http.MediaType
import AuditLabels.Proofs.Label.Agreement
import AuditLabels.Proofs.Service.Lookup
import AuditLabels.Proofs.Service.Run
import AuditLabels.Proofs.Text.Numeral

/-!
# Batches

What is answered to a batch that gets a token.  Its content type is judged first, then its size, its
text and the lengths of its lists.  Where nothing is wrong with it, every code is told what the
lookup of that code alone is told.
-/

namespace AuditLabels

open Json (readWhole)

/-! ## Lists that are too long -/

namespace BatchRequest

/-- The name of the list of codes of a namespace. -/
def listName : Namespace → String
  | .action => "action_types"
  | .resource => "resource_types"

/-- What is said about a list of codes that is too long. -/
def lengthMessage : Namespace → String
  | .action => "At most 100 action types per request"
  | .resource => "At most 100 resource types per request"

/-- The namespaces in which more than a hundred codes are asked for. -/
def overlong (b : BatchRequest) : List Namespace :=
  [Namespace.action, .resource].filter fun ns => 100 < (b.codes ns).length

/-- What is told about a list that is too long: how many codes it may have, and all that it has. -/
def lengthJson (b : BatchRequest) (ns : Namespace) : Json :=
  .array [.object [("code", .text "length"), ("message", .text (lengthMessage ns)),
    ("params", .object [("max", .number 100), ("value", .array ((b.codes ns).map .number))])]]

/-- The envelope that tells which lists are too long. -/
def overlongJson (b : BatchRequest) : Json :=
  .object [("error", .object
    [("code", .text "VALIDATION_ERROR"),
     ("message", .text ("Validation error: " ++ String.intercalate "\n"
       (b.overlong.map fun ns => listName ns ++ ": " ++ lengthMessage ns))),
     ("details", .object (b.overlong.map fun ns => (listName ns, b.lengthJson ns)))])]

/-- What is told about a code in a batch. -/
def itemJson (ns : Namespace) (c : Int) : Json :=
  .object [("code", .number c), ("label", .text (ns.resolve c).label),
    ("known", .boolean (ns.resolve c).known)]

/-- What is told about a request that is answered: every code of each list, in order. -/
def labelsJson (b : BatchRequest) : Json :=
  .object [("action_types", .array (b.actions.map (itemJson .action))),
    ("resource_types", .array (b.resources.map (itemJson .resource)))]

/-- The list of a namespace, seen as one that is too long. -/
def excess (b : BatchRequest) : Namespace → Excess
  | .action => ⟨actionsName, "action types", b.actions⟩
  | .resource => ⟨resourcesName, "resource types", b.resources⟩

theorem batchJson_of (b : BatchRequest) : Wire.batchJson (.of b) = b.labelsJson := by
  have hitems : ∀ (ns : Namespace) (codes : List Int),
      (codes.map ns.resolve).map Wire.resolvedJson = codes.map (itemJson ns) := by
    intro ns codes
    rw [List.map_map]
    apply List.map_congr_left
    intro c _
    show Wire.resolvedJson (ns.resolve c) = itemJson ns c
    rw [Wire.resolvedJson, Wire.resolvedMembers, ns.resolve_code, itemJson]
  rw [Wire.batchJson, BatchResponse.of, hitems, hitems]
  rfl

theorem excesses_eq (b : BatchRequest) : b.excesses = b.overlong.map b.excess := by
  have hone : ∀ ns, (if 100 < (b.codes ns).length then [b.excess ns] else []) =
      ([ns].filter fun ns => 100 < (b.codes ns).length).map b.excess := by
    intro ns
    by_cases h : 100 < (b.codes ns).length
    · rw [if_pos h, List.filter_cons, if_pos (decide_eq_true h)]
      rfl
    · rw [if_neg h, List.filter_cons, if_neg (mt of_decide_eq_true h)]
      rfl
  have htwo : [Namespace.action, .resource] = [Namespace.action] ++ [.resource] := rfl
  rw [overlong, htwo, List.filter_append, List.map_append, ← hone, ← hone]
  rfl

theorem overlong_eq_nil_iff (b : BatchRequest) :
    b.overlong = [] ↔ b.actions.length ≤ 100 ∧ b.resources.length ≤ 100 := by
  have hnil := b.excesses_eq_nil_iff
  rw [b.excesses_eq, List.map_eq_nil_iff] at hnil
  exact hnil

theorem field_excess (b : BatchRequest) (ns : Namespace) : (b.excess ns).field = listName ns := by
  cases ns <;> rfl

theorem message_excess (b : BatchRequest) (ns : Namespace) :
    (b.excess ns).message = lengthMessage ns := by
  cases ns <;> rfl

theorem excessMember_excess (b : BatchRequest) (ns : Namespace) :
    Wire.excessMember (b.excess ns) = (listName ns, b.lengthJson ns) := by
  rw [Wire.excessMember, b.field_excess, b.message_excess]
  cases ns <;> rfl

/-- The failure of a request with lists that are too long is told in their envelope. -/
theorem envelope_tooLong (b : BatchRequest) :
    (Failure.tooLong b.excesses).envelope = b.overlongJson := by
  have hlines : b.excesses.map (fun e => e.field ++ ": " ++ e.message) =
      b.overlong.map fun ns => listName ns ++ ": " ++ lengthMessage ns := by
    rw [b.excesses_eq, List.map_map]
    refine List.map_congr_left fun ns _ => ?_
    rw [Function.comp_apply, b.field_excess, b.message_excess]
  have hdetails : b.excesses.map Wire.excessMember =
      b.overlong.map fun ns => (listName ns, b.lengthJson ns) := by
    rw [b.excesses_eq, List.map_map]
    exact List.map_congr_left fun ns _ => b.excessMember_excess ns
  rw [overlongJson, ← hlines, ← hdetails]
  rfl

end BatchRequest

/-! ## Stages -/

namespace Lookup

open Http.MediaType (SaysJson saysJson_iff)
open Service (faultJson)

variable {r : Http.Request}

theorem readBatch_of_not_saysJson (h : ¬ SaysJson r) :
    readBatch r =
      .error (.invalidBody "Expected request with \x60Content-Type: application/json\x60") := by
  rw [← saysJson_iff, Bool.not_eq_true] at h
  rw [readBatch, h]
  rfl

theorem readBatch_of_lt (h : SaysJson r) (hsize : maxBody < r.body.length) :
    readBatch r =
      .error (.invalidBody "Failed to buffer the request body: length limit exceeded") := by
  rw [← saysJson_iff] at h
  rw [readBatch, h, if_pos hsize]
  rfl

/-- Only the body of a batch of the right kind and size is read. -/
theorem readBatch_of_le (h : SaysJson r) (hsize : r.body.length ≤ maxBody) :
    readBatch r = decodeBatch r.body >>= validate := by
  rw [← saysJson_iff] at h
  rw [readBatch, h, if_neg (Nat.not_lt_of_le hsize)]
  rfl

theorem decodeBatch_of_read_eq_ok {bytes rest : List UInt8} {b : BatchRequest}
    (hread : BatchRequest.read bytes = .ok (b, rest)) : decodeBatch bytes = .ok b := by
  rw [decodeBatch, hread]

theorem decodeBatch_of_read_eq_error {bytes : List UInt8} {f : Json.Fault}
    (hread : BatchRequest.read bytes = .error f) :
    decodeBatch bytes = .error (.invalidBody (faultText f bytes)) := by
  rw [decodeBatch, hread]

/-- Requests are valid if none of their lists is too long. -/
theorem validate_eq (b : BatchRequest) :
    validate b = if b.overlong = [] then .ok b else .error (.tooLong b.excesses) := by
  by_cases hlong : b.overlong = []
  · rw [if_pos hlong, validate, b.excesses_eq, hlong]
    rfl
  · have hne : b.excesses ≠ [] := by
      rw [b.excesses_eq, Ne, List.map_eq_nil_iff]
      exact hlong
    rw [if_neg hlong, validate, List.isEmpty_eq_false_iff.2 hne]
    rfl

/-- A batch request is taken from a body of the right kind and size that begins with it, if it is
valid. -/
theorem readBatch_eq_ok_iff {b : BatchRequest} :
    readBatch r = .ok b ↔ SaysJson r ∧ r.body.length ≤ maxBody ∧
      (∃ rest, BatchRequest.read r.body = .ok (b, rest)) ∧ b.overlong = [] := by
  by_cases hjson : SaysJson r
  case neg =>
    rw [readBatch_of_not_saysJson hjson]
    simp [hjson]
  by_cases hsize : r.body.length ≤ maxBody
  case neg =>
    rw [readBatch_of_lt hjson (Nat.lt_of_not_le hsize)]
    simp [hsize]
  rw [readBatch_of_le hjson hsize, and_iff_right hjson, and_iff_right hsize]
  cases hread : BatchRequest.read r.body with
  | error f =>
    rw [decodeBatch_of_read_eq_error hread]
    show Except.error _ = Except.ok b ↔ _
    simp
  | ok x =>
    obtain ⟨q, rest⟩ := x
    rw [decodeBatch_of_read_eq_ok hread]
    show validate q = .ok b ↔ _
    rw [validate_eq]
    constructor
    · intro h
      split at h
      · next hlong =>
        obtain rfl := Except.ok.inj h
        exact ⟨⟨rest, rfl⟩, hlong⟩
      · cases h
    · rintro ⟨⟨_, h⟩, hlong⟩
      obtain ⟨rfl, -⟩ := Prod.mk.inj (Except.ok.inj h)
      rw [if_pos hlong]

/-! ## Messages about bodies -/

/-- How a message about a body begins: its text cannot be read, or it says something else than a
request. -/
def IsLead (c : Json.Cause) (lead : String) : Prop :=
  (c.isData = false ∧ lead = "Failed to parse the request body as JSON: ") ∨
    (c.isData = true ∧ lead = "Failed to deserialize the JSON body into the target type: ")

/-- What a message about a body says between its beginning and the fault: nothing, or the element
that the fault is in. -/
def IsPlace (path : List Json.Step) (place : String) : Prop :=
  (path = [] ∧ place = "") ∨ (path ≠ [] ∧ place = Json.pathText path ++ ": ")

theorem faultText_eq (f : Json.Fault) (body : List UInt8) :
    ∃ lead place, IsLead f.cause lead ∧ IsPlace f.path place ∧
      faultText f body = lead ++ place ++ f.message body := by
  refine ⟨_, _, ?_, ?_, rfl⟩
  · split
    · next hdata => exact .inr ⟨hdata, rfl⟩
    · next hdata => exact .inl ⟨Bool.eq_false_iff.2 hdata, rfl⟩
  · split
    · next hnil => exact .inl ⟨List.isEmpty_iff.1 hnil, rfl⟩
    · next hne => exact .inr ⟨mt List.isEmpty_iff.2 hne, rfl⟩

/-! ## What is told -/

/-- What is told about a request, or about what is wrong with it. -/
def batchTold : Except Failure BatchRequest → Nat × Json
  | .ok b => (200, b.labelsJson)
  | .error f => (f.status, f.envelope)

theorem told_resolveBatch (r : Http.Request) :
    (resolveBatch r).told = batchTold (readBatch r) := by
  rw [resolveBatch]
  cases readBatch r with
  | ok b => exact congrArg (Prod.mk 200) b.batchJson_of
  | error f => rfl

theorem told_of_read_eq_ok (h : SaysJson r) (hsize : r.body.length ≤ maxBody) {b : BatchRequest}
    {rest : List UInt8} (hread : BatchRequest.read r.body = .ok (b, rest)) :
    (resolveBatch r).told = batchTold (validate b) := by
  rw [told_resolveBatch, readBatch_of_le h hsize, decodeBatch_of_read_eq_ok hread]
  rfl

theorem told_of_read_eq_error (h : SaysJson r) (hsize : r.body.length ≤ maxBody) {f : Json.Fault}
    (hread : BatchRequest.read r.body = .error f) :
    (resolveBatch r).told =
      (400, faultJson "INVALID_BODY" ("Invalid request body: " ++ faultText f r.body)) := by
  rw [told_resolveBatch, readBatch_of_le h hsize, decodeBatch_of_read_eq_error hread]
  rfl

theorem batchTold_validate (b : BatchRequest) :
    batchTold (validate b) =
      if b.overlong = [] then (200, b.labelsJson) else (400, b.overlongJson) := by
  rw [validate_eq]
  by_cases hlong : b.overlong = []
  · rw [if_pos hlong, if_pos hlong]
    rfl
  · rw [if_neg hlong, if_neg hlong, ← b.envelope_tooLong]
    rfl

/-- A batch is answered, with its labels, or refused. -/
theorem told_resolveBatch_cases (r : Http.Request) :
    (∃ b, readBatch r = .ok b ∧ (resolveBatch r).told = (200, b.labelsJson)) ∨
      (∃ f, readBatch r = .error f ∧ (resolveBatch r).told = (400, f.envelope)) := by
  rw [told_resolveBatch]
  cases hread : readBatch r with
  | ok b => exact .inl ⟨b, rfl, rfl⟩
  | error f =>
    refine .inr ⟨f, rfl, ?_⟩
    rw [batchTold, status_of_readBatch_eq_error hread]

end Lookup

/-! ## Codes asked for alone -/

/-- The text of a number may stand in a path as it is. -/
theorem Text.isUnreserved_of_mem_ofInt (z : Int) :
    ∀ c ∈ (ofInt z).toList, Http.Percent.isUnreserved c = true := by
  intro c hc
  rw [toList_ofInt, List.mem_append] at hc
  rcases hc with hc | hc
  · split at hc
    · rw [List.mem_singleton.1 hc]
      decide
    · cases hc
  · have hdigit : c.isDigit = true := Nat.isDigit_of_mem_toDigits (by decide) (by decide) hc
    obtain ⟨hlow, hhigh⟩ := Char.isDigit_iff_toNat.1 hdigit
    have hle : '0' ≤ c ∧ c ≤ '9' := ⟨hlow, hhigh⟩
    simp [Http.Percent.isUnreserved, hle]

namespace Route

open Http.Percent (isUnreserved)

/-- A path of characters that need no escape is ASCII. -/
theorem toNat_lt_of_mem_pathOf {segments : List (List Char)}
    (h : ∀ w ∈ segments, ∀ c ∈ w, isUnreserved c = true) :
    ∀ c ∈ pathOf segments, c.toNat < 0x80 := by
  have hbase : "/api/v1/audit-labels".toList.all (fun c => c.toNat < 0x80) = true := by decide
  intro c hc
  rcases List.mem_append.1 hc with hc | hc
  · exact of_decide_eq_true (List.all_eq_true.1 hbase c hc)
  · obtain ⟨w, hw, hc⟩ := List.mem_flatMap.1 hc
    rcases List.mem_cons.1 hc with rfl | hc
    · decide
    · exact Http.Percent.toNat_lt_of_isUnreserved (h w hw c hc)

/-- The segments of the path of a code: the name of its namespace and its number. -/
def segmentsOf (ns : Namespace) (c : Int) : List (List Char) :=
  [ns.name.toList, (Text.ofInt c).toList]

theorem isUnreserved_of_mem_name (ns : Namespace) :
    ∀ d ∈ ns.name.toList, isUnreserved d = true := by
  rw [← List.all_eq_true]
  cases ns <;> decide

theorem isUnreserved_of_mem_segmentsOf (ns : Namespace) (c : Int) :
    ∀ w ∈ segmentsOf ns c, ∀ d ∈ w, isUnreserved d = true :=
  List.forall_mem_cons.2 ⟨isUnreserved_of_mem_name ns,
    List.forall_mem_singleton.2 (Text.isUnreserved_of_mem_ofInt c)⟩

/-- The path of a code of 64 bits is short. -/
theorem size_segmentsOf_le (ns : Namespace) {c : Int} (hc : Text.isInt64 c = true) :
    Text.Utf8.size (pathOf (segmentsOf ns c)) ≤ Http.Target.maxSize := by
  have hlength := Text.length_ofInt_le hc
  have hshort : ns.name.toList.length ≤ 8 := by
    cases ns <;> decide
  have hbase : "/api/v1/audit-labels".toList.length = 20 := rfl
  have hmax : Http.Target.maxSize = 65534 := rfl
  -- it is ASCII, so it has as many bytes as characters
  rw [Text.Utf8.size_eq_length (toNat_lt_of_mem_pathOf (isUnreserved_of_mem_segmentsOf ns c))]
  unfold pathOf segmentsOf
  simp only [List.length_append, List.flatMap_cons, List.flatMap_nil, List.length_cons,
    List.length_nil, hbase]
  omega

theorem ofSegments?_segmentsOf (ns : Namespace) (c : Int) :
    ofSegments? (segmentsOf ns c) = some (.label ns.name.toList (Text.ofInt c).toList) := by
  have hne : (Text.ofInt c).toList ≠ [] := by
    rw [Text.toList_ofInt]
    exact List.append_ne_nil_of_right_ne_nil _ Nat.toDigits_ne_nil
  rw [segmentsOf, ofSegments?, List.isEmpty_eq_false_iff.2 hne]
  rfl

end Route

namespace Service

open Http.MediaType (SaysJson)
open Http.Percent (isSegmentChar_of_isUnreserved spells_toList)

/-- **A code can be asked for alone.**  The path of its namespace and its number leads to what the
namespace knows about it. -/
theorem gets_label (s : Service) (ns : Namespace) {c : Int} (hc : Text.isInt64 c = true) :
    s.Gets (Route.pathOf [ns.name.toList, (Text.ofInt c).toList])
      (200, Wire.labelJson ns (ns.resolve c)) := by
  have htold : Lookup.labelTold ns.name (Text.ofInt c) =
      (200, Wire.labelJson ns (ns.resolve c)) := by
    rw [Lookup.labelTold, ns.parse_name]
    dsimp only
    rw [Text.int64?_ofInt hc, Wire.labelJson, Wire.resolvedMembers, ns.resolve_code]
  rw [← htold]
  refine s.gets_pathOf ?_ (Route.ofSegments?_segmentsOf ns c) rfl (fun r => ?_)
    (Route.size_segmentsOf_le ns hc)
  · intro w hw d hd
    exact isSegmentChar_of_isUnreserved (Route.isUnreserved_of_mem_segmentsOf ns c w hw d hd)
  · exact Lookup.told_findLabel (spells_toList (Route.isUnreserved_of_mem_name ns))
      (spells_toList (Text.isUnreserved_of_mem_ofInt c))

/-! ## Answers -/

/-- A `POST` of a batch that gets a token. -/
structure Posts (s : Service) (m : Moment) (b : Bucket) (r : Http.Request) : Prop where
  method : r.method = .post
  path : r.target.path = "/api/v1/audit-labels".toList
  token : (b.take s.quota m.now).isSome = true

/-- A batch that gets a token is told its outcome. -/
theorem told_handle {s : Service} {m : Moment} {b : Bucket} {r : Http.Request}
    (h : s.Posts m b r) :
    (s.handle m b r).1.answer.status = (Lookup.resolveBatch r).told.1 ∧
      (s.handle m b r).1.answer.body = .json (Lookup.resolveBatch r).told.2 := by
  obtain ⟨rest, htake⟩ := Option.isSome_iff_exists.1 h.token
  have hroute : Route.ofPath? r.target.path = some (.lookup .batch) := by
    rw [h.path]
    decide
  rw [handle_of_take_eq_some hroute htake]
  refine s.told_admitted m ?_ ?_
  · rw [h.method]
    rfl
  · rw [h.method]
    decide

/-- The items tell about the codes, one by one, what the lookup of each code alone tells. -/
structure Resolves (s : Service) (ns : Namespace) (codes : List Int) (items : List Json) :
    Prop where
  length : items.length = codes.length
  item : ∀ (i : Nat) (c : Int), codes[i]? = some c → ∃ (label : String) (known : Bool),
    items[i]? = some (.object
      [("code", .number c), ("label", .text label), ("known", .boolean known)]) ∧
    s.Gets (Route.pathOf [ns.name.toList, (Text.ofInt c).toList]) (200, .object
      [("namespace", .text ns.name), ("code", .number c), ("label", .text label),
       ("known", .boolean known)])

/-- Codes are resolved as they are alone. -/
theorem resolves_map (s : Service) (ns : Namespace) {codes : List Int}
    (h : BatchRequest.Within codes) :
    s.Resolves ns codes (codes.map (BatchRequest.itemJson ns)) where
  length := List.length_map _
  item i c hi := by
    refine ⟨(ns.resolve c).label, (ns.resolve c).known, ?_, ?_⟩
    · rw [List.getElem?_map, hi, Option.map_some, BatchRequest.itemJson]
    · have hlabel := s.gets_label ns (h c (List.mem_of_getElem? hi))
      rw [Wire.labelJson, Wire.resolvedMembers, ns.resolve_code] at hlabel
      exact hlabel

/-- An answer to a batch that is decided by the first thing that is wrong with it, if there is
one. -/
structure Judges (s : Service) (r : Http.Request) (status : Nat) (v : Json) : Prop where
  status_mem : status = 200 ∨ status = 400
  not_json : ¬ SaysJson r → status = 400 ∧ v = faultJson "INVALID_BODY"
    "Invalid request body: Expected request with \x60Content-Type: application/json\x60"
  too_large : SaysJson r → 2097152 < r.body.length → status = 400 ∧ v = faultJson "INVALID_BODY"
    "Invalid request body: Failed to buffer the request body: length limit exceeded"
  no_request : SaysJson r → r.body.length ≤ 2097152 → ∀ f, BatchRequest.read r.body = .error f →
    status = 400 ∧ ∃ lead place, Lookup.IsLead f.cause lead ∧ Lookup.IsPlace f.path place ∧
      v = faultJson "INVALID_BODY"
        ("Invalid request body: " ++ (lead ++ place ++ f.message r.body))
  too_long : SaysJson r → r.body.length ≤ 2097152 → ∀ q,
    readWhole BatchRequest.read r.body = .ok q →
    100 < q.actions.length ∨ 100 < q.resources.length → status = 400 ∧ v = q.overlongJson
  resolved : SaysJson r → r.body.length ≤ 2097152 → ∀ q,
    readWhole BatchRequest.read r.body = .ok q →
    q.actions.length ≤ 100 → q.resources.length ≤ 100 → status = 200 ∧ ∃ actions resources,
      v = .object [("action_types", .array actions), ("resource_types", .array resources)] ∧
      s.Resolves .action q.actions actions ∧ s.Resolves .resource q.resources resources

/-- **The first thing that is wrong with a batch decides its answer.**  If nothing is wrong, every
code is told what the lookup of it alone is told. -/
theorem judges_of_posts {s : Service} {m : Moment} {b : Bucket} {r : Http.Request}
    (h : s.Posts m b r) :
    ∃ v, (s.handle m b r).1.answer.body = .json v ∧
      s.Judges r (s.handle m b r).1.answer.status v := by
  obtain ⟨hstatus, hbody⟩ := told_handle h
  rw [hstatus]
  refine ⟨_, hbody, ?_⟩
  exact {
    status_mem := by
      rcases Lookup.told_resolveBatch_cases r with ⟨q, -, htold⟩ | ⟨f, -, htold⟩
      · exact .inl (congrArg Prod.fst htold)
      · exact .inr (congrArg Prod.fst htold)
    not_json := by
      intro hjson
      rw [Lookup.told_resolveBatch, Lookup.readBatch_of_not_saysJson hjson]
      exact ⟨rfl, rfl⟩
    too_large := by
      intro hjson hsize
      rw [Lookup.told_resolveBatch, Lookup.readBatch_of_lt hjson hsize]
      exact ⟨rfl, rfl⟩
    no_request := by
      intro hjson hsize f hf
      obtain ⟨lead, place, hlead, hplace, htext⟩ := Lookup.faultText_eq f r.body
      rw [Lookup.told_of_read_eq_error hjson hsize hf, htext]
      exact ⟨rfl, lead, place, hlead, hplace, rfl⟩
    too_long := by
      intro hjson hsize q hq hlong
      obtain ⟨rest, hread, -⟩ := Json.readWhole_eq_ok.1 hq
      have hne : q.overlong ≠ [] := by
        rw [Ne, q.overlong_eq_nil_iff]
        omega
      rw [Lookup.told_of_read_eq_ok hjson hsize hread, Lookup.batchTold_validate, if_neg hne]
      exact ⟨rfl, rfl⟩
    resolved := by
      intro hjson hsize q hq hactions hresources
      obtain ⟨rest, hread, -⟩ := Json.readWhole_eq_ok.1 hq
      obtain ⟨hwithin, hwithin'⟩ := BatchRequest.within_of_read hread
      have hnil : q.overlong = [] := q.overlong_eq_nil_iff.2 ⟨hactions, hresources⟩
      rw [Lookup.told_of_read_eq_ok hjson hsize hread, Lookup.batchTold_validate, if_pos hnil]
      exact ⟨rfl, _, _, rfl, s.resolves_map .action hwithin, s.resolves_map .resource hwithin'⟩ }

/-! ## Some batches -/

/-- A batch with this content type and this text. -/
def posted (type text : String) : Http.Request :=
  ⟨.post, ⟨[], "/api/v1/audit-labels".toList, none⟩, [.ofText "content-type" type],
    Text.Utf8.encode text.toList⟩

theorem body_posted (type text : String) :
    (posted type text).body = Text.Utf8.encode text.toList := rfl

/-- The first request to a service gets a token. -/
theorem posts_posted (s : Service) (m : Moment) (type text : String) :
    s.Posts m .full (posted type text) :=
  ⟨rfl, rfl, Bucket.take_full_isSome s.quota m.now⟩

theorem saysJson_posted (text : String) : SaysJson (posted "application/json" text) :=
  (Http.MediaType.saysJson_iff _).1 rfl

/-- A configuration with a burst of two and without origins. -/
def twoAtOnce : Config := ⟨"audit-labels", .development, "127.0.0.1", 0, ⟨1, 2⟩, []⟩

/-- A moment to ask at. -/
def early : Moment := ⟨7, "fresh", "now"⟩

/-- Two codes in one list, of which only the first is known, and none in the other. -/
theorem judges_of_posts_pair :
    ∃ s r actions resources, (ofConfig twoAtOnce).2 = .ok s ∧
      r = posted "application/json" "\x7b\"action_types\":[1,-1]\x7d" ∧ s.Posts early .full r ∧
      (s.handle early .full r).1.answer.body =
        .json (.object [("action_types", .array actions), ("resource_types", .array resources)]) ∧
      s.Resolves .action [1, -1] actions ∧ s.Resolves .resource [] resources := by
  obtain ⟨s, hs⟩ : ∃ s, (ofConfig twoAtOnce).2 = .ok s := ⟨_, rfl⟩
  have hposts := s.posts_posted early "application/json" "\x7b\"action_types\":[1,-1]\x7d"
  have hread : readWhole BatchRequest.read
      (posted "application/json" "\x7b\"action_types\":[1,-1]\x7d").body = .ok ⟨[1, -1], []⟩ := by
    cbv
  obtain ⟨v, hbody, hv⟩ := judges_of_posts hposts
  obtain ⟨-, actions, resources, rfl, hresolves⟩ :=
    hv.resolved (saysJson_posted _) (by decide) _ hread (by decide) (by decide)
  exact ⟨s, _, actions, resources, hs, rfl, hposts, hbody, hresolves⟩

/-- The word may also stand in front of another suffix: such a batch is answered, although its
content type is neither JSON itself nor anything with JSON as its suffix. -/
theorem json_with_other_suffix_answered :
    ∃ s r, (ofConfig twoAtOnce).2 = .ok s ∧ r = posted "application/json+xml" "\x7b\x7d" ∧
      s.Posts early .full r ∧ "application/json+xml" ≠ "application/json" ∧
      (∀ x : String, "application/json+xml" ≠ "application/" ++ x ++ "+json") ∧
      (s.handle early .full r).1.answer.status = 200 := by
  obtain ⟨s, hs⟩ : ∃ s, (ofConfig twoAtOnce).2 = .ok s := ⟨_, rfl⟩
  have hposts := s.posts_posted early "application/json+xml" "\x7b\x7d"
  have hjson : SaysJson (posted "application/json+xml" "\x7b\x7d") :=
    (Http.MediaType.saysJson_iff _).1 (by decide)
  have hread : BatchRequest.read (posted "application/json+xml" "\x7b\x7d").body =
      .ok (⟨[], []⟩, []) := by
    cbv
  refine ⟨s, _, hs, rfl, hposts, by decide, ?_, ?_⟩
  · intro x hx
    have hlast : ("application/" ++ x ++ "+json").toList.getLast? = some 'n' := by
      rw [String.toList_append, List.getLast?_append]
      rfl
    rw [← hx] at hlast
    exact absurd hlast (by decide)
  · rw [(told_handle hposts).1, Lookup.told_of_read_eq_ok hjson (by decide) hread]
    rfl

end Service

end AuditLabels
