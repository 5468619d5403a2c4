import AuditLabels.Proofs.Service.Answers
import AuditLabels.Proofs.Service.Batch

/-!
# Codes without labels in the log

What is logged about an answered lookup is what its answer says: how many of the codes of a batch
have no label, if there are any, and of a code that was asked for alone that it has none.
-/

namespace AuditLabels

/-! ## Counting -/

namespace BatchResponse

/-- The codes without a label of each list are counted apart. -/
theorem unknownCount_of (b : BatchRequest) :
    (of b).unknownCount = b.actions.countP (fun c => !(Namespace.action.resolve c).known) +
      b.resources.countP fun c => !(Namespace.resource.resolve c).known := by
  rw [unknownCount, List.countP_append, of, List.countP_map, List.countP_map]
  rfl

/-- Batches behind each other have the codes without a label of both. -/
theorem unknownCount_append (actions actions' resources resources' : List Int) :
    (of ⟨actions ++ actions', resources ++ resources'⟩).unknownCount =
      (of ⟨actions, resources⟩).unknownCount + (of ⟨actions', resources'⟩).unknownCount := by
  simp only [unknownCount_of, List.countP_append]
  omega

/-- The order of the codes does not matter. -/
theorem unknownCount_perm {actions actions' resources resources' : List Int}
    (ha : actions.Perm actions') (hr : resources.Perm resources') :
    (of ⟨actions, resources⟩).unknownCount = (of ⟨actions', resources'⟩).unknownCount := by
  simp only [unknownCount_of]
  rw [ha.countP_eq, hr.countP_eq]

end BatchResponse

namespace Wire

/-- The item of an answer says that its code has no label. -/
def saysUnknown : Json → Bool
  | .object members => match members.lookup "known" with
    | some (.boolean known) => !known
    | _ => false
  | _ => false

theorem saysUnknown_resolvedJson (x : Resolved) : saysUnknown (resolvedJson x) = !x.known := rfl

/-- The items of an answer that say so are the codes that are counted. -/
theorem countP_saysUnknown (x : BatchResponse) :
    (x.actions.map resolvedJson ++ x.resources.map resolvedJson).countP saysUnknown =
      x.unknownCount := by
  have hknown : saysUnknown ∘ resolvedJson = fun x => !x.known := funext saysUnknown_resolvedJson
  rw [← List.map_append, List.countP_map, hknown, BatchResponse.unknownCount]

end Wire

/-! ## Events of a lookup that is done -/

/-- The events among entries of the log. -/
def Log.events (entries : List Entry) : List Event :=
  entries.filterMap fun
    | .event e => some e
    | .span _ => none

theorem Log.events_map_event (events : List Event) : Log.events (events.map .event) = events := by
  rw [Log.events, List.filterMap_map]
  exact List.filterMap_some

/-- A step before a value went well, if there is one. -/
theorem Outcome.exists_of_andThen {α : Type} {x : Except Failure α} {next : α → Outcome} {v : Json}
    (h : (andThen x next).result = .ok v) :
    ∃ a, x = .ok a ∧ (next a).result = .ok v ∧ andThen x next = next a := by
  cases x with
  | error f => cases h
  | ok a => exact ⟨a, rfl, h, rfl⟩

namespace Lookup

/-- What is told with this status is a value. -/
theorem result_of_told {l : Lookup} {r : Http.Request} (h : (l.perform r).told.1 = 200) :
    ∃ v, (l.perform r).result = .ok v ∧ (l.perform r).told.2 = v := by
  cases hresult : (l.perform r).result with
  | ok v => exact ⟨v, rfl, by rw [Outcome.told, hresult]⟩
  | error f =>
    have hstatus : f.status = 400 := l.blamesClient_perform r f hresult
    have htold : (l.perform r).told.1 = f.status := by rw [Outcome.told, hresult]
    omega

/-- The outcome of a batch that was read. -/
theorem resolveBatch_of_readBatch {r : Http.Request} {b : BatchRequest} (h : readBatch r = .ok b) :
    resolveBatch r = ⟨.ok (Wire.batchJson (.of b)), if (BatchResponse.of b).unknownCount = 0 then []
      else [missingLabels (BatchResponse.of b).unknownCount
        (b.actions.length + b.resources.length)]⟩ := by
  rw [resolveBatch, h]
  rfl

/-- The outcome of a code that was found. -/
theorem findLabel_of_result {space code : List Char} {v : Json}
    (h : (findLabel space code).result = .ok v) :
    ∃ name digits ns n, Http.Percent.decode? space = some name ∧
      Http.Percent.decode? code = some digits ∧ Namespace.parse (String.ofList name) = .ok ns ∧
      Text.int64? digits = some n ∧
      findLabel space code = ⟨.ok (Wire.labelJson ns (ns.resolve n)),
        if (ns.resolve n).known then [] else [missingLabel ns n]⟩ := by
  have hdecode : ∀ {name : String} {w : List Char} {s : String}, decodeSegment name w = .ok s →
      ∃ cs, Http.Percent.decode? w = some cs ∧ s = String.ofList cs := by
    intro name w s hs
    unfold decodeSegment at hs
    split at hs
    · next cs hcs => exact ⟨cs, hcs, (Except.ok.inj hs).symm⟩
    · cases hs
  obtain ⟨s, hs, h, hfind⟩ := Outcome.exists_of_andThen h
  obtain ⟨t, ht, h, hfind'⟩ := Outcome.exists_of_andThen h
  obtain ⟨ns, hns, h, hfind''⟩ := Outcome.exists_of_andThen h
  obtain ⟨n, hn, h, hfind'''⟩ := Outcome.exists_of_andThen h
  obtain ⟨name, hname, rfl⟩ := hdecode hs
  obtain ⟨digits, hdigits, rfl⟩ := hdecode ht
  refine ⟨name, digits, ns, n, hname, hdigits, ?_, ?_, ?_⟩
  · unfold readNamespace at hns
    split at hns
    · next hparse => rw [hparse, Except.ok.inj hns]
    · cases hns
  · unfold readCode at hn
    rw [String.toList_ofList] at hn
    split at hn
    · next hcode => rw [hcode, Except.ok.inj hn]
    · cases hn
  · exact hfind.trans (hfind'.trans (hfind''.trans hfind'''))

end Lookup

namespace Service

/-- The events of a lookup that got a token. -/
theorem events_admitted (s : Service) (m : Moment) (l : Lookup) (r : Http.Request) :
    Log.events (s.admitted m l r).entries = (s.respond l r).2 :=
  Log.events_map_event (s.respond l r).2

/-- A lookup by a method that serves it is answered with a value only if it got a token and its
outcome is that value; its events are then the ones of the outcome. -/
theorem performed_of_status {s : Service} {m : Moment} {b : Bucket} {l : Lookup} {r : Http.Request}
    (hl : Route.Leads r.target.path (.lookup l)) (hserves : l.serves r.method = true)
    (h : (s.handle m b r).1.answer.status = 200) :
    ∃ v, (l.perform r).result = .ok v ∧
      (r.method ≠ .head → (s.handle m b r).1.answer.body = .json v) ∧
      Log.events (s.handle m b r).1.entries = (l.perform r).events := by
  have hroute := Route.ofPath?_eq_some_iff.2 hl
  cases htake : b.take s.quota m.now with
  | none =>
    rw [handle_of_take_eq_none hroute htake, (turnedAway_refused _ l r).status] at h
    cases h
  | some rest =>
    rw [handle_of_take_eq_some hroute htake] at h ⊢
    rw [s.status_admitted m hserves] at h
    obtain ⟨v, hresult, htold⟩ := l.result_of_told h
    refine ⟨v, hresult, ?_, ?_⟩
    · intro hhead
      rw [(s.told_admitted m hserves hhead).2, htold]
    · rw [s.events_admitted, s.respond_of_serves hserves]
      dsimp only
      rw [eventsOf, hresult]
      exact List.append_nil _

/-! ## Batches -/

/-- The items tell about the codes, one by one. -/
def Tells (ns : Namespace) (codes : List Int) (items : List Json) : Prop :=
  List.Forall₂ (fun c item => item = .object [("code", .number c),
    ("label", .text (ns.resolve c).label), ("known", .boolean (ns.resolve c).known)]) codes items

/-- What is logged about a batch whose answer has these items: nothing if none of them says that its
code has no label, and otherwise how many say so, among how many codes. -/
structure NotesBatch (b : BatchRequest) (items : List Json) (events : List Log.Event) : Prop where
  all_known : (∀ item ∈ items, Wire.saysUnknown item = false) → events = []
  some_unknown : (∃ item ∈ items, Wire.saysUnknown item = true) →
    events = [⟨.debug, "audit_api::handlers::labels", "Batch contained audit codes without labels",
      [("unknown", .number (items.countP Wire.saysUnknown)),
       ("total", .number (b.actions.length + b.resources.length : Nat))]⟩] ∧
    1 ≤ items.countP Wire.saysUnknown
  unknown_le : items.countP Wire.saysUnknown ≤ b.actions.length + b.resources.length
  total_le : b.actions.length + b.resources.length ≤ 200

theorem tells_map (ns : Namespace) (codes : List Int) :
    Tells ns codes ((codes.map ns.resolve).map Wire.resolvedJson) := by
  induction codes with
  | nil => exact .nil
  | cons c codes ih =>
    refine .cons ?_ ih
    rw [Wire.resolvedJson, Wire.resolvedMembers, ns.resolve_code]

/-- What is logged about a batch that was read is what its answer says. -/
theorem notesBatch_resolveBatch {r : Http.Request} {b : BatchRequest}
    (h : Lookup.readBatch r = .ok b) :
    NotesBatch b ((BatchResponse.of b).actions.map Wire.resolvedJson ++
      (BatchResponse.of b).resources.map Wire.resolvedJson) (Lookup.resolveBatch r).events := by
  obtain ⟨-, -, -, hlong⟩ := Lookup.readBatch_eq_ok_iff.1 h
  obtain ⟨hactions, hresources⟩ := b.overlong_eq_nil_iff.1 hlong
  have hcount := Wire.countP_saysUnknown (.of b)
  rw [Lookup.resolveBatch_of_readBatch h]
  refine ⟨?_, ?_, ?_, by omega⟩
  · intro hknown
    have hzero : (BatchResponse.of b).unknownCount = 0 := by
      rw [← hcount, List.countP_eq_zero]
      intro item hitem
      rw [hknown item hitem]
      exact Bool.false_ne_true
    exact if_pos hzero
  · intro hunknown
    have hpos := List.countP_pos_iff.2 hunknown
    refine ⟨?_, hpos⟩
    rw [hcount] at hpos ⊢
    exact if_neg (Nat.ne_of_gt hpos)
  · refine Nat.le_trans List.countP_le_length ?_
    simp only [List.length_append, List.length_map, BatchResponse.length_actions_of,
      BatchResponse.length_resources_of]
    omega

/-! ## Codes asked for alone -/

/-- What is logged about a code that was asked for alone: that it has no label, exactly if the
answer says so. -/
structure NotesLabel (r : Http.Request) (space code : List Char) (ns : Namespace) (n : Int)
    (known : Bool) (reply : Reply) : Prop where
  namespace_read : ∃ name, Http.Percent.decode? space = some name ∧
    Namespace.parse (String.ofList name) = .ok ns
  code_read : ∃ digits, Http.Percent.decode? code = some digits ∧ Text.int64? digits = some n
  known_eq : known = (ns.resolve n).known
  answer : r.method ≠ .head → ∃ label, reply.answer.body = .json (.object
    [("namespace", .text ns.name), ("code", .number n), ("label", .text label),
     ("known", .boolean known)])
  events : Log.events reply.entries = if known then [] else
    [⟨.debug, "audit_api::handlers::labels", "No label for audit code",
      [("namespace", .text ns.name), ("code", .number n)]⟩]

theorem notesLabel_of_performed {r : Http.Request} {space code : List Char} {reply : Reply}
    {v : Json} (hresult : (Lookup.findLabel space code).result = .ok v)
    (hbody : r.method ≠ .head → reply.answer.body = .json v)
    (hevents : Log.events reply.entries = (Lookup.findLabel space code).events) :
    ∃ ns n known, NotesLabel r space code ns n known reply := by
  obtain ⟨name, digits, ns, n, hname, hdigits, hns, hn, hfind⟩ :=
    Lookup.findLabel_of_result hresult
  rw [hfind] at hresult hevents
  obtain rfl := Except.ok.inj hresult
  refine ⟨ns, n, _, ⟨name, hname, hns⟩, ⟨digits, hdigits, hn⟩, rfl, ?_, hevents⟩
  intro hhead
  refine ⟨(ns.resolve n).label, ?_⟩
  rw [hbody hhead, Wire.labelJson, Wire.resolvedMembers, ns.resolve_code]

/-! ## Runs -/

/-- **The log tells the truth about codes without labels.**  Among any requests, an answered batch
is logged with the number of its items that say that their code has no label, unless there are none,
and a code that was asked for alone exactly if its answer says so.  The number for a batch is the
sum of the ones for its parts, whatever the order of the codes. -/
theorem run_notes_unknown (s : Service) (b : Bucket) (visits : List (Moment × Http.Request)) :
    (∀ (i : Nat) (m : Moment) (r : Http.Request), visits[i]? = some (m, r) →
      ∃ reply, (s.run b visits)[i]? = some reply ∧
      (Route.Leads r.target.path (.lookup .batch) → r.method = .post →
        reply.answer.status = 200 →
        ∃ q rest actions resources, BatchRequest.read r.body = .ok (q, rest) ∧
          reply.answer.body = .json (.object
            [("action_types", .array actions), ("resource_types", .array resources)]) ∧
          Tells .action q.actions actions ∧ Tells .resource q.resources resources ∧
          NotesBatch q (actions ++ resources) (Log.events reply.entries)) ∧
      ∀ space code, Route.Leads r.target.path (.lookup (.label space code)) →
        r.method = .get ∨ r.method = .head → reply.answer.status = 200 →
        ∃ ns n known, NotesLabel r space code ns n known reply) ∧
    (∀ actions actions' resources resources' : List Int,
      (BatchResponse.of ⟨actions ++ actions', resources ++ resources'⟩).unknownCount =
        (BatchResponse.of ⟨actions, resources⟩).unknownCount +
          (BatchResponse.of ⟨actions', resources'⟩).unknownCount) ∧
    ∀ actions actions' resources resources' : List Int, actions.Perm actions' →
      resources.Perm resources' → (BatchResponse.of ⟨actions, resources⟩).unknownCount =
        (BatchResponse.of ⟨actions', resources'⟩).unknownCount := by
  refine ⟨?_, BatchResponse.unknownCount_append, fun _ _ _ _ => BatchResponse.unknownCount_perm⟩
  intro i m r hi
  refine ⟨_, s.run_getElem? b hi, ?_, ?_⟩
  · intro hl hmethod hstatus
    have hserves : Lookup.batch.serves r.method = true := by
      rw [hmethod]
      rfl
    obtain ⟨v, hresult, hbody, hevents⟩ := performed_of_status hl hserves hstatus
    obtain ⟨q, hread, -, -⟩ := Outcome.exists_of_andThen hresult
    obtain ⟨-, -, ⟨rest, hrest⟩, -⟩ := Lookup.readBatch_eq_ok_iff.1 hread
    have hnotes := notesBatch_resolveBatch hread
    have hperform := Lookup.resolveBatch_of_readBatch hread
    rw [Lookup.perform, hperform] at hresult
    obtain rfl := Except.ok.inj hresult
    refine ⟨q, rest, _, _, hrest, hbody ?_, tells_map .action q.actions,
      tells_map .resource q.resources, ?_⟩
    · rw [hmethod]
      decide
    · rw [hevents]
      exact hnotes
  · intro space code hl hmethod hstatus
    have hserves : (Lookup.label space code).serves r.method = true := by
      rcases hmethod with h | h <;> rw [h] <;> rfl
    obtain ⟨v, hresult, hbody, hevents⟩ := performed_of_status hl hserves hstatus
    exact notesLabel_of_performed hresult hbody hevents

/-- A batch of two codes, of which only the first has a label. -/
def halfKnown : Http.Request := posted "application/json" "\x7b\"action_types\":[1,-1]\x7d"

/-- The second of them alone. -/
def unknownAlone : Moment × Http.Request := visit .get "/api/v1/audit-labels/action/-1"

/-- Asked for in the batch and alone, the code is logged as one without a label. -/
theorem run_notes_unknown_half :
    ∃ s batch alone, (ofConfig twoAtOnce).2 = .ok s ∧
      (s.run .full [(early, halfKnown)])[0]? = some batch ∧
      (s.run .full [unknownAlone])[0]? = some alone ∧
      Log.events batch.entries = [⟨.debug, "audit_api::handlers::labels",
        "Batch contained audit codes without labels",
        [("unknown", .number 1), ("total", .number 2)]⟩] ∧
      Log.events alone.entries = [⟨.debug, "audit_api::handlers::labels",
        "No label for audit code", [("namespace", .text "action"), ("code", .number (-1))]⟩] ∧
      (BatchResponse.of ⟨[1, -1], []⟩).unknownCount =
        (BatchResponse.of ⟨[-1, 1], []⟩).unknownCount := by
  obtain ⟨s, hs⟩ : ∃ s, (ofConfig twoAtOnce).2 = .ok s := ⟨_, rfl⟩
  obtain ⟨hbatches, -, hperm⟩ := run_notes_unknown s .full [(early, halfKnown)]
  obtain ⟨batch, hbatch, hnotes, -⟩ := hbatches 0 _ _ rfl
  obtain ⟨halone, -, -⟩ := run_notes_unknown s .full [unknownAlone]
  obtain ⟨alone, hrun, -, hlabel⟩ := halone 0 _ _ rfl
  refine ⟨s, batch, alone, hs, hbatch, hrun, ?_, ?_, hperm _ _ _ _ (.swap _ _ _) .nil⟩
  · have hposts : s.Posts early .full halfKnown := s.posts_posted early _ _
    have hjson : Http.MediaType.SaysJson halfKnown := saysJson_posted _
    have hread : BatchRequest.read halfKnown.body = .ok (⟨[1, -1], []⟩, []) := by cbv
    have hstatus : batch.answer.status = 200 := by
      obtain rfl := Option.some.inj hbatch
      refine (told_handle hposts).1.trans ?_
      rw [Lookup.told_of_read_eq_ok hjson (by decide) hread]
      rfl
    obtain ⟨q, rest, actions, resources, hq, -, hactions, hresources, hnoted⟩ :=
      hnotes .batch rfl hstatus
    rw [hread] at hq
    obtain ⟨rfl, -⟩ := Prod.mk.inj (Except.ok.inj hq)
    obtain _ | ⟨rfl, _ | ⟨rfl, ⟨⟩⟩⟩ := hactions
    obtain ⟨⟩ := hresources
    exact (hnoted.some_unknown ⟨_, List.mem_cons_of_mem _ List.mem_cons_self, rfl⟩).1
  · have hcode : Text.isInt64 (-1) = true := by decide
    obtain ⟨hstatus, hbody⟩ : alone.answer.status = 200 ∧
        alone.answer.body = .json (Wire.labelJson .action (Namespace.action.resolve (-1))) := by
      obtain rfl := Option.some.inj hrun
      exact (s.gets_label .action hcode).2 unknownAlone.1 .full unknownAlone.2 rfl (by decide)
        (Bucket.take_full_isSome s.quota 7)
    have hleads : Route.Leads unknownAlone.2.target.path
        (.lookup (.label "action".toList "-1".toList)) := Route.ofPath?_eq_some_iff.1 (by decide)
    obtain ⟨ns, n, known, hnoted⟩ := hlabel _ _ hleads (.inl rfl) hstatus
    obtain ⟨label, hanswer⟩ := hnoted.answer (by decide)
    rw [hbody] at hanswer
    obtain ⟨hns, hn, -, hknown⟩ : Namespace.action.name = ns.name ∧ -1 = n ∧
        (Namespace.action.resolve (-1)).label = label ∧
        (Namespace.action.resolve (-1)).known = known := by
      simpa [Wire.labelJson, Wire.resolvedMembers] using hanswer
    rw [hnoted.events, ← hns, ← hn, ← hknown]
    rfl

end Service

end AuditLabels
