import AuditLabels.Proofs.Batch.Misfit
import AuditLabels.Proofs.Service.Batch

/-!
# Blame for a body

A batch that is refused for a code that is no integer of 64 bits is told which one it is.
-/

namespace AuditLabels.Service

open BatchRequest (FirstMisfit)
open Http.MediaType (SaysJson)
open Json
open Text.Utf8 (encode)

/-- **The right element is blamed.**  If the first fault of a body is a value in one of its two
lists that is no integer of 64 bits, the message names that list and the place of the value in it,
whatever other members stand before the list and whatever bytes follow the value. -/
theorem misfit_blamed {s : Service} {m : Moment} {b : Bucket} {r : Http.Request}
    (h : s.Posts m b r) (hjson : SaysJson r) (hsize : r.body.length ≤ 2097152) {name : String}
    {i : Nat} (hbody : FirstMisfit r.body name i) :
    (s.handle m b r).1.answer.status = 400 ∧
      ∃ reason, (s.handle m b r).1.answer.body = .json (faultJson "INVALID_BODY"
        ("Invalid request body: Failed to deserialize the JSON body into the target type: " ++
          name ++ "[" ++ Text.ofNat i ++ "]: " ++ reason)) := by
  obtain ⟨f, hread, hpath, hdata⟩ := BatchRequest.read_firstMisfit hbody
  obtain ⟨hstatus, hanswer⟩ := told_handle h
  rw [Lookup.told_of_read_eq_error hjson hsize hread] at hstatus hanswer
  refine ⟨hstatus, f.message r.body, ?_⟩
  have hlead : "Invalid request body: Failed to deserialize the JSON body into the target type: " =
      "Invalid request body: " ++
        "Failed to deserialize the JSON body into the target type: " := rfl
  have hclose : "]: " = "]" ++ ": " := rfl
  have hplace : Json.pathText [.key name, .index i] = name ++ ("[" ++ Text.ofNat i ++ "]" ++ "") :=
    rfl
  rw [hanswer, Lookup.faultText, hdata, hpath, if_pos rfl, List.isEmpty_cons,
    if_neg Bool.false_ne_true, hplace, hlead, hclose]
  simp only [String.append_assoc, String.append_empty]

/-- A code that is one too large stands behind a code and a nested member; the text is cut off
behind a comma, by a byte of no character. -/
def cutOff : List UInt8 :=
  encode "\x7b\"note\":[\x7b\"a\":null\x7d],\"action_types\":[1,9223372036854775808".toList ++
    [0x2C, 0xFF]

/-- A number that is one too large. -/
theorem misfit_tooLarge : Misfit "9223372036854775808".toList := by
  have hdigits : Digits "9223372036854775808".toList :=
    ⟨by decide, fun c hc => List.all_eq_true.1 (by decide) c hc⟩
  have hwhole : Whole "9223372036854775808".toList := .inr ⟨hdigits, by decide⟩
  have hvalue : Text.digits? "9223372036854775808".toList = some (2 ^ 63) := by decide
  refine ⟨.scalar (.numeral ?_), ?_, ?_, ?_⟩
  · have hnumeral := Numeral.intro (.inl rfl) hwhole .none .none
    simpa only [List.nil_append, List.append_nil] using hnumeral
  · intro n hn
    generalize hw : "9223372036854775808".toList = w at hn hvalue
    cases hn with
    | natural _ hk hlt =>
      rw [hvalue] at hk
      obtain rfl := Option.some.inj hk
      omega
    | negative =>
      have hhead : "9223372036854775808".toList.head? = some '-' := congrArg List.head? hw
      exact absurd hhead (by decide)
  · intro f hf
    have hread : readHead (encode "9223372036854775808".toList) =
        .ok (.number (.natural (2 ^ 63)), []) := by cbv
    rw [hread] at hf
    cases hf
  · intro n hn
    have hhead : "9223372036854775808".toList.head? = some '"' := congrArg List.head? hn
    exact absurd hhead (by decide)

theorem firstMisfit_cutOff : FirstMisfit cutOff "action_types" 1 := by
  have hself : ∀ {m : String}, m.toList.flatMap escape = m.toList → Spells m.toList m.toList := by
    intro m hm
    have hspells := spells_escape m.toList
    rwa [hm] at hspells
  have hinside : Inside ['a'] := .plain ⟨by decide, by decide, by decide⟩ .nil
  have hnested : Value _ := .bracket (k := .map)
    (.last (.map blanks_nil hinside blanks_nil blanks_nil) (.scalar .nullWord) blanks_nil)
  have hlist : Value _ := .bracket (k := .list) (.last (.list blanks_nil) hnested blanks_nil)
  have hnote : Spells "note".toList "note".toList := hself (by decide)
  have hname : Spells "action_types".toList "action_types".toList := hself (by decide)
  have hmember : Member BatchRequest.Field _ ("note", []) :=
    .intro hnote blanks_nil blanks_nil (.other (by decide) (by decide) hlist rfl)
  have hmembers := Leading.cons (.first blanks_nil) hmember (.nil (.later blanks_nil blanks_nil))
  have hdigit : Digits ['1'] := ⟨List.cons_ne_nil _ _, List.forall_mem_singleton.2 rfl⟩
  have hone : Integer64 ['1'] 1 := .natural (n := 1) (.inr ⟨hdigit, by decide⟩) rfl (by norm_num)
  have hcodes := Leading.cons (.first blanks_nil) hone (.nil (.later blanks_nil blanks_nil))
  have hstop : Stops [0x2C, 0xFF] := stops_cons (by decide) _
  have hcount : ∀ known, known = BatchRequest.actionsName ∨ known = BatchRequest.resourcesName →
      (["note"] ++ ["action_types"]).count known ≤ 1 := by
    rintro known (rfl | rfl) <;> decide
  have hbody := FirstMisfit.intro blanks_nil hmembers hname blanks_nil blanks_nil (.inl rfl) hcount
    hcodes misfit_tooLarge (hstop.apart _)
  refine Eq.mp (congrArg (fun t => FirstMisfit (encode t ++ [0x2C, 0xFF]) "action_types" 1) ?_)
    hbody
  decide

/-- The second code is blamed, although the text does not even end. -/
theorem misfit_blamed_cutOff :
    ∃ s r reason, (ofConfig twoAtOnce).2 = .ok s ∧ r.body = cutOff ∧ SaysJson r ∧
      s.Posts early .full r ∧ FirstMisfit cutOff "action_types" 1 ∧
      (s.handle early .full r).1.answer.body = .json (faultJson "INVALID_BODY"
        ("Invalid request body: Failed to deserialize the JSON body into the target type: " ++
          "action_types[1]: " ++ reason)) := by
  obtain ⟨s, hs⟩ : ∃ s, (ofConfig twoAtOnce).2 = .ok s := ⟨_, rfl⟩
  let r : Http.Request := { posted "application/json" "" with body := cutOff }
  have hposts : s.Posts early .full r := ⟨rfl, rfl, Bucket.take_full_isSome s.quota early.now⟩
  have hjson : SaysJson r := (Http.MediaType.saysJson_iff _).1 rfl
  obtain ⟨-, reason, hbody⟩ := misfit_blamed hposts hjson (by decide) firstMisfit_cutOff
  refine ⟨s, r, reason, hs, rfl, hjson, hposts, firstMisfit_cutOff, hbody.trans ?_⟩
  rfl

end AuditLabels.Service
