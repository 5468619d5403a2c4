import AuditLabels.Json.Value
import AuditLabels.Proofs.Json.Members
import AuditLabels.Proofs.Text.Lowercase
import AuditLabels.Proofs.Text.Pieces
import AuditLabels.Wire.Namespace

/-!
# Two readers of namespaces

A namespace is read leniently from a plain text and strictly from JSON.  The lenient reader takes
exactly the words for a namespace; a name that the strict one takes is the exact one, so the two
never disagree, and both read what is written.
-/

namespace AuditLabels

/-! ## Plain texts -/

namespace Namespace

theorem ofName?_eq_some_iff {s : String} {ns : Namespace} : ofName? s = some ns ↔ s = ns.name := by
  constructor
  · intro h
    unfold ofName? at h
    split at h
    · next hs =>
      obtain rfl := Option.some.inj h
      exact hs
    split at h
    · next hs =>
      obtain rfl := Option.some.inj h
      exact hs
    · cases h
  · rintro rfl
    exact ofName?_name ns

/-- The words for a namespace: its name in singular and in plural. -/
def words : Namespace → List String
  | action => ["action", "actions"]
  | resource => ["resource", "resources"]

/-- The text is a word for the namespace, up to the case of ASCII letters and to blanks around
it. -/
def Says (ns : Namespace) (s : String) : Prop :=
  ∃ core, Text.IsTrim s.toList core ∧ ∃ word ∈ ns.words, core.map Char.toLower = word.toList

theorem says_iff {ns : Namespace} {s : String} :
    ns.Says s ↔ String.ofList ((Text.trim s.toList).map Text.asciiLower) ∈ ns.words := by
  have hlower : Text.asciiLower = Char.toLower := funext Text.asciiLower_eq_toLower
  rw [hlower]
  constructor
  · rintro ⟨core, hcore, word, hword, h⟩
    rw [Text.isTrim_iff.1 hcore] at h
    rwa [h, String.ofList_toList]
  · intro h
    exact ⟨_, Text.isTrim_trim _, _, h, by rw [String.toList_ofList]⟩

/-- **Exactly the words for a namespace are read as it.** -/
theorem parse_eq_ok_iff {s : String} {ns : Namespace} : parse s = .ok ns ↔ ns.Says s := by
  rw [says_iff, parse]
  generalize String.ofList ((Text.trim s.toList).map Text.asciiLower) = word
  constructor
  · intro h
    split at h
    · next hword =>
      obtain rfl := Except.ok.inj h
      simpa only [words, List.mem_pair] using hword
    split at h
    · next hword =>
      obtain rfl := Except.ok.inj h
      simpa only [words, List.mem_pair] using hword
    · cases h
  · intro h
    cases ns with
    | action =>
      rw [if_pos (by simpa only [words, List.mem_pair] using h)]
    | resource =>
      have hword : word = "resource" ∨ word = "resources" := by
        simpa only [words, List.mem_pair] using h
      -- no word is one for both
      have hne : ¬ (word = "action" ∨ word = "actions") := by
        rcases hword with rfl | rfl <;> decide
      rw [if_neg hne, if_pos hword]

/-- A refused text is kept as it is. -/
theorem parse_of_forall_not {s : String} (h : ∀ ns : Namespace, ¬ ns.Says s) :
    parse s = .error ⟨s⟩ := by
  have hok : ∀ ns : Namespace, parse s ≠ .ok ns := fun ns hns => h ns (parse_eq_ok_iff.1 hns)
  unfold parse at hok ⊢
  dsimp only at hok ⊢
  split
  · next hword =>
    rw [if_pos hword] at hok
    exact absurd rfl (hok action)
  · next hword =>
    rw [if_neg hword] at hok
    split
    · next hword =>
      rw [if_pos hword] at hok
      exact absurd rfl (hok resource)
    · rfl

end Namespace

/-! ## JSON texts -/

namespace Json

open Text.Utf8

theorem null_of_readHeadFrom {b : UInt8} {rest r : List UInt8}
    (h : readHeadFrom b rest = .ok (.null, r)) : b = 0x6E ∧ rest = nullTail ++ r := by
  unfold readHeadFrom at h
  split at h
  · next hb =>
    obtain ⟨r', hr, he⟩ := map_eq_ok.1 h
    obtain ⟨-, rfl⟩ := Prod.mk.inj he
    exact ⟨hb, readWord_eq_ok.1 hr⟩
  -- no other byte begins the word
  · repeat' split at h
    all_goals first
      | cases h
      | obtain ⟨_, -, he⟩ := map_eq_ok.1 h
        cases he

/-- The word `null`. -/
def nullWord : List Char := ['n', 'u', 'l', 'l']

theorem null_of_readUnit {cs : List Char} {rest : List UInt8} {u : Unit}
    (h : readUnit (encode cs) = .ok (u, rest)) :
    ∃ a v, Blanks a ∧ cs = a ++ (nullWord ++ v) ∧ rest = encode v := by
  obtain ⟨⟨head, r⟩, hhead, h⟩ := bind_eq_ok.1 h
  dsimp only at h
  split at h
  · obtain ⟨-, rfl⟩ := Prod.mk.inj (Except.ok.inj h)
    obtain ⟨a, v, ha, rfl, hv⟩ := skipSpace_encode_eq_encode cs
    rw [readHead, hv] at hhead
    cases hbytes : encode v with
    | nil =>
      rw [hbytes] at hhead
      cases hhead
    | cons b bytes =>
      rw [hbytes] at hhead
      obtain ⟨rfl, rfl⟩ := null_of_readHeadFrom hhead
      have hascii : ∀ c ∈ nullWord, c.toNat < 0x80 :=
        List.forall_iff_forall_mem.1 ⟨by decide, by decide, by decide, by decide⟩
      obtain ⟨v, rfl, rfl⟩ := front_of_encode_append (w := nullWord) hascii hbytes
      exact ⟨a, v, ha, rfl, rfl⟩
  · cases h

theorem readUnit_append {a : List Char} (ha : Blanks a) (rest : List UInt8) :
    readUnit (encode a ++ (encode nullWord ++ rest)) = .ok ((), rest) := by
  refine bind_eq_ok.2 ⟨(.null, rest), ?_, rfl⟩
  show readHead (encode a ++ 0x6E :: (nullTail ++ rest)) = _
  rw [readHead_blanks_cons (c := 'n') ha (by decide) (by decide), readHeadFrom, if_pos rfl]
  exact map_eq_ok.2 ⟨rest, readWord_eq_ok.2 rfl, rfl⟩

end Json

namespace Wire

open Json Text.Utf8

/-- A name as it is written in JSON, and what it means: a string, or the only name of a map, with
`null` for its value. -/
inductive Names : List Char → String → Prop
  | alone {n : List Char} {name : String} : Spells n name.toList →
      Names ('"' :: (n ++ ['"'])) name
  | tagged {w : List Char} {name : String} :
      Bracketed .map (Member fun _ v (_ : Unit) => v = nullWord) w [(name, ())] → Names w name

/-! ### What is read was written -/

theorem spells_of_readName {cs : List Char} {ns : Namespace} {rest : List UInt8}
    (h : readName (encode cs) = .ok (ns, rest)) :
    ∃ n v, Spells n ns.name.toList ∧ cs = n ++ '"' :: v ∧ rest = encode v := by
  obtain ⟨⟨name, r⟩, hname, h⟩ := bind_eq_ok.1 h
  obtain ⟨n, v, hn, rfl, rfl⟩ := spells_of_readText hname
  dsimp only at h
  split at h
  · next hns =>
    obtain ⟨rfl, rfl⟩ := Prod.mk.inj (Except.ok.inj h)
    rw [Namespace.ofName?_eq_some_iff.1 hns] at hn
    exact ⟨n, v, hn, rfl, rfl⟩
  · cases h

theorem quote_of_onlyName {cs : List Char} {rest : List UInt8}
    (h : onlyName (encode cs) = .ok rest) :
    ∃ a v, Blanks a ∧ cs = a ++ '"' :: v ∧ rest = encode v := by
  unfold onlyName at h
  split at h
  · cases h
  · next hs =>
    split at h
    · next hb =>
      obtain rfl := Except.ok.inj h
      exact front_of_skipSpace (by rw [hb]; decide) hs
    · split at h <;> cases h

theorem member_of_readTagged {cs : List Char} {ns : Namespace} {rest : List UInt8}
    (h : readTagged (encode cs) = .ok (ns, rest)) :
    ∃ w v, Elements (Member fun _ v (_ : Unit) => v = nullWord) true w [(ns.name, ())] ∧
      cs = w ++ '}' :: v ∧ rest = encode v := by
  obtain ⟨r₁, hquote, h⟩ := bind_eq_ok.1 h
  obtain ⟨a, u, ha, rfl, rfl⟩ := quote_of_onlyName hquote
  obtain ⟨⟨ns', r₂⟩, hname, h⟩ := bind_eq_ok.1 h
  obtain ⟨n, u, hn, rfl, rfl⟩ := spells_of_readName hname
  obtain ⟨r₃, hcolon, h⟩ := bind_eq_ok.1 h
  obtain ⟨b, u, hb, rfl, rfl⟩ := colon_of_skipColon hcolon
  obtain ⟨⟨_, r₄⟩, hnull, h⟩ := bind_eq_ok.1 h
  obtain ⟨c, u, hc, rfl, rfl⟩ := null_of_readUnit hnull
  dsimp only at h
  split at h
  · cases h
  · next hs =>
    split at h
    · next hbrace =>
      obtain ⟨rfl, rfl⟩ := Prod.mk.inj (Except.ok.inj h)
      obtain ⟨d, v, hd, rfl, rfl⟩ := front_of_skipSpace (c := '}') (by rw [hbrace]; decide) hs
      refine ⟨_, v, .cons (.first ha) (.intro hn hb hc rfl) (.nil hd), ?_, rfl⟩
      simp only [List.append_assoc, List.cons_append]
    · cases h

/-! ### What is written is read -/

theorem readName_append {n : List Char} {ns : Namespace} (hn : Spells n ns.name.toList)
    (rest : List UInt8) : readName (encode n ++ 0x22 :: rest) = .ok (ns, rest) := by
  refine bind_eq_ok.2 ⟨_, readText_append hn rest, ?_⟩
  dsimp only
  rw [Namespace.ofName?_name]
  rfl

/-- Another name is refused as such. -/
theorem readName_of_unknown {n : List Char} {name : String} (hn : Spells n name.toList)
    (hname : Namespace.ofName? name = none) (rest : List UInt8) :
    readName (encode n ++ 0x22 :: rest) = .error (.here (.unknownNamespace name) rest) := by
  refine bind_eq_error.2 (.inr ⟨_, readText_append hn rest, ?_⟩)
  dsimp only
  rw [hname]

theorem readNamespace_quote {a : List Char} (ha : Blanks a) (rest : List UInt8) :
    readNamespace (encode a ++ 0x22 :: rest) = readName rest := by
  rw [readNamespace, skipSpace_blanks_cons (c := '"') ha (by decide) (by decide)]
  rfl

theorem readNamespace_opening {a : List Char} (ha : Blanks a) (rest : List UInt8) :
    readNamespace (encode a ++ 0x7B :: rest) = readTagged rest := by
  rw [readNamespace, skipSpace_blanks_cons (c := '{') ha (by decide) (by decide)]
  rfl

theorem onlyName_append {a : List Char} (ha : Blanks a) (rest : List UInt8) :
    onlyName (encode a ++ 0x22 :: rest) = .ok rest := by
  rw [onlyName, skipSpace_blanks_cons (c := '"') ha (by decide) (by decide)]
  rfl

theorem readTagged_append {w : List Char} {ns : Namespace}
    (hw : Elements (Member fun _ v (_ : Unit) => v = nullWord) true w [(ns.name, ())])
    (rest : List UInt8) : readTagged (encode w ++ 0x7D :: rest) = .ok (ns, rest) := by
  obtain _ | ⟨⟨ha⟩, @⟨n, b, c, _, _, _, hn, hb, hc, rfl⟩, ⟨hd⟩⟩ := hw
  simp only [encode_append, encode_member, List.append_assoc, List.cons_append]
  refine bind_eq_ok.2 ⟨_, onlyName_append ha _, ?_⟩
  refine bind_eq_ok.2 ⟨_, readName_append hn _, ?_⟩
  refine bind_eq_ok.2 ⟨_, skipColon_append hb _, ?_⟩
  refine bind_eq_ok.2 ⟨_, readUnit_append hc _, ?_⟩
  dsimp only
  rw [skipSpace_blanks_cons (c := '}') hd (by decide) (by decide)]
  rfl

theorem readTagged_of_unknown {w : List Char} {name : String}
    (hw : Elements (Member fun _ v (_ : Unit) => v = nullWord) true w [(name, ())])
    (hname : Namespace.ofName? name = none) (rest : List UInt8) :
    ∃ f, readTagged (encode w ++ rest) = .error f ∧ f.cause = .unknownNamespace name := by
  obtain _ | ⟨⟨ha⟩, @⟨n, b, c, _, _, _, hn, hb, hc, rfl⟩, ⟨hd⟩⟩ := hw
  simp only [encode_append, encode_member, List.append_assoc, List.cons_append]
  have hread : ∀ r, readName (encode n ++ 0x22 :: r) = .error (.here (.unknownNamespace name) r) :=
    readName_of_unknown hn hname
  exact ⟨_, bind_eq_error.2 (.inr ⟨_, onlyName_append ha _, bind_eq_error.2 (.inl (hread _))⟩), rfl⟩

/-- The strict reader gets as far as the name that is written: if it is the one of a namespace, that
is read. -/
theorem readNamespace_append {a w : List Char} {ns : Namespace} (ha : Blanks a)
    (hw : Names w ns.name) (rest : List UInt8) :
    readNamespace (encode a ++ (encode w ++ rest)) = .ok (ns, rest) := by
  cases hw with
  | alone hn =>
    rw [encode_text, encode_nil, List.cons_append, List.append_assoc, List.singleton_append,
      readNamespace_quote ha]
    exact readName_append hn rest
  | tagged hw =>
    obtain ⟨hw⟩ := hw
    rw [encode_bracket]
    exact (readNamespace_opening ha _).trans (readTagged_append hw rest)

/-- A name of no namespace is refused as such. -/
theorem readNamespace_of_unknown {a w : List Char} {name : String} (ha : Blanks a)
    (hw : Names w name) (hname : Namespace.ofName? name = none) (rest : List UInt8) :
    ∃ f, readNamespace (encode a ++ (encode w ++ rest)) = .error f ∧
      f.cause = .unknownNamespace name := by
  cases hw with
  | alone hn =>
    rw [encode_text, encode_nil, List.cons_append, List.append_assoc, List.singleton_append,
      readNamespace_quote ha]
    exact ⟨_, readName_of_unknown hn hname rest, rfl⟩
  | tagged hw =>
    obtain ⟨hw⟩ := hw
    rw [encode_bracket]
    obtain ⟨f, hf, hcause⟩ := readTagged_of_unknown hw hname (Bracket.map.closing :: rest)
    exact ⟨f, (readNamespace_opening ha _).trans hf, hcause⟩

/-- The strict reader takes exactly the names of namespaces. -/
theorem accepts_readNamespace : Accepts readNamespace fun w ns => Names w ns.name where
  sound := by
    intro cs ns rest h
    unfold readNamespace at h
    split at h
    · cases h
    · next hs =>
      split at h
      · next hb =>
        obtain ⟨a, u, ha, rfl, rfl⟩ := front_of_skipSpace (c := '"') (by rw [hb]; decide) hs
        obtain ⟨n, v, hn, rfl, rfl⟩ := spells_of_readName h
        refine ⟨a, _, v, ha, .alone hn, ?_, rfl⟩
        rw [List.cons_append, List.append_assoc, List.singleton_append]
      split at h
      · next hb =>
        obtain ⟨a, u, ha, rfl, rfl⟩ := front_of_skipSpace (c := '{') (by rw [hb]; decide) hs
        obtain ⟨w, v, hw, rfl, rfl⟩ := member_of_readTagged h
        refine ⟨a, _, v, ha, .tagged (.intro hw), ?_, rfl⟩
        rw [List.cons_append, List.append_assoc, List.singleton_append]
        rfl
      · cases h
  complete := by
    intro a w ns rest ha hw _
    exact readNamespace_append ha hw rest
  opens := by
    intro w ns hw
    cases hw with
    | alone => exact ⟨'"', _, rfl, by decide, rfl, by decide, by decide⟩
    | tagged hw =>
      obtain ⟨-⟩ := hw
      exact ⟨'{', _, rfl, opens_opener .map⟩

/-- A name that stands in a text that was read is the one of the namespace. -/
theorem eq_name_of_readWhole {t : List Char} {name : String} {ns : Namespace}
    (ht : Document Names t name) (h : readWhole readNamespace (encode t) = .ok ns) :
    name = ns.name := by
  obtain ⟨rest, hread, -⟩ := readWhole_eq_ok.1 h
  obtain ⟨a, w, b, ha, hw, hb, rfl⟩ := ht
  rw [encode_append, encode_append, List.append_assoc] at hread
  cases hname : Namespace.ofName? name with
  | none =>
    obtain ⟨f, hf, -⟩ := readNamespace_of_unknown ha hw hname (encode b)
    rw [hf] at hread
    cases hread
  | some ns' =>
    obtain rfl := Namespace.ofName?_eq_some_iff.1 hname
    rw [readNamespace_append ha hw (encode b)] at hread
    obtain ⟨rfl, -⟩ := Prod.mk.inj (Except.ok.inj hread)
    rfl

/-- A string is written in the first of the two forms. -/
theorem names_render (s : String) : Names (Json.text s).render.toList s := by
  rw [Json.render, String.toList_ofList, Json.chars]
  exact .alone (spells_escape s.toList)

/-- **The two readers agree.**  The lenient one takes exactly the words for a namespace and gives
any other text back untouched; the strict one takes exactly the texts that hold the name of a
namespace in one of the two forms, and the lenient one reads that name as the same namespace; and
what is written of a namespace, plain or in JSON, is read back. -/
theorem namespace_readers_agree :
    (∀ (s : String) (ns : Namespace), Namespace.parse s = .ok ns ↔ ns.Says s) ∧
    (∀ s : String, (∀ ns : Namespace, ¬ ns.Says s) → Namespace.parse s = .error ⟨s⟩) ∧
    (∀ (t : String) (ns : Namespace), readWhole readNamespace (encode t.toList) = .ok ns ↔
      Document Names t.toList ns.name) ∧
    (∀ (t name : String) (ns : Namespace), Document Names t.toList name →
      readWhole readNamespace (encode t.toList) = .ok ns → Namespace.parse name = .ok ns) ∧
    ∀ ns : Namespace, Namespace.parse ns.name = .ok ns ∧
      readWhole readNamespace (encode (Json.text ns.name).render.toList) = .ok ns := by
  have hread : ∀ (t : List Char) (ns : Namespace),
      readWhole readNamespace (encode t) = .ok ns ↔ Document Names t ns.name :=
    accepts_readNamespace.readWhole_eq_ok_iff
  refine ⟨fun s ns => Namespace.parse_eq_ok_iff, fun s => Namespace.parse_of_forall_not,
    fun t ns => hread t.toList ns, ?_, fun ns => ⟨ns.parse_name, ?_⟩⟩
  · intro t name ns ht h
    rw [eq_name_of_readWhole ht h]
    exact ns.parse_name
  · exact (hread _ ns).2 (document_of (names_render ns.name))

/-- A plural in odd case between blanks, one of them from outside of ASCII; a text that names
nothing; and a name with an escaped letter in a map. -/
theorem namespace_readers_agree_escaped :
    Namespace.parse " reSources\u3000" = .ok .resource ∧
      Namespace.parse " Ticket" = .error ⟨" Ticket"⟩ ∧
      readWhole readNamespace (encode "\x7b\"\\u0061ction\" :null\x7d\n".toList) = .ok .action ∧
      Namespace.parse "action" = .ok .action := by
  obtain ⟨hlenient, hrefused, hreads, hagree, -⟩ := namespace_readers_agree
  have hplural : Namespace.resource.Says " reSources\u3000" :=
    ⟨"reSources".toList, Text.isTrim_iff.2 (by decide), "resources", by decide, by decide⟩
  have hticket : ∀ ns : Namespace, ¬ ns.Says " Ticket" := by
    intro ns
    rw [Namespace.says_iff]
    cases ns <;> decide
  have hhex : Hex4 ['0', '0', '6', '1'] 0x61 :=
    .intro (p := 0) (q := 0) (r := 6) (s := 1) rfl rfl rfl rfl
  have hletter : Escape ['u', '0', '0', '6', '1'] 'a' := .numeric (.one hhex rfl rfl)
  have hname : Spells "\\u0061ction".toList "action".toList :=
    .escape hletter (spells_escape ['c', 't', 'i', 'o', 'n'])
  have hspace : Blanks [' '] := List.forall_mem_singleton.2 rfl
  have hmember : Member (fun _ v (_ : Unit) => v = nullWord) _ ("action", ()) :=
    .intro hname hspace blanks_nil rfl
  have hdoc : Document Names "\x7b\"\\u0061ction\" :null\x7d\n".toList "action" :=
    ⟨[], _, ['\n'], blanks_nil,
      .tagged (.intro (.cons (.first blanks_nil) hmember (.nil blanks_nil))),
      List.forall_mem_singleton.2 rfl, rfl⟩
  have hread := (hreads _ .action).2 hdoc
  exact ⟨(hlenient _ _).2 hplural, hrefused _ hticket, hread, hagree _ _ _ hdoc hread⟩

end Wire

end AuditLabels
