import AuditLabels.Label.Vocabulary

/-!
# Resources

The kinds of things that audited actions are done to, with their codes and labels.
-/

namespace AuditLabels

/-- A kind of thing that an audited action is done to. -/
inductive Resource where
  | settings | panel | multiPanel | supportHours | form | formInput | tag | team | teamMember
  | staffOverride | blacklist | ticket | guildIntegration | dataImport | premium | userIntegration
  | whitelabel | botStaff
  deriving DecidableEq, Repr

namespace Resource

/-- The code of a resource. -/
def code : Resource → Int
  | settings => 1
  | panel => 2
  | multiPanel => 3
  | supportHours => 4
  | form => 5
  | formInput => 6
  | tag => 7
  | team => 8
  | teamMember => 9
  | staffOverride => 10
  | blacklist => 11
  | ticket => 12
  | guildIntegration => 13
  | dataImport => 14
  | premium => 15
  | userIntegration => 16
  | whitelabel => 17
  | botStaff => 18

/-- The label of a resource. -/
def label : Resource → String
  | settings => "Settings"
  | panel => "Panel"
  | multiPanel => "Multi-Panel"
  | supportHours => "Support Hours"
  | form => "Form"
  | formInput => "Form Input"
  | tag => "Tag"
  | team => "Team"
  | teamMember => "Team Member"
  | staffOverride => "Staff Override"
  | blacklist => "Blacklist"
  | ticket => "Ticket"
  | guildIntegration => "Guild Integration"
  | dataImport => "Import"
  | premium => "Premium"
  | userIntegration => "User Integration"
  | whitelabel => "Whitelabel"
  | botStaff => "Bot Staff"

/-- The name of a resource. -/
def name : Resource → String
  | settings => "Settings"
  | panel => "Panel"
  | multiPanel => "MultiPanel"
  | supportHours => "SupportHours"
  | form => "Form"
  | formInput => "FormInput"
  | tag => "Tag"
  | team => "Team"
  | teamMember => "TeamMember"
  | staffOverride => "StaffOverride"
  | blacklist => "Blacklist"
  | ticket => "Ticket"
  | guildIntegration => "GuildIntegration"
  | dataImport => "Import"
  | premium => "Premium"
  | userIntegration => "UserIntegration"
  | whitelabel => "Whitelabel"
  | botStaff => "BotStaff"

/-- The resources in ascending order of codes. -/
def all : List Resource :=
  [settings, panel, multiPanel, supportHours, form, formInput, tag, team, teamMember,
  staffOverride, blacklist, ticket, guildIntegration, dataImport, premium, userIntegration,
  whitelabel, botStaff]

/-! ## Looking codes up -/

/-- The resource with a code: the codes are the places in the list, counted from one. -/
def ofCode? (n : Int) : Option Resource :=
  if h : 1 ≤ n ∧ n ≤ all.length then some (all.get ⟨(n - 1).toNat, by omega⟩) else none

/-- The code of a resource is its place in the list, counted from one. -/
theorem code_get_all : ∀ i : Fin all.length, (all.get i).code = (i : Nat) + 1 := by decide

/-- A code is read as the resource that carries it, and as nothing if none does. -/
theorem ofCode?_eq_some_iff {n : Int} {x : Resource} : ofCode? n = some x ↔ x.code = n := by
  constructor
  · intro h
    unfold ofCode? at h
    split at h
    · next hn =>
      obtain rfl := Option.some.inj h
      rw [code_get_all]
      show ((n - 1).toNat : Int) + 1 = n
      omega
    · cases h
  · rintro rfl
    cases x <;> rfl

end Resource

instance : Vocabulary Resource where
  all := Resource.all
  code := Resource.code
  label := Resource.label
  name := Resource.name
  rank := Resource.ctorIdx
  ofCode? := Resource.ofCode?
  ofCode?_eq_some_iff := Resource.ofCode?_eq_some_iff
  mem_all x := by cases x <;> decide
  ascending := by decide

end AuditLabels
