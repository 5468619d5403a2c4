import AuditLabels.Label.Resource

/-!
# Actions

What an audit entry says was done, with the code and the label of each action and the resource it is
done to.  The codes leave gaps, a decade or a hundred for each resource.
-/

namespace AuditLabels

/-- What an audit entry says was done. -/
inductive Action where
  | settingsUpdate | panelCreate | panelUpdate | panelDelete | panelResend | multiPanelCreate
  | multiPanelUpdate | multiPanelDelete | multiPanelResend | supportHoursSet | supportHoursDelete
  | formCreate | formUpdate | formDelete | formInputsUpdate | tagCreate | tagDelete | teamCreate
  | teamDelete | teamMemberAdd | teamMemberRemove | staffOverrideCreate | staffOverrideDelete
  | blacklistAdd | blacklistRemoveUser | blacklistRemoveRole | ticketSendMessage | ticketSendTag
  | ticketClose | integrationActivate | integrationUpdateSecrets | integrationDeactivate
  | importTrigger | premiumSetActiveGuilds | userIntegrationCreate | userIntegrationUpdate
  | userIntegrationDelete | userIntegrationSetPublic | whitelabelCreate | whitelabelDelete
  | whitelabelCreateInteractions | whitelabelStatusSet | whitelabelStatusDelete | botStaffAdd
  | botStaffRemove
  deriving DecidableEq, Repr

namespace Action

/-- The code of an action. -/
def code : Action → Int
  | settingsUpdate => 1
  | panelCreate => 10
  | panelUpdate => 11
  | panelDelete => 12
  | panelResend => 13
  | multiPanelCreate => 20
  | multiPanelUpdate => 21
  | multiPanelDelete => 22
  | multiPanelResend => 23
  | supportHoursSet => 30
  | supportHoursDelete => 31
  | formCreate => 40
  | formUpdate => 41
  | formDelete => 42
  | formInputsUpdate => 45
  | tagCreate => 50
  | tagDelete => 51
  | teamCreate => 60
  | teamDelete => 61
  | teamMemberAdd => 65
  | teamMemberRemove => 66
  | staffOverrideCreate => 70
  | staffOverrideDelete => 71
  | blacklistAdd => 80
  | blacklistRemoveUser => 81
  | blacklistRemoveRole => 82
  | ticketSendMessage => 90
  | ticketSendTag => 91
  | ticketClose => 92
  | integrationActivate => 100
  | integrationUpdateSecrets => 101
  | integrationDeactivate => 102
  | importTrigger => 110
  | premiumSetActiveGuilds => 120
  | userIntegrationCreate => 200
  | userIntegrationUpdate => 201
  | userIntegrationDelete => 202
  | userIntegrationSetPublic => 203
  | whitelabelCreate => 210
  | whitelabelDelete => 211
  | whitelabelCreateInteractions => 212
  | whitelabelStatusSet => 213
  | whitelabelStatusDelete => 214
  | botStaffAdd => 300
  | botStaffRemove => 301

/-- The label of an action. -/
def label : Action → String
  | settingsUpdate => "Settings Update"
  | panelCreate => "Panel Create"
  | panelUpdate => "Panel Update"
  | panelDelete => "Panel Delete"
  | panelResend => "Panel Resend"
  | multiPanelCreate => "Multi-Panel Create"
  | multiPanelUpdate => "Multi-Panel Update"
  | multiPanelDelete => "Multi-Panel Delete"
  | multiPanelResend => "Multi-Panel Resend"
  | supportHoursSet => "Support Hours Set"
  | supportHoursDelete => "Support Hours Delete"
  | formCreate => "Form Create"
  | formUpdate => "Form Update"
  | formDelete => "Form Delete"
  | formInputsUpdate => "Form Inputs Update"
  | tagCreate => "Tag Create"
  | tagDelete => "Tag Delete"
  | teamCreate => "Team Create"
  | teamDelete => "Team Delete"
  | teamMemberAdd => "Team Member Add"
  | teamMemberRemove => "Team Member Remove"
  | staffOverrideCreate => "Staff Override Create"
  | staffOverrideDelete => "Staff Override Delete"
  | blacklistAdd => "Blacklist Add"
  | blacklistRemoveUser => "Blacklist Remove User"
  | blacklistRemoveRole => "Blacklist Remove Role"
  | ticketSendMessage => "Ticket Send Message"
  | ticketSendTag => "Ticket Send Tag"
  | ticketClose => "Ticket Close"
  | integrationActivate => "Integration Activate"
  | integrationUpdateSecrets => "Integration Update Secrets"
  | integrationDeactivate => "Integration Deactivate"
  | importTrigger => "Import Trigger"
  | premiumSetActiveGuilds => "Premium Set Active Guilds"
  | userIntegrationCreate => "User Integration Create"
  | userIntegrationUpdate => "User Integration Update"
  | userIntegrationDelete => "User Integration Delete"
  | userIntegrationSetPublic => "User Integration Set Public"
  | whitelabelCreate => "Whitelabel Create"
  | whitelabelDelete => "Whitelabel Delete"
  | whitelabelCreateInteractions => "Whitelabel Create Interactions"
  | whitelabelStatusSet => "Whitelabel Status Set"
  | whitelabelStatusDelete => "Whitelabel Status Delete"
  | botStaffAdd => "Bot Staff Add"
  | botStaffRemove => "Bot Staff Remove"

/-- The name of an action. -/
def name : Action → String
  | settingsUpdate => "SettingsUpdate"
  | panelCreate => "PanelCreate"
  | panelUpdate => "PanelUpdate"
  | panelDelete => "PanelDelete"
  | panelResend => "PanelResend"
  | multiPanelCreate => "MultiPanelCreate"
  | multiPanelUpdate => "MultiPanelUpdate"
  | multiPanelDelete => "MultiPanelDelete"
  | multiPanelResend => "MultiPanelResend"
  | supportHoursSet => "SupportHoursSet"
  | supportHoursDelete => "SupportHoursDelete"
  | formCreate => "FormCreate"
  | formUpdate => "FormUpdate"
  | formDelete => "FormDelete"
  | formInputsUpdate => "FormInputsUpdate"
  | tagCreate => "TagCreate"
  | tagDelete => "TagDelete"
  | teamCreate => "TeamCreate"
  | teamDelete => "TeamDelete"
  | teamMemberAdd => "TeamMemberAdd"
  | teamMemberRemove => "TeamMemberRemove"
  | staffOverrideCreate => "StaffOverrideCreate"
  | staffOverrideDelete => "StaffOverrideDelete"
  | blacklistAdd => "BlacklistAdd"
  | blacklistRemoveUser => "BlacklistRemoveUser"
  | blacklistRemoveRole => "BlacklistRemoveRole"
  | ticketSendMessage => "TicketSendMessage"
  | ticketSendTag => "TicketSendTag"
  | ticketClose => "TicketClose"
  | integrationActivate => "IntegrationActivate"
  | integrationUpdateSecrets => "IntegrationUpdateSecrets"
  | integrationDeactivate => "IntegrationDeactivate"
  | importTrigger => "ImportTrigger"
  | premiumSetActiveGuilds => "PremiumSetActiveGuilds"
  | userIntegrationCreate => "UserIntegrationCreate"
  | userIntegrationUpdate => "UserIntegrationUpdate"
  | userIntegrationDelete => "UserIntegrationDelete"
  | userIntegrationSetPublic => "UserIntegrationSetPublic"
  | whitelabelCreate => "WhitelabelCreate"
  | whitelabelDelete => "WhitelabelDelete"
  | whitelabelCreateInteractions => "WhitelabelCreateInteractions"
  | whitelabelStatusSet => "WhitelabelStatusSet"
  | whitelabelStatusDelete => "WhitelabelStatusDelete"
  | botStaffAdd => "BotStaffAdd"
  | botStaffRemove => "BotStaffRemove"

/-- The resource an action is done to. -/
def resource : Action → Resource
  | settingsUpdate => .settings
  | panelCreate => .panel
  | panelUpdate => .panel
  | panelDelete => .panel
  | panelResend => .panel
  | multiPanelCreate => .multiPanel
  | multiPanelUpdate => .multiPanel
  | multiPanelDelete => .multiPanel
  | multiPanelResend => .multiPanel
  | supportHoursSet => .supportHours
  | supportHoursDelete => .supportHours
  | formCreate => .form
  | formUpdate => .form
  | formDelete => .form
  | formInputsUpdate => .formInput
  | tagCreate => .tag
  | tagDelete => .tag
  | teamCreate => .team
  | teamDelete => .team
  | teamMemberAdd => .teamMember
  | teamMemberRemove => .teamMember
  | staffOverrideCreate => .staffOverride
  | staffOverrideDelete => .staffOverride
  | blacklistAdd => .blacklist
  | blacklistRemoveUser => .blacklist
  | blacklistRemoveRole => .blacklist
  | ticketSendMessage => .ticket
  | ticketSendTag => .ticket
  | ticketClose => .ticket
  | integrationActivate => .guildIntegration
  | integrationUpdateSecrets => .guildIntegration
  | integrationDeactivate => .guildIntegration
  | importTrigger => .dataImport
  | premiumSetActiveGuilds => .premium
  | userIntegrationCreate => .userIntegration
  | userIntegrationUpdate => .userIntegration
  | userIntegrationDelete => .userIntegration
  | userIntegrationSetPublic => .userIntegration
  | whitelabelCreate => .whitelabel
  | whitelabelDelete => .whitelabel
  | whitelabelCreateInteractions => .whitelabel
  | whitelabelStatusSet => .whitelabel
  | whitelabelStatusDelete => .whitelabel
  | botStaffAdd => .botStaff
  | botStaffRemove => .botStaff

/-- The actions in ascending order of codes. -/
def all : List Action :=
  [settingsUpdate, panelCreate, panelUpdate, panelDelete, panelResend, multiPanelCreate,
  multiPanelUpdate, multiPanelDelete, multiPanelResend, supportHoursSet, supportHoursDelete,
  formCreate, formUpdate, formDelete, formInputsUpdate, tagCreate, tagDelete, teamCreate,
  teamDelete, teamMemberAdd, teamMemberRemove, staffOverrideCreate, staffOverrideDelete,
  blacklistAdd, blacklistRemoveUser, blacklistRemoveRole, ticketSendMessage, ticketSendTag,
  ticketClose, integrationActivate, integrationUpdateSecrets, integrationDeactivate,
  importTrigger, premiumSetActiveGuilds, userIntegrationCreate, userIntegrationUpdate,
  userIntegrationDelete, userIntegrationSetPublic, whitelabelCreate, whitelabelDelete,
  whitelabelCreateInteractions, whitelabelStatusSet, whitelabelStatusDelete, botStaffAdd,
  botStaffRemove]

/-! ## Looking codes up -/

/-- The action with a code. -/
def ofCode? : Int → Option Action
  | 1 => some settingsUpdate
  | 10 => some panelCreate
  | 11 => some panelUpdate
  | 12 => some panelDelete
  | 13 => some panelResend
  | 20 => some multiPanelCreate
  | 21 => some multiPanelUpdate
  | 22 => some multiPanelDelete
  | 23 => some multiPanelResend
  | 30 => some supportHoursSet
  | 31 => some supportHoursDelete
  | 40 => some formCreate
  | 41 => some formUpdate
  | 42 => some formDelete
  | 45 => some formInputsUpdate
  | 50 => some tagCreate
  | 51 => some tagDelete
  | 60 => some teamCreate
  | 61 => some teamDelete
  | 65 => some teamMemberAdd
  | 66 => some teamMemberRemove
  | 70 => some staffOverrideCreate
  | 71 => some staffOverrideDelete
  | 80 => some blacklistAdd
  | 81 => some blacklistRemoveUser
  | 82 => some blacklistRemoveRole
  | 90 => some ticketSendMessage
  | 91 => some ticketSendTag
  | 92 => some ticketClose
  | 100 => some integrationActivate
  | 101 => some integrationUpdateSecrets
  | 102 => some integrationDeactivate
  | 110 => some importTrigger
  | 120 => some premiumSetActiveGuilds
  | 200 => some userIntegrationCreate
  | 201 => some userIntegrationUpdate
  | 202 => some userIntegrationDelete
  | 203 => some userIntegrationSetPublic
  | 210 => some whitelabelCreate
  | 211 => some whitelabelDelete
  | 212 => some whitelabelCreateInteractions
  | 213 => some whitelabelStatusSet
  | 214 => some whitelabelStatusDelete
  | 300 => some botStaffAdd
  | 301 => some botStaffRemove
  | _ => none

/-- A code is read as the action that carries it, and as nothing if none does. -/
theorem ofCode?_eq_some_iff {n : Int} {x : Action} : ofCode? n = some x ↔ x.code = n := by
  constructor
  · intro h
    unfold ofCode? at h
    split at h <;> cases h <;> rfl
  · rintro rfl
    cases x <;> rfl

end Action

instance : Vocabulary Action where
  all := Action.all
  code := Action.code
  label := Action.label
  name := Action.name
  rank := Action.ctorIdx
  ofCode? := Action.ofCode?
  ofCode?_eq_some_iff := Action.ofCode?_eq_some_iff
  mem_all x := by cases x <;> decide
  ascending := by decide

end AuditLabels
