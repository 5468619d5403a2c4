import AuditLabels.Main
import AuditLabels.Wire.Code
import AuditLabels.Wire.Namespace
import AuditLabels.Proofs.RateLimit.Burst
import AuditLabels.Proofs.RateLimit.Quota
import AuditLabels.Proofs.Service.Reply
import AuditLabels.Proofs.Service.Run
import AuditLabels.Proofs.Json.Accepts
import AuditLabels.Proofs.Json.Numeral
import AuditLabels.Proofs.Json.Head
import AuditLabels.Proofs.Json.Text
import AuditLabels.Proofs.Json.Skip
import AuditLabels.Proofs.Json.Sequence
import AuditLabels.Proofs.Json.Members
import AuditLabels.Proofs.Json.Misfit
import AuditLabels.Proofs.Batch.Format
import AuditLabels.Proofs.Batch.Codes
import AuditLabels.Proofs.Batch.Misfit
import AuditLabels.Proofs.Label.Agreement
import AuditLabels.Proofs.Label.Distinct
import AuditLabels.Proofs.Label.Order
import AuditLabels.Proofs.Log.Filter
import AuditLabels.Proofs.Log.Line
import AuditLabels.Proofs.Config.Reading
import AuditLabels.Proofs.Config.Writing
import AuditLabels.Proofs.Config.Origins
import AuditLabels.Proofs.Config.Precedence
import AuditLabels.Proofs.Http.Percent
import AuditLabels.Proofs.Http.MediaType
import AuditLabels.Proofs.Service.Lookup
import AuditLabels.Proofs.Service.Routes
import AuditLabels.Proofs.Service.Answers
import AuditLabels.Proofs.Service.Batch
import AuditLabels.Proofs.Service.Body
import AuditLabels.Proofs.Service.Blame
import AuditLabels.Proofs.Service.Origins
import AuditLabels.Proofs.Service.Setup
import AuditLabels.Proofs.Service.Identifiers
import AuditLabels.Proofs.Service.Relevance
import AuditLabels.Proofs.Service.Unknown
import AuditLabels.Proofs.RateLimit.Pace
import AuditLabels.Proofs.Service.Rates
import AuditLabels.Proofs.Service.Codes
import AuditLabels.Proofs.Wire.Code
import AuditLabels.Proofs.Wire.Namespace
import AuditLabels.Proofs.Net.Syntax
import AuditLabels.Proofs.Net.Digits
import AuditLabels.Proofs.Net.Reading
import AuditLabels.Proofs.Net.Host
import AuditLabels.Proofs.Startup.Address
import AuditLabels.Proofs.Startup.Exit
