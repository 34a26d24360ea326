import Zhixu.Framework.Table
import Zhixu.Framework.Machine
import Zhixu.Framework.Effect
import Zhixu.Domain.Text
import Zhixu.Domain.Policy
import Zhixu.Channels.Contracts
import Zhixu.Framework.Custody
import Zhixu.Storage.Database
import Zhixu.Delivery.Outbox
import Zhixu.Delivery.OutboxCustody
import Zhixu.Delivery.OutboxRuns
import Zhixu.Application.Labels
import Zhixu.Storage.Access
import Zhixu.Storage.Reminders
import Zhixu.Storage.ReminderRuns
import Zhixu.Domain.Agenda
import Zhixu.Storage.Repositories
import Zhixu.Application.Updates
import Zhixu.Application.UpdatePolicy
import Zhixu.Channels.QqGateway
import Zhixu.Framework.Resume
import Zhixu.Framework.Mortal
import Zhixu.Channels.QqGatewayRuns
import Zhixu.Storage.Users
import Zhixu.Storage.ChannelRoutes
import Zhixu.Security.Fields
import Zhixu.Channels.Receipts
import Zhixu.Web.InternalChannel
import Zhixu.Web.Redelivery
import Zhixu.Web.Replay
import Zhixu.Application.Interleaving
import Zhixu.Framework.Optimistic
import Zhixu.Storage.Versions
import Zhixu.Application.VersionedUpdates
import Zhixu.Framework.Patch
import Zhixu.Application.LostUpdates
import Zhixu.Framework.Base64
import Zhixu.Framework.Chain
import Zhixu.Framework.Json
import Zhixu.Framework.JsonDump
import Zhixu.Vault.Cryptography
import Zhixu.Vault.Database
import Zhixu.Vault.Audit
import Zhixu.Vault.Checkpoints
import Zhixu.Vault.Grants
import Zhixu.Vault.GrantRuns
import Zhixu.Vault.Keyring
import Zhixu.Vault.Storage
import Zhixu.Vault.Policy
import Zhixu.Vault.Service
import Zhixu.Vault.Processes
import Zhixu.Vault.UnlockWindow
import Zhixu.Vault.UseAudit
import Zhixu.Vault.Ceremonies
import Zhixu.Framework.Interference
import Zhixu.Storage.Schedule
import Zhixu.Application.AgendaServices
import Zhixu.Framework.Ledger
import Zhixu.Storage.Firing
import Zhixu.Application.AgendaDeletion
import Zhixu.Application.Announcements
import Zhixu.Application.AgendaSteps
import Zhixu.Application.AgendaRuns
import Zhixu.Delivery.FiredReminders
import Zhixu.Delivery.Renderer
import Zhixu.Delivery.Quota
import Zhixu.Delivery.QuotaRuns
import Zhixu.Domain.JsonValue
import Zhixu.Delivery.MessageWire
import Zhixu.Delivery.Worker
import Zhixu.Web.RemoteDelivery
import Zhixu.Storage.LlmUsage
import Zhixu.Storage.RouteMembers
import Zhixu.Storage.PendingPlans
import Zhixu.Application.PlanRequests
import Zhixu.Storage.LinkCodes
import Zhixu.Storage.AdminLogin
import Zhixu.Storage.Jobs
import Zhixu.Storage.OwnedWrites
import Zhixu.Framework.RelyGuarantee
import Zhixu.Domain.LunarCalendar
import Zhixu.Storage.Briefings
import Zhixu.Application.DailyBriefings
import Zhixu.Application.BriefingRuns
import Zhixu.Vault.AuditAlerts
import Zhixu.Vault.SecretEcho
import Zhixu.Framework.Crash
import Zhixu.Storage.Migrations
import Zhixu.Application.ConfirmedPlans
import Zhixu.Application.AdvanceReminders
import Zhixu.Application.PlanCompletion
import Zhixu.Framework.Rank
import Zhixu.Web.AdminWorkspaces
import Zhixu.Channels.QqHttp
import Zhixu.Web.RemoteResults
import Zhixu.Web.RemoteWorker
import Zhixu.Framework.Listing
import Zhixu.Domain.BusinessExpansion
import Zhixu.Storage.Occurrences
import Zhixu.Delivery.QuotaWindows
import Zhixu.Application.ImportantDays
import Zhixu.Application.MonthView
import Zhixu.Framework.Rows
import Zhixu.Notes.Tables
import Zhixu.Notes.Writes
import Zhixu.Notes.Reading
import Zhixu.Notes.RoundTrip
import Zhixu.Notes.Index
import Zhixu.Domain.Spacing
import Zhixu.Application.CardValues
import Zhixu.Application.RuleReminders
import Zhixu.Application.NotificationEdits
import Zhixu.Framework.LastWrite
import Zhixu.Channels.Contacts
import Zhixu.Framework.Dict
import Zhixu.Application.PlanValues
import Zhixu.Application.PlanRevisions
import Zhixu.Domain.IsoText
import Zhixu.Domain.TimestampOrder
import Zhixu.Application.PlanCodec
import Zhixu.Application.PlanPayloads
import Zhixu.Application.LeadEdits
import Zhixu.Framework.Gather
import Zhixu.Web.Urls
import Zhixu.Web.WebAnswers
import Zhixu.Delivery.PlainText
import Zhixu.Delivery.Escapes
import Zhixu.Application.PlainChannels
import Zhixu.Application.RuleCommands
import Zhixu.Application.RuleReturns
import Zhixu.Application.RouterTotality
import Zhixu.Domain.LunarTables
import Zhixu.Vault.Decryptability
