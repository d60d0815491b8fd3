import GbcVenue.Concurrency.Bookings
import GbcVenue.Concurrency.LightCommands
import GbcVenue.Concurrency.Schedulers
import GbcVenue.Agreement.Updates
import GbcVenue.Scheduler.Events
import GbcVenue.Agreement.ShutOff
import GbcVenue.Agreement.Converge
import GbcVenue.Agreement.NoSkip
import GbcVenue.Lights.MqttClient
import GbcVenue.Service.ConfigService
import GbcVenue.Agreement.Visible
import GbcVenue.Server.CurrentDay
import GbcVenue.Frontend.TimelineUtils
import GbcVenue.Agreement.TimersFollow
import GbcVenue.Concurrency.Broadcasts
import GbcVenue.Frontend.OneSocket
import GbcVenue.Hub.Roles
import GbcVenue.Hub.InitialState
import GbcVenue.Lights.Acks
import GbcVenue.Lights.Protocol
import GbcVenue.Frontend.FreeSlots
import GbcVenue.Frontend.DrawnAxis
import GbcVenue.Frontend.SlotForm
import GbcVenue.Frontend.TimelineLayout
import GbcVenue.Frontend.EditBooking
import GbcVenue.Frontend.TvDisplay
import GbcVenue.Lights.LastInstruction
import GbcVenue.Agreement.Cancels
import GbcVenue.Service.StaffRestriction
import GbcVenue.Lights.Payloads
import GbcVenue.Cache.Representation
import GbcVenue.Service.Failures
import GbcVenue.Service.Durations
import GbcVenue.Service.ConfigUpdate
import GbcVenue.Lights.Health
import GbcVenue.Lights.DeviceTasks
import GbcVenue.Lights.Debounce
import GbcVenue.Lights.Wink
import GbcVenue.Concurrency.OrphanTimers
import GbcVenue.Frontend.Memo
import GbcVenue.Frontend.MemoCards
import GbcVenue.Users.Paging
import GbcVenue.Users.ListUsers
import GbcVenue.Access.Accounts
import GbcVenue.Frontend.Navigation
import GbcVenue.Frontend.Session
import GbcVenue.Lights.Connection
import GbcVenue.Hub.Delivery
import GbcVenue.Server.Integrity
import GbcVenue.Server.Replies
import GbcVenue.Frontend.Illumination
import GbcVenue.Frontend.Reopened
import GbcVenue.Lights.HealthReport
import GbcVenue.Service.ConfigHistory
import GbcVenue.Frontend.UserManagement
import GbcVenue.Frontend.LivePages
import GbcVenue.Server.Installation
