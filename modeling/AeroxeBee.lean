import AeroxeBee.Foundations.Prog
import AeroxeBee.Foundations.Protocol
import AeroxeBee.Foundations.Sequence
import AeroxeBee.Foundations.Relational
import AeroxeBee.Foundations.Redis
import AeroxeBee.Foundations.Streams
import AeroxeBee.Models
import AeroxeBee.Registry
import AeroxeBee.Database
import AeroxeBee.Worker.Queue
import AeroxeBee.Worker.Pass
import AeroxeBee.Worker.Safety
import AeroxeBee.Worker.Starvation
import AeroxeBee.Worker.Stranded
import AeroxeBee.Dispatch.CircuitBreaker
import AeroxeBee.Dispatch.SimHealth
import AeroxeBee.Server
import AeroxeBee.Dispatch.RateControl
import AeroxeBee.Dispatch.Fraud
import AeroxeBee.Dispatch.Routing
import AeroxeBee.Dispatch.Process
import AeroxeBee.Dispatch.Quiet
import AeroxeBee.Dispatch.Acknowledged
import AeroxeBee.Dispatch.Sticky
import AeroxeBee.Api.Messages
import AeroxeBee.Api.Handling
import AeroxeBee.Api.Duplicates
import AeroxeBee.Api.Isolation
import AeroxeBee.Scheduler.Release
import AeroxeBee.Scheduler.Direct
import AeroxeBee.Scheduler.Concurrent
import AeroxeBee.Status.Reports
import AeroxeBee.Status.Outcomes
import AeroxeBee.Status.Honest
import AeroxeBee.Accounts.Profile
import AeroxeBee.Accounts.Concurrent
import AeroxeBee.Tenants.Devices
import AeroxeBee.Tenants.Writes
import AeroxeBee.Tenants.Reads
import AeroxeBee.Accounts.Tokens
import AeroxeBee.Admin.Handlers
import AeroxeBee.Dispatch.Breakers
import AeroxeBee.Dispatch.Restart
import AeroxeBee.Api.Plans
import AeroxeBee.Dispatch.Opening
import AeroxeBee.Api.Endpoints
import AeroxeBee.Worker.Backpressure
import AeroxeBee.Dispatch.Expired
import AeroxeBee.Api.Postings
import AeroxeBee.Api.Course
import AeroxeBee.Api.Quota
import AeroxeBee.Api.Usage
import AeroxeBee.Otp.Verify
import AeroxeBee.Foundations.Windows
import AeroxeBee.Otp.Guesses
import AeroxeBee.Otp.Isolation
import AeroxeBee.Otp.Send
import AeroxeBee.Foundations.Topics
import AeroxeBee.Mqtt.Client
import AeroxeBee.Accounts.TwoFactor
import AeroxeBee.Admin.DeadLetters
import AeroxeBee.Admin.ChangeRequests
import AeroxeBee.Dispatch.Deliveries
import AeroxeBee.Admin.Releases
import AeroxeBee.Admin.Reviews
import AeroxeBee.Tenants.Pairing
import AeroxeBee.Runs
import AeroxeBee.Tenants.Logins
import AeroxeBee.Api.Listing
import AeroxeBee.Status.Feedback
import AeroxeBee.Dispatch.Limits
import AeroxeBee.Dispatch.Fleet
import AeroxeBee.Accounts.Revocation
import AeroxeBee.Status.Pinned
import AeroxeBee.Api.Races
import AeroxeBee.Tenants.Submitters
import AeroxeBee.Accounts.Pending
import AeroxeBee.Accounts.Approvals
import AeroxeBee.Dispatch.Recent
import AeroxeBee.Api.Events
import AeroxeBee.Android.Phone
import AeroxeBee.Android.Statuses
import AeroxeBee.Android.Engine
import AeroxeBee.Android.Pending
import AeroxeBee.Android.Kept
import AeroxeBee.Android.Routines
import AeroxeBee.Android.Handed
import AeroxeBee.Android.Retries
import AeroxeBee.Android.Arrivals
import AeroxeBee.Android.Connection
import AeroxeBee.Android.Subscriptions
import AeroxeBee.Dispatch.Cleanup
import AeroxeBee.Dispatch.Selection
import AeroxeBee.Dispatch.Severity
import AeroxeBee.Dispatch.Confidence
import AeroxeBee.Api.Bulk
import AeroxeBee.Foundations.Batches
import AeroxeBee.Scheduler.Progress
import AeroxeBee.Api.Months
import AeroxeBee.Admin.Publishing
import AeroxeBee.Admin.ActiveConfig
import AeroxeBee.Admin.Uploads
import AeroxeBee.Admin.PlanApprovals
import AeroxeBee.Accounts.PasswordChanges
import AeroxeBee.Dispatch.Throttle
import AeroxeBee.Admin.Analytics
import AeroxeBee.Api.RateLimits
import AeroxeBee.Api.BruteForce
import AeroxeBee.Otp.Marks
import AeroxeBee.Tenants.Pages
import AeroxeBee.Foundations.Upserts
import AeroxeBee.Admin.RemoteConfig
import AeroxeBee.Foundations.Replace
import AeroxeBee.Admin.Rendering
import AeroxeBee.Admin.Replacing
import AeroxeBee.Foundations.Hex
import AeroxeBee.Api.Identifiers
import AeroxeBee.Otp.Codes
import AeroxeBee.Foundations.Regression
import AeroxeBee.Dispatch.Trend
import AeroxeBee.Dispatch.Countries
import AeroxeBee.Admin.Templates
import AeroxeBee.Admin.TemplateLimit
import AeroxeBee.Foundations.Tallies
import AeroxeBee.Dispatch.Spam
import AeroxeBee.Foundations.Regexp
import AeroxeBee.Dispatch.ContentFilter
import AeroxeBee.Dispatch.Recipients
import AeroxeBee.Api.Senders
import AeroxeBee.Dispatch.Webhooks
import AeroxeBee.Dispatch.Settling
import AeroxeBee.Dispatch.Revival
import AeroxeBee.Foundations.Paging
import AeroxeBee.Api.History
import AeroxeBee.Foundations.Statement
import AeroxeBee.Admin.UserUpdates
import AeroxeBee.Android.Limits
import AeroxeBee.Foundations.Base64
import AeroxeBee.Foundations.Patterns
import AeroxeBee.Foundations.Heeding
import AeroxeBee.Api.Encryption
import AeroxeBee.Api.Checks
import AeroxeBee.Api.Router
import AeroxeBee.Dispatch.Gates
import AeroxeBee.Extended
import AeroxeBee.Accounts.Enrolment
import AeroxeBee.Tenants.Keys
import AeroxeBee.Foundations.Registers
import AeroxeBee.Tenants.Hooks
import AeroxeBee.Tenants.Kept
import AeroxeBee.Foundations.Selecting
import AeroxeBee.Foundations.Answering
import AeroxeBee.Foundations.Like
import AeroxeBee.Columns
import AeroxeBee.Dispatch.Eligible
import AeroxeBee.Api.Listed
import AeroxeBee.Admin.Listings
import AeroxeBee.Admin.Directory
