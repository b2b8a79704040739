import CloudflareIpSync.Path
import CloudflareIpSync.Prog
import CloudflareIpSync.Loop
import CloudflareIpSync.Deadline
import CloudflareIpSync.Via
import CloudflareIpSync.Paging
import CloudflareIpSync.Pool
import CloudflareIpSync.Hoare
import CloudflareIpSync.Dialog
import CloudflareIpSync.Ipaddress
import CloudflareIpSync.AddressText
import CloudflareIpSync.Json
import CloudflareIpSync.Labels
import CloudflareIpSync.Text
import CloudflareIpSync.Api
import CloudflareIpSync.Action
import CloudflareIpSync.Coordinator
import CloudflareIpSync.ConfigFlow
import CloudflareIpSync.Retry
import CloudflareIpSync.Refresh
import CloudflareIpSync.Hass
import CloudflareIpSync.Snapshot
import CloudflareIpSync.VerifiedWrite
import CloudflareIpSync.WriteSafety
import CloudflareIpSync.IssueTracking
import CloudflareIpSync.ListIndependence
import CloudflareIpSync.Convergence
import CloudflareIpSync.DnsZone
import CloudflareIpSync.DnsInSync
import CloudflareIpSync.DnsAgreement
import CloudflareIpSync.Triggers
import CloudflareIpSync.StaleWrites
import CloudflareIpSync.AddressSets
import CloudflareIpSync.ListMatch
import CloudflareIpSync.ListReads
import CloudflareIpSync.ListBookkeeping
import CloudflareIpSync.DnsNotice
import CloudflareIpSync.DnsDuplicates
import CloudflareIpSync.Outcomes
import CloudflareIpSync.Client
import CloudflareIpSync.SetupFlow
import CloudflareIpSync.Envelope
import CloudflareIpSync.ClientErrors
import CloudflareIpSync.Pagination
import CloudflareIpSync.ReadEnds
import CloudflareIpSync.Accounts
import CloudflareIpSync.RetryLaw
import CloudflareIpSync.DnsFixedPoint
import CloudflareIpSync.BulkWait
import CloudflareIpSync.ZoneResolution
import CloudflareIpSync.ConfigEntries
import CloudflareIpSync.FlowInvariant
import CloudflareIpSync.EntryOrigins
import CloudflareIpSync.Exclusive
import CloudflareIpSync.UniqueEntries
import CloudflareIpSync.SetupRuns
import CloudflareIpSync.Entitlement
import CloudflareIpSync.Wire
import CloudflareIpSync.House
import CloudflareIpSync.Relabel
import CloudflareIpSync.Diagnostics
import CloudflareIpSync.Token
import CloudflareIpSync.Server
import CloudflareIpSync.Disturbance
import CloudflareIpSync.DnsDisturbance
import CloudflareIpSync.Resubmission
import CloudflareIpSync.Dispatch
import CloudflareIpSync.Integration
import CloudflareIpSync.DnsFailures
import CloudflareIpSync.ZoneServer
import CloudflareIpSync.RecordDelivery
