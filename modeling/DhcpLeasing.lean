import DhcpLeasing.Address.Basic
import DhcpLeasing.Address.Dotted
import DhcpLeasing.Address.Grouped
import DhcpLeasing.Address.Spelling
import DhcpLeasing.AddressPool
import DhcpLeasing.Allocation
import DhcpLeasing.CommandLine.Arguments
import DhcpLeasing.CommandLine.Execution
import DhcpLeasing.CommandLine.Listing
import DhcpLeasing.Config.Basic
import DhcpLeasing.Config.Json
import DhcpLeasing.Config.Validation
import DhcpLeasing.ConfigFile
import DhcpLeasing.Disk
import DhcpLeasing.Echo
import DhcpLeasing.Error
import DhcpLeasing.Fleet
import DhcpLeasing.Hostname
import DhcpLeasing.HwAddr
import DhcpLeasing.Interface.Admin
import DhcpLeasing.Interface.Basic
import DhcpLeasing.Interface.Command
import DhcpLeasing.Json.Basic
import DhcpLeasing.Json.Printer
import DhcpLeasing.Json.Reader
import DhcpLeasing.Json.Record
import DhcpLeasing.Lease.Basic
import DhcpLeasing.Lease.Json
import DhcpLeasing.LeaseFile
import DhcpLeasing.LeaseTable
import DhcpLeasing.LeaseTable.Command
import DhcpLeasing.Main
import DhcpLeasing.Proofs.Address
import DhcpLeasing.Proofs.AddressPool
import DhcpLeasing.Proofs.AddressPool.Candidates
import DhcpLeasing.Proofs.AddressPool.Coherence
import DhcpLeasing.Proofs.Allocation
import DhcpLeasing.Proofs.Allocation.Candidates
import DhcpLeasing.Proofs.Allocation.Rounds
import DhcpLeasing.Proofs.Checks
import DhcpLeasing.Proofs.CommandLine.Cleanup
import DhcpLeasing.Proofs.Config
import DhcpLeasing.Proofs.Config.Json
import DhcpLeasing.Proofs.ConfigFile
import DhcpLeasing.Proofs.Desk
import DhcpLeasing.Proofs.Desk.Calls
import DhcpLeasing.Proofs.Desk.Courses
import DhcpLeasing.Proofs.Desk.Edits
import DhcpLeasing.Proofs.Desk.Leases
import DhcpLeasing.Proofs.Desk.LostRaces
import DhcpLeasing.Proofs.Desk.OnTime
import DhcpLeasing.Proofs.Desk.Probes
import DhcpLeasing.Proofs.Desk.Reservations
import DhcpLeasing.Proofs.Desk.Static
import DhcpLeasing.Proofs.Desk.Tenure
import DhcpLeasing.Proofs.Desk.Undisturbed
import DhcpLeasing.Proofs.Disk
import DhcpLeasing.Proofs.Echo
import DhcpLeasing.Proofs.Fleet
import DhcpLeasing.Proofs.Hostname
import DhcpLeasing.Proofs.Hostname.Agreement
import DhcpLeasing.Proofs.HwAddr
import DhcpLeasing.Proofs.HwAddr.Canonical
import DhcpLeasing.Proofs.HwAddr.Spellings
import DhcpLeasing.Proofs.Interface.Admin
import DhcpLeasing.Proofs.Interface.Allocation
import DhcpLeasing.Proofs.Interface.Basic
import DhcpLeasing.Proofs.Interface.Command
import DhcpLeasing.Proofs.Interface.Undisturbed
import DhcpLeasing.Proofs.Json.Layout
import DhcpLeasing.Proofs.Json.Printing
import DhcpLeasing.Proofs.Json.Record
import DhcpLeasing.Proofs.Json.Tokens
import DhcpLeasing.Proofs.Lease.Expiry
import DhcpLeasing.Proofs.Lease.Json
import DhcpLeasing.Proofs.LeaseFile
import DhcpLeasing.Proofs.LeaseTable.Changes
import DhcpLeasing.Proofs.LeaseTable.Exchange
import DhcpLeasing.Proofs.LeaseTable.Holders
import DhcpLeasing.Proofs.LeaseTable.Indexes
import DhcpLeasing.Proofs.LeaseTable.Reaping
import DhcpLeasing.Proofs.LeaseTable.Reservations
import DhcpLeasing.Proofs.LeaseTable.Runs
import DhcpLeasing.Proofs.Reaper
import DhcpLeasing.Proofs.Scope
import DhcpLeasing.Proofs.Service.Admission
import DhcpLeasing.Proofs.Service.Expiries
import DhcpLeasing.Proofs.Service.LocalDomain
import DhcpLeasing.Proofs.Service.Names
import DhcpLeasing.Proofs.Service.Refusals
import DhcpLeasing.Proofs.Service.Restoring
import DhcpLeasing.Proofs.Service.Routing
import DhcpLeasing.Proofs.Service.Runs
import DhcpLeasing.Proofs.Service.Saving
import DhcpLeasing.Proofs.Service.Store
import DhcpLeasing.Proofs.Service.Turns
import DhcpLeasing.Proofs.Session
import DhcpLeasing.Proofs.Session.Deadlines
import DhcpLeasing.Proofs.Session.Following
import DhcpLeasing.Proofs.Session.Likeness
import DhcpLeasing.Proofs.Text.Digits
import DhcpLeasing.Proofs.Text.Lowercase
import DhcpLeasing.Proofs.Text.Parts
import DhcpLeasing.Proofs.Text.Trimming
import DhcpLeasing.Proofs.Time.Calendar
import DhcpLeasing.Proofs.Time.Rfc3339
import DhcpLeasing.Proofs.Time.Timestamp
import DhcpLeasing.Reaper
import DhcpLeasing.Reply
import DhcpLeasing.Service.Basic
import DhcpLeasing.Service.Command
import DhcpLeasing.Session
import DhcpLeasing.SortedMap
import DhcpLeasing.Text.Blank
import DhcpLeasing.Text.CaseTable
import DhcpLeasing.Text.CharRange
import DhcpLeasing.Text.Digits
import DhcpLeasing.Text.Lowercase
import DhcpLeasing.Text.PrintTable
import DhcpLeasing.Text.Quoted
import DhcpLeasing.Time.Calendar
import DhcpLeasing.Time.Rfc3339
import DhcpLeasing.Time.Timestamp
