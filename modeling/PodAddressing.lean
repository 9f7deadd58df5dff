import PodAddressing.Activation
import PodAddressing.Address.Basic
import PodAddressing.Address.Block
import PodAddressing.AddressCheck
import PodAddressing.Agent.Basic
import PodAddressing.Agent.Handler
import PodAddressing.Agent.Program
import PodAddressing.Allocator.Allocate
import PodAddressing.Allocator.Basic
import PodAddressing.Allocator.Rebuild
import PodAddressing.Allocator.Release
import PodAddressing.Allocator.Run
import PodAddressing.CommandLine
import PodAddressing.Document
import PodAddressing.Fault
import PodAddressing.Files
import PodAddressing.Json.Basic
import PodAddressing.Json.Field
import PodAddressing.Link
import PodAddressing.Main
import PodAddressing.Network
import PodAddressing.Number.Binary64
import PodAddressing.Number.Reading
import PodAddressing.Pool
import PodAddressing.Record
import PodAddressing.RecordFile
import PodAddressing.Resource
import PodAddressing.Workload.Owner
import PodAddressing.Resync
import PodAddressing.Retention
import PodAddressing.Settings
import PodAddressing.Settings.Options
import PodAddressing.Settings.Readers
import PodAddressing.Table
import PodAddressing.Text.Basic
import PodAddressing.Text.Lower
import PodAddressing.Text.Quoted
import PodAddressing.Watch
import PodAddressing.Workload.Identity
import PodAddressing.Proofs.Table
import PodAddressing.Proofs.Text.Digits
import PodAddressing.Proofs.Text.Pieces
import PodAddressing.Proofs.Address.Text
import PodAddressing.Proofs.Address.Canonical
import PodAddressing.Proofs.Json.Field
import PodAddressing.Proofs.Json.Text
import PodAddressing.Proofs.Json.Roundtrip
import PodAddressing.Proofs.Files
import PodAddressing.Proofs.Activation
import PodAddressing.Proofs.RecordFile
import PodAddressing.Proofs.RecordFile.Entries
import PodAddressing.Proofs.Pool
import PodAddressing.Proofs.Pool.Names
import PodAddressing.Proofs.Pool.Offers
import PodAddressing.Proofs.Retention
import PodAddressing.Proofs.Allocator.Steps
import PodAddressing.Proofs.Allocator.Run
import PodAddressing.Proofs.Retention.Run
import PodAddressing.Proofs.Retention.History
import PodAddressing.Proofs.Allocator.Ordinals
import PodAddressing.Proofs.Allocator.Booking
import PodAddressing.Proofs.Allocator.Accounts
import PodAddressing.Proofs.Allocator.Ownership
import PodAddressing.Proofs.Allocator.Churn
import PodAddressing.Proofs.Allocator.Departure
import PodAddressing.Proofs.Allocator.Ranges
import PodAddressing.Proofs.Allocator.Selection
import PodAddressing.Proofs.Allocator.Partition
import PodAddressing.Proofs.Allocator.Excuses
import PodAddressing.Proofs.Allocator.Restart
import PodAddressing.Proofs.Allocator.Scaling
import PodAddressing.Proofs.Allocator.Interchange
import PodAddressing.Proofs.Allocator.Sharing
import PodAddressing.Proofs.Allocator.Refusals
import PodAddressing.Proofs.Allocator.Rebinding
import PodAddressing.Proofs.Allocator.Groups
import PodAddressing.Proofs.Allocator.Locality
import PodAddressing.Proofs.Allocator.Filling
import PodAddressing.Proofs.Allocator.Given
import PodAddressing.Proofs.Allocator.Unnumbered
import PodAddressing.Proofs.Agent.Handlers
import PodAddressing.Proofs.Agent.Recreation
import PodAddressing.Proofs.Agent.Lifetime
import PodAddressing.Proofs.Agent.Mirror
import PodAddressing.Proofs.Watch.Deliveries
import PodAddressing.Proofs.Watch.Withdrawals
import PodAddressing.Proofs.Resource.Spelling
import PodAddressing.Proofs.Resource.Nulls
import PodAddressing.Proofs.Resource.Addresses
import PodAddressing.Proofs.Watch.Blocked
import PodAddressing.Proofs.Watch.Keys
import PodAddressing.Proofs.Agent.Serving
import PodAddressing.Proofs.Resync.Calls
import PodAddressing.Proofs.Resync.Loop
import PodAddressing.Proofs.Agent.Resyncs
import PodAddressing.Proofs.Agent.Respellings
import PodAddressing.Proofs.Agent.Influence
import PodAddressing.Proofs.Allocator.Releases
import PodAddressing.Proofs.Agent.Removals
import PodAddressing.Proofs.Agent.Orders
import PodAddressing.Proofs.Settings.Forms
import PodAddressing.Proofs.Settings.Lines
import PodAddressing.Proofs.Settings.Shapes
