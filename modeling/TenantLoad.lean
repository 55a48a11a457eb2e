import TenantLoad.Batch.TimedRun
import TenantLoad.Main
import TenantLoad.Proofs.Api.Address
import TenantLoad.Proofs.Batch.Aggregate
import TenantLoad.Proofs.Batch.Delays
import TenantLoad.Proofs.Batch.FailFast
import TenantLoad.Proofs.Batch.FailureCount
import TenantLoad.Proofs.Batch.Occupancy
import TenantLoad.Proofs.Batch.Termination
import TenantLoad.Proofs.Config.Backoff
import TenantLoad.Proofs.Config.RoundTrip
import TenantLoad.Proofs.Metrics.Partition
import TenantLoad.Proofs.Metrics.Spread
import TenantLoad.Proofs.Metrics.SummaryText
import TenantLoad.Proofs.Payload.Conformance
import TenantLoad.Proofs.Program.Acceptance
import TenantLoad.Proofs.Program.Answers
import TenantLoad.Proofs.Program.FlagsInEffect
import TenantLoad.Proofs.Program.LoadRun
import TenantLoad.Proofs.Retry.Reference
import TenantLoad.Proofs.Retry.Signatures
import TenantLoad.Proofs.Run.Payloads
import TenantLoad.Proofs.Run.Seeds
import TenantLoad.Proofs.Run.Shutdown
import TenantLoad.Proofs.Run.Solo
import TenantLoad.Proofs.Shutdown.Interleaving
import TenantLoad.Proofs.Tenant.CutShort
import TenantLoad.Proofs.Tenant.RowKeys
import TenantLoad.Proofs.Tenant.Success
import TenantLoad.Service.Script
import TenantLoad.Tenant.Context
