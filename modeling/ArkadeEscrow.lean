import ArkadeEscrow.Interaction.Program
import ArkadeEscrow.Data.Results
import ArkadeEscrow.Bitcoin
import ArkadeEscrow.Spend
import ArkadeEscrow.Client.Interface
import ArkadeEscrow.Client.Program
import ArkadeEscrow.Client.Rules
import ArkadeEscrow.Client.History
import ArkadeEscrow.Client.Commitment
import ArkadeEscrow.Client.Traces
import ArkadeEscrow.Client.Merge
import ArkadeEscrow.Client.Signatures
import ArkadeEscrow.Client.Release
import ArkadeEscrow.Client.Attempt
import ArkadeEscrow.Client.Recovery
import ArkadeEscrow.Client.Custody
import ArkadeEscrow.Client.Completion
import ArkadeEscrow.Interaction.Slots
import ArkadeEscrow.Client.Durability
import ArkadeEscrow.Tapscript.Locktime
import ArkadeEscrow.Tapscript.Number
import ArkadeEscrow.Tapscript.Machine
import ArkadeEscrow.Contract
import ArkadeEscrow.Policy
import ArkadeEscrow.Data.Merkle
import ArkadeEscrow.Taproot
import ArkadeEscrow.Batch.Interface
import ArkadeEscrow.Batch.Settle
import ArkadeEscrow.Batch.Rules
import ArkadeEscrow.Batch.Forfeits
import ArkadeEscrow.Reference
import ArkadeEscrow.Batch.Traces
import ArkadeEscrow.Batch.Reference
import ArkadeEscrow.Spendable
import ArkadeEscrow.Batch.Isolation
import ArkadeEscrow.Interaction.Sequence
import ArkadeEscrow.Client.Binding
import ArkadeEscrow.Client.Crashes
import ArkadeEscrow.Client.Stages
import ArkadeEscrow.Interaction.Pool
import ArkadeEscrow.Client.Tokens
import ArkadeEscrow.Interaction.Deadline
import ArkadeEscrow.Refresh.Program
import ArkadeEscrow.Refresh.Discipline
import ArkadeEscrow.Refresh.Withdrawal
import ArkadeEscrow.Data.Distinct
import ArkadeEscrow.Payout
import ArkadeEscrow.Lookup.Builders
import ArkadeEscrow.Lookup.Program
import ArkadeEscrow.Lookup.Candidates
import ArkadeEscrow.Lookup.Hints
import ArkadeEscrow.Lookup.Reference
import ArkadeEscrow.Lookup.Found
import ArkadeEscrow.Lookup.Conservation
import ArkadeEscrow.Batch.Order
import ArkadeEscrow.Batch.Signing
import ArkadeEscrow.Batch.Forest
import ArkadeEscrow.Refresh.Retry
import ArkadeEscrow.Files.Store
import ArkadeEscrow.Files.Operations
import ArkadeEscrow.Files.History
import ArkadeEscrow.Files.Atomic
import ArkadeEscrow.Files.Durable
import ArkadeEscrow.Files.Runs
import ArkadeEscrow.Data.Utf8
import ArkadeEscrow.Data.Hex
import ArkadeEscrow.Ruby.Keys
import ArkadeEscrow.Ruby.Grammar
import ArkadeEscrow.Data.Binding
import ArkadeEscrow.Output
import ArkadeEscrow.Client.Outstanding
import ArkadeEscrow.Files.Backing
import ArkadeEscrow.Data.Json
import ArkadeEscrow.Record
import ArkadeEscrow.Client.Legacy
import ArkadeEscrow.Interaction.Backend
import ArkadeEscrow.Ruby.Callback
import ArkadeEscrow.Interaction.Copies
import ArkadeEscrow.Signing
import ArkadeEscrow.Ruby.Exchange
import ArkadeEscrow.Ruby.Refreshing
import ArkadeEscrow.Batch.Completion
import ArkadeEscrow.Interaction.Punctual
import ArkadeEscrow.Refresh.Recovery
import ArkadeEscrow.Lookup.Renewal
import ArkadeEscrow.Lookup.Delegated
import ArkadeEscrow.Ruby.Releasing
import ArkadeEscrow.Client.Acknowledged
import ArkadeEscrow.Ruby.Status
import ArkadeEscrow.Ruby.Contracts
import ArkadeEscrow.Client.Stranded
import ArkadeEscrow.Client.Cosigned
import ArkadeEscrow.Ruby.Spending
import ArkadeEscrow.Batch.Failures
