import GoZond.Common
import GoZond.State.World
import GoZond.State.Journal
import GoZond.State.Effect
import GoZond.Vm.Zvm
import GoZond.Vm.Create
import GoZond.Vm.Revert
import GoZond.Vm.Balance
import GoZond.Vm.Bounds
import GoZond.Vm.Hashes
import GoZond.Core.Types
import GoZond.Core.Transaction
import GoZond.Core.Receipts
import GoZond.Core.StateProcessor
import GoZond.Core.StateTransition
import GoZond.Core.Supply
import GoZond.Core.Accounts
import GoZond.Core.Logs
import GoZond.T8n.Execution
import GoZond.T8n.Genesis
import GoZond.T8n.Rewards
import GoZond.T8n.Inclusion
import GoZond.T8n.Agreement
import GoZond.T8n.BlockHashes
import GoZond.T8n.Ledger
import GoZond.T8n.Accounts
