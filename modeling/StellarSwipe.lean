import StellarSwipe.Shared.ApprovalSafety
import StellarSwipe.StakeVault.BatchIsolation
import StellarSwipe.StakeVault.QueueProgress
import StellarSwipe.StakeVault.QueueStructure
import StellarSwipe.StakeVault.Solvency
import StellarSwipe.StakeVault.SlashReversal
import StellarSwipe.StakeVault.RewardConservation
import StellarSwipe.StakeVault.RewardFairness
import StellarSwipe.Governance.ConvictionVoters
import StellarSwipe.Governance.Simulation
import StellarSwipe.Governance.Dependencies
import StellarSwipe.Governance.BallotRuns
import StellarSwipe.Governance.WindowedSpending
import StellarSwipe.Governance.DepositReturns
import StellarSwipe.Governance.ProposalActions
import StellarSwipe.StakeVault.ClaimCap
import StellarSwipe.Governance.RefillSchedule
import StellarSwipe.StakeVault.RewardBuckets
import StellarSwipe.StakeVault.ProviderLockup
import StellarSwipe.StakeVault.WithdrawalTimelock
import StellarSwipe.StakeVault.Migration
import StellarSwipe.FeeCollector.WithdrawalQueue
import StellarSwipe.FeeCollector.Retries
import StellarSwipe.Bridge.ReplaySafety
import StellarSwipe.Bridge.VolumeLimits
import StellarSwipe.CrossChain.MessageOrder
import StellarSwipe.CrossChain.TransferLifecycle
import StellarSwipe.CrossChain.FeeAccounting
import StellarSwipe.CrossChain.ValidatorActivation
import StellarSwipe.Authority.Handover
import StellarSwipe.Committees.Majority
import StellarSwipe.Common.PurgeSafety
import StellarSwipe.TradeExecutor.SettlementAccounts
import StellarSwipe.TradeExecutor.Simulation
import StellarSwipe.TradeExecutor.QueueRuns
import StellarSwipe.TradeExecutor.Confirmations
import StellarSwipe.TradeExecutor.OpenPositions
import StellarSwipe.TradeExecutor.LimitRuns
import StellarSwipe.TradeExecutor.Volumes
import StellarSwipe.UserPortfolio.RealizedValue
import StellarSwipe.UserPortfolio.Exposure
import StellarSwipe.UserPortfolio.Indexes
import StellarSwipe.UserPortfolio.LotCloses
import StellarSwipe.AutoTrade.IcebergRuns
import StellarSwipe.Oracle.ConversionCache
import StellarSwipe.Oracle.QuorumStates
import StellarSwipe.Oracle.FeedGuards
import StellarSwipe.Oracle.DeviationGates
import StellarSwipe.SignalRegistry.Reputation
import StellarSwipe.Oracle.ConsensusRuns
import StellarSwipe.Bridge.SplitLaws
import StellarSwipe.Bridge.Withdrawals
import StellarSwipe.CrossChain.LatencyBreaker
import StellarSwipe.Committees.Elections
import StellarSwipe.TradeExecutor.Dca
import StellarSwipe.SignalRegistry.MigrationRuns
import StellarSwipe.Oracle.MultiHop
import StellarSwipe.StakeVault.CampaignVesting
import StellarSwipe.StakeVault.ActionPayloads
import StellarSwipe.StakeVault.AccrualWrites
import StellarSwipe.FeeCollector.FeeSplit
import StellarSwipe.Governance.VoteCredits
import StellarSwipe.Bridge.TransferHistory
import StellarSwipe.Common.RateLimitRuns
