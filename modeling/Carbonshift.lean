import Carbonshift.Client.PlanCoverage
import Carbonshift.Client.PlanRunner
import Carbonshift.Client.PlanRuns
import Carbonshift.Client.PlanStore
import Carbonshift.Client.ProfileExchange
import Carbonshift.Client.ProfileGuarantees
import Carbonshift.Client.ProfileRestores
import Carbonshift.Client.ProfileRuns
import Carbonshift.Client.ProfileStart
import Carbonshift.Client.SlotAgreement
import Carbonshift.Client.Ticks
import Carbonshift.Client.Timeslots
import Carbonshift.Client.Tracker
import Carbonshift.Client.TrackerRuns
import Carbonshift.Client.TrackerSteps
import Carbonshift.Client.TrackerThreads
import Carbonshift.Engine.Aggregates
import Carbonshift.Engine.Arrivals
import Carbonshift.Engine.BanditMerge
import Carbonshift.Engine.BatchTimeout
import Carbonshift.Engine.ClockSlots
import Carbonshift.Engine.CommitLog
import Carbonshift.Engine.CommitLoop
import Carbonshift.Engine.Commits
import Carbonshift.Engine.CommittedPrices
import Carbonshift.Engine.CommittedTotals
import Carbonshift.Engine.Config
import Carbonshift.Engine.Conservation
import Carbonshift.Engine.Coverage
import Carbonshift.Engine.CurrentSlot
import Carbonshift.Engine.DispatchBalance
import Carbonshift.Engine.DispatchFairness
import Carbonshift.Engine.DispatchSteps
import Carbonshift.Engine.DpGuarantees
import Carbonshift.Engine.DpLayers
import Carbonshift.Engine.DpSearch
import Carbonshift.Engine.DpSolver
import Carbonshift.Engine.DpWarmStart
import Carbonshift.Engine.LastResort
import Carbonshift.Engine.LearnedSteps
import Carbonshift.Engine.LockedCommits
import Carbonshift.Engine.MainLoop
import Carbonshift.Engine.ManualClock
import Carbonshift.Engine.MergeRefinement
import Carbonshift.Engine.MockPools
import Carbonshift.Engine.OnlineSwarm
import Carbonshift.Engine.OnlineSwarmMerge
import Carbonshift.Engine.Preparation
import Carbonshift.Engine.Pricing
import Carbonshift.Engine.ProfileQueues
import Carbonshift.Engine.Promises
import Carbonshift.Engine.Qos
import Carbonshift.Engine.Quantisation
import Carbonshift.Engine.Recovery
import Carbonshift.Engine.ReplanFrame
import Carbonshift.Engine.ReplanPrices
import Carbonshift.Engine.Replans
import Carbonshift.Engine.Requests
import Carbonshift.Engine.Reservations
import Carbonshift.Engine.Runtime
import Carbonshift.Engine.Scheduler
import Carbonshift.Engine.SchedulerSteps
import Carbonshift.Engine.SerializedSwarm
import Carbonshift.Engine.SharedState
import Carbonshift.Engine.SingleRequest
import Carbonshift.Engine.SingleWriter
import Carbonshift.Engine.SingletonFrame
import Carbonshift.Engine.SingletonVersusDp
import Carbonshift.Engine.Solve
import Carbonshift.Engine.StrategyNames
import Carbonshift.Engine.SwarmBudget
import Carbonshift.Engine.SwarmPlacement
import Carbonshift.Engine.SwarmTallies
import Carbonshift.Engine.TierLadders
import Carbonshift.Engine.Types
import Carbonshift.Engine.WindowArithmetic
import Carbonshift.Engine.WindowGuarantee
import Carbonshift.Execution.Deliveries
import Carbonshift.Execution.Exchange
import Carbonshift.Execution.Reports
import Carbonshift.Execution.Steps
import Carbonshift.Executor.AnswerScore
import Carbonshift.Executor.Calls
import Carbonshift.Executor.DueOrder
import Carbonshift.Executor.Inference
import Carbonshift.Executor.JobQueue
import Carbonshift.Executor.JobRuns
import Carbonshift.Executor.MeasuredError
import Carbonshift.Executor.PipelineCache
import Carbonshift.Executor.QueuePositions
import Carbonshift.Executor.VirtualClock
import Carbonshift.Library.AddressBlocks
import Carbonshift.Library.AffineDecay
import Carbonshift.Library.CheckedInt
import Carbonshift.Library.Dictionary
import Carbonshift.Library.DictionarySums
import Carbonshift.Library.Doubles
import Carbonshift.Library.Fallible
import Carbonshift.Library.Iteration
import Carbonshift.Library.LayeredSearch
import Carbonshift.Library.ListFacts
import Carbonshift.Library.OrderedDictionary
import Carbonshift.Library.OverlapScore
import Carbonshift.Library.Ranking
import Carbonshift.Library.Recency
import Carbonshift.Library.RoundRobin
import Carbonshift.Library.Rounding
import Carbonshift.Library.RunningMean
import Carbonshift.Library.Selection
import Carbonshift.Library.Transition
import Carbonshift.Nshift.AntColonyRefinement
import Carbonshift.Nshift.BanditRefinement
import Carbonshift.Nshift.GreedyCheapest
import Carbonshift.Nshift.LatePricing
import Carbonshift.Nshift.OutputRows
import Carbonshift.Nshift.RunCompleteness
import Carbonshift.Nshift.SingletonRefinement
import Carbonshift.Nshift.Swarm
import Carbonshift.Provider.AdvanceSlot
import Carbonshift.Provider.Clock
import Carbonshift.Provider.ClockMessages
import Carbonshift.Provider.Deployment
import Carbonshift.Provider.DesyncLatch
import Carbonshift.Provider.HandlerSteps
import Carbonshift.Provider.LatchInvariant
import Carbonshift.Provider.LatchRuns
import Carbonshift.Provider.Notifications
import Carbonshift.Provider.RolloverAgreement
import Carbonshift.Provider.RolloverRetries
import Carbonshift.Provider.RolloverRuns
import Carbonshift.Provider.Slots
import Carbonshift.Service.Admission
import Carbonshift.Service.AtMostOnce
import Carbonshift.Service.Barrier
import Carbonshift.Service.Callback
import Carbonshift.Service.CallbackGuard
import Carbonshift.Service.CapacityLadders
import Carbonshift.Service.Claims
import Carbonshift.Service.Clock
import Carbonshift.Service.ClockFrame
import Carbonshift.Service.ClockSteps
import Carbonshift.Service.CloseSlot
import Carbonshift.Service.CostCorrection
import Carbonshift.Service.CostFactors
import Carbonshift.Service.Dispatcher
import Carbonshift.Service.Finality
import Carbonshift.Service.ManualAdvance
import Carbonshift.Service.Messages
import Carbonshift.Service.ProfileApi
import Carbonshift.Service.Profiles
import Carbonshift.Service.RecordHistory
import Carbonshift.Service.RecordWrites
import Carbonshift.Service.Records
import Carbonshift.Service.Registration
import Carbonshift.Service.Replanning
import Carbonshift.Service.SlotDetail
import Carbonshift.Service.SlotTranslation
import Carbonshift.Service.State
import Carbonshift.Service.Steps
import Carbonshift.Service.Submission
import Carbonshift.Service.System
import Carbonshift.Service.TimeKeeping
import Carbonshift.Service.WallClock
import Carbonshift.Sim.EmissionOrder
import Carbonshift.Sim.Generator
import Carbonshift.Sim.Scenario
import Carbonshift.Snapshots.Documents
import Carbonshift.Snapshots.Publication
import Carbonshift.Snapshots.Visibility
import Carbonshift.Snapshots.Writers
