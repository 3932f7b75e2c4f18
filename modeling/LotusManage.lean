import LotusManage.Engine.StoredValueRuns
import LotusManage.Engine.TrustConservation
import LotusManage.Engine.Eligibility
import LotusManage.Engine.GateAgreement
import LotusManage.Engine.GainsBudget
import LotusManage.Waves.LeaseReadings
import LotusManage.RebalanceRuns.WorkflowStatus
import LotusManage.RebalanceRuns.PurgeIsolation
import LotusManage.RebalanceRuns.AsyncFencing
import LotusManage.Campaigns.OpeningRetries
import LotusManage.Campaigns.ControlExceptions
import LotusManage.Campaigns.Supersession
import LotusManage.Packages.Listing
import LotusManage.RebalanceRuns.IdeaActionAgreement
import LotusManage.RebalanceRuns.TenantIsolation
import LotusManage.RebalanceRuns.RunPaging
import LotusManage.Composites.CaptureArtifacts
import LotusManage.Composites.UniverseReconciliation
import LotusManage.Composites.AuthorityChain
import LotusManage.Engine.ValuationTotals
import LotusManage.Engine.TurnoverSelection
import LotusManage.Engine.ExecutionOrder
import LotusManage.Engine.NoShorting
import LotusManage.Engine.PolicyPacks
import LotusManage.Engine.SettlementLadder
import LotusManage.Engine.SizingAccounts
import LotusManage.Mandates.AllocationDrift
import LotusManage.Mandates.MonitoringExceptions
import LotusManage.PmQuality.WorseEvidence
import LotusManage.Packages.ContentHash
import LotusManage.Composites.DefinitionParsing
import LotusManage.RebalanceRuns.LineagePaging
import LotusManage.Waves.ItemPaging
import LotusManage.Composites.AmountSpellings
import LotusManage.Composites.RegistryMonths
import LotusManage.Engine.SolverRounding
import LotusManage.Mandates.VersionOrder
import LotusManage.Migrations.StatementSplit
import LotusManage.Composites.FlowClosure
import LotusManage.Waves.DerivedIdentities
import LotusManage.Waves.GovernanceChain
import LotusManage.Waves.SequentialServices
import LotusManage.Waves.CreateReplays
