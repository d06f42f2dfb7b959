import ArgosCore.Proofs.AppendAtomicity
import ArgosCore.Proofs.AssetArrivalOrder
import ArgosCore.Proofs.AssetGovernedMerge
import ArgosCore.Proofs.AssetGraph
import ArgosCore.Proofs.AssetSnapshot
import ArgosCore.Proofs.BacktestNoise
import ArgosCore.Proofs.BarrierAgreement
import ArgosCore.Proofs.ChainProduction
import ArgosCore.Proofs.CollapseProvenance
import ArgosCore.Proofs.ConflictCorroboration
import ArgosCore.Proofs.ConflictOrder
import ArgosCore.Proofs.ConflictWinner
import ArgosCore.Proofs.ContextExpansion
import ArgosCore.Proofs.CorrelatorBatches
import ArgosCore.Proofs.CorrelatorIncidents
import ArgosCore.Proofs.CorrelatorPartition
import ArgosCore.Proofs.CorrelatorQuiet
import ArgosCore.Proofs.CrashRecovery
import ArgosCore.Proofs.CveFilter
import ArgosCore.Proofs.DecisionReplay
import ArgosCore.Proofs.DomainIsolation
import ArgosCore.Proofs.EnvelopeActions
import ArgosCore.Proofs.EventDelivery
import ArgosCore.Proofs.EvidenceRootOrder
import ArgosCore.Proofs.FederationExchange
import ArgosCore.Proofs.FederationReplay
import ArgosCore.Proofs.FederationValidity
import ArgosCore.Proofs.GraphIntegrity
import ArgosCore.Proofs.GraphProvenance
import ArgosCore.Proofs.GraphSnapshot
import ArgosCore.Proofs.HandoverRedaction
import ArgosCore.Proofs.HonestReplay
import ArgosCore.Proofs.InformedVerdicts
import ArgosCore.Proofs.MissionImpact
import ArgosCore.Proofs.NormalizerDedup
import ArgosCore.Proofs.PipelineContainment
import ArgosCore.Proofs.ReceiptGenuineness
import ArgosCore.Proofs.RedactionLevels
import ArgosCore.Proofs.ReplayBinding
import ArgosCore.Proofs.RiskRanking
import ArgosCore.Proofs.RootCommitment
import ArgosCore.Proofs.RootErrors
import ArgosCore.Proofs.RuleCompilation
import ArgosCore.Proofs.SanitizerNoninterference
import ArgosCore.Proofs.SanitizerPointwise
import ArgosCore.Proofs.SanitizerPolicyOrder
import ArgosCore.Proofs.TemporalAudit
import ArgosCore.Proofs.TemporalOrder
import ArgosCore.Proofs.TombstoneSuppression
import ArgosCore.Proofs.TransferCustody
import ArgosCore.Proofs.TransferRelease
import ArgosCore.Proofs.TransparencyChain
import ArgosCore.Proofs.TransparencyPersistence
import ArgosCore.Proofs.TransparencyReceipts
import ArgosCore.Proofs.VerifierEnvelope
