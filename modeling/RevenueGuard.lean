import RevenueGuard.ApprovalProofs
import RevenueGuard.ResumeProofs
import RevenueGuard.IntakeProofs
import RevenueGuard.CustodyProofs
import RevenueGuard.PaymentLinkProofs
import RevenueGuard.RedeliveryProofs
import RevenueGuard.CooldownProofs
import RevenueGuard.AuditProofs
import RevenueGuard.LlmProofs
import RevenueGuard.TripProofs
import RevenueGuard.HalfOpenProofs
import RevenueGuard.ReopenProofs
import RevenueGuard.ArmProofs
import RevenueGuard.OutcomeProofs
import RevenueGuard.OpenRequestProofs
import RevenueGuard.EvaluatorProofs
import RevenueGuard.RoundTripProofs
import RevenueGuard.ProducerProofs
import RevenueGuard.UnifiedHealthProofs
import RevenueGuard.BroadcastProofs
import RevenueGuard.WindowProofs
import RevenueGuard.ProbeProofs
import RevenueGuard.ScanProofs
import RevenueGuard.NormalizerProofs
import RevenueGuard.FailureProofs
import RevenueGuard.ExpiryProofs
import RevenueGuard.AnalyzerProofs
import RevenueGuard.DowntimeProofs
import RevenueGuard.StrategyProofs
import RevenueGuard.ExecutionProofs
import RevenueGuard.ResponseProofs
import RevenueGuard.AddressProofs
import RevenueGuard.TimestampProofs
import RevenueGuard.PageProofs
import RevenueGuard.TimelineProofs
import RevenueGuard.DeferProofs
import RevenueGuard.SimulationProofs
import RevenueGuard.EnqueueProofs
import RevenueGuard.RailProofs
import RevenueGuard.ChronologyProofs
import RevenueGuard.MetricsProofs
import RevenueGuard.MoneyProofs
import RevenueGuard.EncoderProofs
import RevenueGuard.CaseFileProofs
import RevenueGuard.HistoryProofs
import RevenueGuard.PassageProofs
import RevenueGuard.SpendProofs
import RevenueGuard.ProgressProofs
import RevenueGuard.TrainingProofs
import RevenueGuard.BanditProofs
import RevenueGuard.DashboardProofs
import RevenueGuard.ProvenanceProofs
import RevenueGuard.CircuitProofs
import RevenueGuard.ReportProofs
import RevenueGuard.EventBusProofs
import RevenueGuard.CasePageProofs
