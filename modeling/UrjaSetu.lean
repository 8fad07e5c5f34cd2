import UrjaSetu.Services.MarketService
import UrjaSetu.Services.SettlementService
import UrjaSetu.Library.Json
import UrjaSetu.Domain.Interfaces.Audit
import UrjaSetu.Library.Calendar
import UrjaSetu.Domain.Policies.AuditChain
import UrjaSetu.Db.Models.Audit
import UrjaSetu.Repositories.Audit
import UrjaSetu.Services.AuditService
import UrjaSetu.Db.Models.Workspace
import UrjaSetu.Domain.Policies.CommunityEnergy
import UrjaSetu.Library.RowLock
import UrjaSetu.Services.WorkspaceService.Clock
import UrjaSetu.Services.WorkspaceWorker
import UrjaSetu.Domain.Interfaces.Pricing
import UrjaSetu.Domain.Policies.DynamicPricing
import UrjaSetu.Library.Table
import UrjaSetu.Library.UnitOfWork
import UrjaSetu.Db.Database
import UrjaSetu.Adapters.Baseline
import UrjaSetu.Services.WorkspaceService.Session
import UrjaSetu.Services.WorkspaceService.Orders
import UrjaSetu.Domain.Policies.MatchingDecimals
import UrjaSetu.Domain.Policies.MatchingDeterminism
import UrjaSetu.Domain.Interfaces.Telemetry
import UrjaSetu.Domain.Policies.TelemetryQuality
import UrjaSetu.Repositories.Telemetry
import UrjaSetu.Services.TelemetryService
import UrjaSetu.Services.TelemetryService.Batch
import UrjaSetu.Services.TelemetryService.Constraints
import UrjaSetu.Services.SettlementService.ActualEnergy
import UrjaSetu.Library.Transactions
import UrjaSetu.Db.Transactions
import UrjaSetu.Services.AuditService.Append
import UrjaSetu.Domain.Policies.Surplus
import UrjaSetu.Repositories.Forecasting
import UrjaSetu.Repositories.Market
import UrjaSetu.Services.MarketService.Operations
import UrjaSetu.Services.MarketService.Effects
import UrjaSetu.Services.MarketService.OrderBookLaw
import UrjaSetu.Services.MarketService.ClearingCommit
import UrjaSetu.Services.MarketService.OrderBookHistory
import UrjaSetu.Services.MarketService.SerialOrderBook
import UrjaSetu.Services.MarketService.ConcurrentOrderBook
import UrjaSetu.Services.MarketService.OfferedSurplus
import UrjaSetu.Services.AuditService.Rehydration
import UrjaSetu.Services.AuditService.Removal
import UrjaSetu.Services.GridValidationService.Fingerprint
import UrjaSetu.Services.GridValidationService.TradeConservation
import UrjaSetu.Services.WorkspaceService.Delivery
import UrjaSetu.Services.WorkspaceService.DeliveryEffects
import UrjaSetu.Services.WorkspaceService.AllocationConservation
import UrjaSetu.Library.Ties
import UrjaSetu.Services.WorkspaceService.GrossAmount
import UrjaSetu.Services.SettlementService.Operations
import UrjaSetu.Services.SettlementService.Effects
import UrjaSetu.Services.SettlementService.StandingSettlement
import UrjaSetu.Services.SettlementService.PaidEnergy
import UrjaSetu.Services.Reconciliations
import UrjaSetu.Domain.Policies.DynamicPricing.Positivity
import UrjaSetu.Domain.Policies.Settlement.Monotone
import UrjaSetu.Domain.Policies.LogicalEvents
import UrjaSetu.Domain.Interfaces.Forecasting
import UrjaSetu.Services.ForecastService
import UrjaSetu.Library.Intervals
import UrjaSetu.Services.ForecastService.Horizon
import UrjaSetu.Services.ForecastService.RunOutcome
import UrjaSetu.Domain.Policies.DynamicPricing.PriceLaws
import UrjaSetu.Services.ForecastService.SurplusWindow
import UrjaSetu.Domain.Policies.DynamicPricing.TariffBands
import UrjaSetu.Adapters.PowerGridModel.Agreement
import UrjaSetu.Adapters.PowerGridModel.Attribution
import UrjaSetu.Adapters.BaselineProvider
import UrjaSetu.Domain.Policies.UnmatchedReport
import UrjaSetu.Services.ForecastService.PastHistory
import UrjaSetu.Adapters.BaselineProvider.Loop
import UrjaSetu.Adapters.BaselineProvider.Points
import UrjaSetu.Services.ForecastService.BaselineForecast
import UrjaSetu.Library.CivilDates
import UrjaSetu.Library.FixedDigits
import UrjaSetu.Library.IsoFormat
import UrjaSetu.Library.PythonText
import UrjaSetu.Library.Strptime
import UrjaSetu.Library.Binary64Error
import UrjaSetu.Library.DecimalContext
import UrjaSetu.Adapters.CsvAdapter
import UrjaSetu.Adapters.CsvAdapter.Timestamps
import UrjaSetu.Adapters.CsvAdapter.Measurements
import UrjaSetu.Adapters.CsvAdapter.Streams
import UrjaSetu.Adapters.PowerGridModel.Identifiers
import UrjaSetu.Domain.Policies.HouseholdEnergy
import UrjaSetu.Services.GridValidationService.ProjectedNetwork
import UrjaSetu.Services.WorkspaceService.StoredBalance
import UrjaSetu.Services.WorkspaceService.GridDecision
import UrjaSetu.Library.RemoteCalls
import UrjaSetu.Adapters.Ledger
import UrjaSetu.Adapters.Ledger.Registry
import UrjaSetu.Adapters.Ledger.Evidence
import UrjaSetu.Services.WorkspaceWorker.Outbox
import UrjaSetu.Services.WorkspaceWorker.Recovery
import UrjaSetu.Services.WorkspaceService.Clearing
import UrjaSetu.Services.WorkspaceService.ClearingBook
import UrjaSetu.Services.WorkspaceService.StandingForecast
import UrjaSetu.Services.WorkspaceService.ClearingEffects
import UrjaSetu.Services.WorkspaceService.Acceptance
import UrjaSetu.Services.WorkspaceService.DeliveryMoves
import UrjaSetu.Services.WorkspaceService.MarketRun
import UrjaSetu.Services.WorkspaceService.MarketLedger
import UrjaSetu.Services.WorkspaceService.WithinSurplus
import UrjaSetu.Services.WorkspaceService.SettledTrades
import UrjaSetu.Services.WorkspaceService.AcceptedOnce
import UrjaSetu.Library.WorkFrames
import UrjaSetu.Adapters.SimulatorAdapter
import UrjaSetu.Api.Protect
import UrjaSetu.Api.Protect.Attempts
import UrjaSetu.Api.Protect.LegacyAccess
import UrjaSetu.Api.Ws
import UrjaSetu.Api.Ws.Delivery
import UrjaSetu.Api.Ws.Lossless
import UrjaSetu.Api.Ws.Order
import UrjaSetu.Scripts.ImportTelemetry
