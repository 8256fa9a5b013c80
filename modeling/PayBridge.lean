import PayBridge.Await.Program
import PayBridge.Await.Pool
import PayBridge.Await.Serial
import PayBridge.Await.History
import PayBridge.Store.Table
import PayBridge.Money
import PayBridge.Json
import PayBridge.Schema
import PayBridge.Transactions
import PayBridge.Effects
import PayBridge.OutboundWebhooks
import PayBridge.Orchestrator
import PayBridge.Routing
import PayBridge.Refunds
import PayBridge.Webhooks
import PayBridge.Reconciliation
import PayBridge.System
import PayBridge.StatusOrder
import PayBridge.WebhookLedger
import PayBridge.NoticeOnce
import PayBridge.LostNotice
import PayBridge.WebhookTarget
import PayBridge.Checkout
import PayBridge.RefundRace
import PayBridge.Await.Layered
import PayBridge.Idempotency
import PayBridge.KeyService
import PayBridge.Reservation
import PayBridge.Api
import PayBridge.KeyScope
import PayBridge.RefundRetry
import PayBridge.Await.Played
import PayBridge.GatewayTraffic
import PayBridge.GatewayFrame
import PayBridge.ReconcileRun
import PayBridge.OutcomeAgreement
import PayBridge.DeliveredReplay
import PayBridge.MemoTable
import PayBridge.Merchants
import PayBridge.ApiKeys
import PayBridge.MerchantFrame
import PayBridge.Analytics
import PayBridge.TenantView
import PayBridge.Noninterference
import PayBridge.Await.Twin
import PayBridge.TenantTrigger
import PayBridge.Codec.Hex
import PayBridge.Codec.JsonText
import PayBridge.WebhookDelivery
import PayBridge.WebhookSignature
import PayBridge.RefundRun
import PayBridge.Await.Series
import PayBridge.RefundSeries
import PayBridge.RefundReserve
import PayBridge.RefundAmounts
import PayBridge.RefundReport
import PayBridge.CheckoutRecord
import PayBridge.Await.Split
import PayBridge.CircuitBreaker
import PayBridge.ReconcileLedger
import PayBridge.WebhookEndpoint
import PayBridge.BreakerIsolation
import PayBridge.FailFast
import PayBridge.Overview
import PayBridge.OverviewRates
import PayBridge.Arrange.Pages
import PayBridge.MerchantListing
import PayBridge.OverviewVolumes
import PayBridge.Await.Placed
import PayBridge.ReconcileAlone
import PayBridge.ReconcileOrder
import PayBridge.ReconcileAgain
import PayBridge.ReconcileSync
import PayBridge.Codec.Decimal
import PayBridge.NumberText
import PayBridge.Codec.Exposition
import PayBridge.Metrics
import PayBridge.MetricsSamples
import PayBridge.MetricsOverview
import PayBridge.MetricsText
import PayBridge.App
import PayBridge.Journal
import PayBridge.StatusOrigin
import PayBridge.RefundOrigin
import PayBridge.CheckoutOrigin
import PayBridge.NoticeOrigin
import PayBridge.KeyRelease
import PayBridge.ReplayOrigin
import PayBridge.RefundReplies
import PayBridge.OutboundWorker
import PayBridge.DeliveredBody
import PayBridge.Server
import PayBridge.Authority
import PayBridge.Revocation
import PayBridge.Numeric.Binary64
