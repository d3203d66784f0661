import UshBookNPay.Lib.Runs
import UshBookNPay.Lib.FixedPoint
import UshBookNPay.Lib.Table
import UshBookNPay.Lib.Transactions
import UshBookNPay.Common.PaymentAttribution
import UshBookNPay.Payment.RefundLifecycle
import UshBookNPay.Payment.Proofs.LifecycleProofs
import UshBookNPay.Payment.Proofs.TransitionProofs
import UshBookNPay.Payment.Proofs.RefundCapProofs
import UshBookNPay.Lib.Sessions
import UshBookNPay.Loyalty.Repository
import UshBookNPay.Payment.RefundService
import UshBookNPay.Payment.Proofs.ServiceProofs
import UshBookNPay.Payment.Proofs.ProcessRefundProofs
import UshBookNPay.Payment.Proofs.SentBackInvariant
import UshBookNPay.Payment.Proofs.SentBackProofs
import UshBookNPay.Voucher.VoucherService
import UshBookNPay.PaymentLinks.Settlement
import UshBookNPay.PaymentLinks.Proofs.SettlementProofs
import UshBookNPay.Voucher.Proofs.StatusProofs
import UshBookNPay.PaymentLinks.Proofs.ApplyProofs
import UshBookNPay.PaymentLinks.Proofs.SettlementRunProofs
import UshBookNPay.PaymentLinks.Proofs.HeldProofs
import UshBookNPay.PaymentLinks.WebhookService
import UshBookNPay.PaymentLinks.Proofs.RoutingProofs
import UshBookNPay.PaymentLinks.Proofs.NotActivatableProofs
import UshBookNPay.Payment.Proofs.StepProofs
import UshBookNPay.Payment.RefundSummaries
import UshBookNPay.Payment.Proofs.SummaryProofs
import UshBookNPay.Payment.Proofs.StatusSummaryProofs
import UshBookNPay.PaymentLinks.Proofs.LawfulProofs
import UshBookNPay.PaymentLinks.Proofs.RefundEventProofs
import UshBookNPay.PaymentLinks.LinkService
import UshBookNPay.PaymentLinks.Proofs.LinkableProofs
import UshBookNPay.PaymentLinks.LinkRuns
import UshBookNPay.PaymentLinks.Proofs.LinkRunProofs
import UshBookNPay.Payment.GatewayParser
import UshBookNPay.Booking.BookingService
import UshBookNPay.Payment.GatewayWebhooks
import UshBookNPay.Payment.WebhookRuns
import UshBookNPay.Payment.Proofs.WebhookProofs
import UshBookNPay.Payment.Proofs.PaidStatusProofs
import UshBookNPay.Loyalty.LoyaltyService
import UshBookNPay.Loyalty.Ledger
import UshBookNPay.Loyalty.Proofs.EffectProofs
import UshBookNPay.Loyalty.Proofs.LedgerProofs
import UshBookNPay.Loyalty.Expiry
import UshBookNPay.Loyalty.Proofs.ExpiryProofs
import UshBookNPay.Loyalty.PointsRuns
import UshBookNPay.Loyalty.Proofs.PointsRunProofs
import UshBookNPay.Voucher.ServicesSnapshot
import UshBookNPay.Voucher.VoucherUpdate
import UshBookNPay.Voucher.Proofs.RedemptionProofs
import UshBookNPay.Booking.ServicesSnapshot
import UshBookNPay.Booking.Sessions
import UshBookNPay.Booking.SessionPlanner
import UshBookNPay.Booking.Repository
import UshBookNPay.Booking.UpdateBooking
import UshBookNPay.Booking.CreateBooking
import UshBookNPay.Booking.SessionRuns
import UshBookNPay.Workforce.CompletedSessions
import UshBookNPay.Booking.Proofs.SessionProofs
import UshBookNPay.Booking.Proofs.UpdateProofs
import UshBookNPay.Booking.Proofs.WriterProofs
import UshBookNPay.Booking.Proofs.ChangeProofs
import UshBookNPay.Booking.Proofs.OverlapProofs
import UshBookNPay.Booking.Proofs.SpanProofs
import UshBookNPay.Workforce.Proofs.ReportProofs
import UshBookNPay.Booking.Proofs.LawProofs
import UshBookNPay.Booking.Proofs.MirrorProofs
import UshBookNPay.Payment.PaymentsApi
import UshBookNPay.PaymentLinks.ReceiptRuns
import UshBookNPay.PaymentLinks.Proofs.ReceiptProofs
import UshBookNPay.Voucher.RedemptionRuns
import UshBookNPay.Voucher.Proofs.InterleavingProofs
import UshBookNPay.Voucher.ScheduledDelivery
import UshBookNPay.PaymentLinks.DeemaRefundRuns
import UshBookNPay.PaymentLinks.DeliveryRuns
import UshBookNPay.PaymentLinks.Proofs.DeliveryProofs
import UshBookNPay.Payment.Proofs.AuditProofs
import UshBookNPay.Payment.BookingStatusRuns
import UshBookNPay.Payment.Proofs.BookingStatusProofs
import UshBookNPay.Payment.Proofs.ChargeProofs
import UshBookNPay.Voucher.Proofs.ValidityProofs
import UshBookNPay.Core.IdempotencyRuns
import UshBookNPay.Core.Proofs.IdempotencyProofs
import UshBookNPay.Core.Proofs.MiddlewareProofs
import UshBookNPay.Booking.CacheOutbox
import UshBookNPay.Booking.CacheOutboxRuns
import UshBookNPay.Booking.Proofs.CacheOutboxProofs
import UshBookNPay.Booking.Proofs.CacheOrderProofs
import UshBookNPay.Availability.Engine
import UshBookNPay.Availability.Proofs.IntervalProofs
import UshBookNPay.Availability.Proofs.EngineProofs
import UshBookNPay.Core.Proofs.SecurityProofs
import UshBookNPay.Core.RateLimit
import UshBookNPay.Core.Proofs.RateLimitProofs
import UshBookNPay.Voucher.DeliveryApi
import UshBookNPay.Voucher.Proofs.DeliveryApiProofs
import UshBookNPay.Common.Proofs.UuidProofs
import UshBookNPay.Voucher.MirrorRuns
import UshBookNPay.Voucher.Proofs.MirrorProofs
import UshBookNPay.Lib.RowLocks
import UshBookNPay.Lib.RelyGuarantee
import UshBookNPay.Lib.Noninterference
import UshBookNPay.Voucher.ActivationRuns
import UshBookNPay.Voucher.Proofs.ActivationProofs
import UshBookNPay.Booking.ServiceResolution
import UshBookNPay.Booking.SessionRequests
import UshBookNPay.Booking.Proofs.ResolutionProofs
import UshBookNPay.Booking.Proofs.PriceProofs
import UshBookNPay.Booking.Proofs.ServerPriceProofs
import UshBookNPay.Shop.Models
import UshBookNPay.Shop.ShopOrderService
import UshBookNPay.Shop.OrderRuns
import UshBookNPay.Shop.Proofs.OrderProofs
import UshBookNPay.Shop.Proofs.OrderRunProofs
import UshBookNPay.Shop.Router
import UshBookNPay.Shop.OrderPrivacy
import UshBookNPay.Shop.Proofs.PrivacyRunProofs
import UshBookNPay.Booking.SessionDicts
import UshBookNPay.Booking.Proofs.SessionDictProofs
import UshBookNPay.Booking.Proofs.MoneyProofs
import UshBookNPay.Booking.Proofs.TotalsProofs
import UshBookNPay.Booking.Proofs.PackageProofs
import UshBookNPay.Booking.Proofs.SessionPlanProofs
import UshBookNPay.Booking.Proofs.TherapistChangeProofs
import UshBookNPay.Booking.Proofs.HoldProofs
import UshBookNPay.PaymentLinks.MyFatoorahWebhook
import UshBookNPay.PaymentLinks.Proofs.EventClassProofs
import UshBookNPay.PaymentLinks.DeemaWebhook
import UshBookNPay.PaymentLinks.Proofs.SignatureProofs
import UshBookNPay.Common.Proofs.AttributionProofs
import UshBookNPay.Common.PaymentAttributionListeners
import UshBookNPay.Common.RowAttribution
import UshBookNPay.Payment.GatewayReports
import UshBookNPay.Payment.Proofs.GatewayReportProofs
import UshBookNPay.Core.DocumentNumbers
import UshBookNPay.Core.Proofs.NumberProofs
import UshBookNPay.Core.Proofs.GeneratorProofs
import UshBookNPay.Lib.Numerals
import UshBookNPay.PaymentLinks.Proofs.DeemaRefundProofs
import UshBookNPay.PaymentLinks.Proofs.DeemaRefundRunProofs
import UshBookNPay.Availability.AvailabilityApi
import UshBookNPay.Availability.Proofs.ListingProofs
import UshBookNPay.Booking.Proofs.ConcurrentCreateProofs
import UshBookNPay.Booking.Proofs.ConcurrentCreateProofs
import UshBookNPay.Lib.LockedParts
import UshBookNPay.Lib.Savepoints
import UshBookNPay.Booking.Cancellation
import UshBookNPay.Booking.Interleavings
import UshBookNPay.Booking.Proofs.SparingProofs
import UshBookNPay.Booking.Proofs.StatusRunProofs
import UshBookNPay.PaymentLinks.Callbacks
import UshBookNPay.PaymentLinks.SettlementAuthority
import UshBookNPay.PaymentLinks.Proofs.AuthorityProofs
import UshBookNPay.PaymentLinks.Proofs.EndpointProofs
import UshBookNPay.Booking.Proofs.CalendarProofs
import UshBookNPay.PaymentLinks.LinkRefunds
import UshBookNPay.PaymentLinks.Proofs.LinkRefundProofs
