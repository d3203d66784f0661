import UshBookNPay.Booking.Values
import UshBookNPay.Payment.Models

/-!
# Rows of the booking domain
-/

namespace Booking

/-- A booked service. `flatten_services` tags it with its session, and a component of a package is
tagged with the package. -/
structure ServiceEntry where
  serviceId : Option Uuid := none
  serviceData : Json := .obj []
  serviceArrangementId : Option Uuid := none
  serviceArrangementData : Json := .obj []
  basePrice : Fils := 0
  durationMinutes : ℤ := 0
  position : ℕ := 0
  sessionId : Option Uuid := none
  packageId : Option Uuid := none
  packageName : Json := .null
  packagePrice : Fils := 0
  componentPrice : Fils := 0
  deriving DecidableEq

/-- A stored session of a booking: one therapist, or two, for one window. -/
structure Session where
  sessionId : Uuid
  position : ℕ := 0
  therapistId : Option Uuid
  therapistData : Json := .obj []
  secondaryTherapistId : Option Uuid := none
  secondaryTherapistData : Option Json := none
  serviceArrangementId : Option Uuid := none
  serviceArrangementData : Json := .obj []
  services : List ServiceEntry := []
  addons : List Json := []
  extraMinutes : ℤ := 0
  priceForExtraMinutes : Fils := 0
  servicesDuration : ℤ := 0
  addonsDuration : ℤ := 0
  totalSessionDuration : ℤ := 0
  servicesPrice : Fils := 0
  addonsPrice : Fils := 0
  sessionPrice : Fils := 0
  appointmentStart : Instant
  appointmentEnd : Instant
  deriving DecidableEq

/-- A row of `temporary_holds`. -/
structure TemporaryHoldRow where
  id : Uuid
  bookingId : Uuid
  therapistId : Uuid
  serviceArrangementId : Uuid
  appointmentStart : Instant
  appointmentEnd : Instant
  expiresAt : Instant
  deriving DecidableEq

end Booking

/-- A row of `bookings`. -/
structure BookingRow where
  id : Uuid
  bookingNumber : Option String := none
  bookingType : String := "branch_service"
  invoiceNumber : Option String := none
  idempotencyKey : Option String := none
  customerId : Uuid
  branchId : Option Uuid := none
  serviceId : Option Uuid := none
  serviceData : Option Json := none
  services : List Booking.ServiceEntry := []
  sessions : List Booking.Session := []
  serviceArrangementId : Option Uuid := none
  serviceArrangementData : Option Json := none
  therapistId : Uuid
  therapistData : Option Json := none
  secondaryTherapistId : Option Uuid := none
  secondaryTherapistData : Option Json := none
  addons : List Json := []
  appointmentDate : Instant := 0
  appointmentStart : Instant
  appointmentEnd : Instant
  durationMinutes : ℤ := 0
  extraMinutes : ℤ := 0
  totalDuration : Option ℤ := none
  basePrice : Option Fils := none
  addonsDuration : Option ℤ := none
  arrangementPrice : Fils := 0
  priceForExtraMinutes : Fils := 0
  addonPrice : Fils := 0
  discount : Fils := 0
  totalAmount : Fils
  currency : String := "KWD"
  status : Booking.BookingStatus := .requested
  paymentStatus : Booking.PaymentStatus := .notInitiated
  internalNotes : Option String := none
  paymentId : Option PaymentRef := none
  paymentProvider : Option String := none
  paymentGateway : Option String := none
  paymentThrough : Option String := none
  paymentMethod : Option String := none
  paymentProviderGroup : Option String := none
  paymentSource : Option String := none
  paymentLinkId : Option Uuid := none
  paymentUrl : Option String := none
  paymentType : String := "service"
  loyaltyData : Option Json := none
  rewardId : Option Uuid := none
  paymentData : Option Json := none
  deriving DecidableEq

instance : Table.Keyed BookingRow := ⟨BookingRow.id⟩

def BookingRow.setAttribution (b : BookingRow) (a : PaymentAttribution.Attribution) : BookingRow :=
  { b with
    paymentThrough := a.paymentThrough, paymentProvider := a.paymentProvider,
    paymentMethod := a.paymentMethod, paymentGateway := a.paymentGateway }

/-- The attribution the mapper event of an insert or update of the booking computes. -/
def BookingRow.attribution (b : BookingRow) : PaymentAttribution.Attribution :=
  PaymentAttribution.applyAttribution
    { paymentThrough := b.paymentThrough, paymentProvider := b.paymentProvider,
      paymentMethod := b.paymentMethod, paymentGateway := b.paymentGateway }
    b.paymentData
    (PaymentAttribution.isPaid [some b.paymentStatus.value, some b.status.value])

/-- A booking as it is written. -/
def BookingRow.beforeWrite (b : BookingRow) : BookingRow := b.setAttribution b.attribution

def BookingRow.setPaymentStatus (b : BookingRow) (s : Booking.PaymentStatus) : BookingRow :=
  { b with paymentStatus := s }

/-- A row of `booking_status_history`. -/
structure BookingStatusHistoryRow where
  bookingId : Uuid
  oldStatus : Option Booking.BookingStatus
  newStatus : Booking.BookingStatus
  source : String
  reason : String
  deriving DecidableEq
