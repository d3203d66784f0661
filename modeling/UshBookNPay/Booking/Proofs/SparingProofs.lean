import UshBookNPay.Booking.Cancellation
import UshBookNPay.Booking.CreateBooking
import UshBookNPay.Lib.LockedParts
import UshBookNPay.PaymentLinks.Settlement

/-!
# Programs that leave the bookings alone

Which statements write neither a booking nor a history of bookings, and which of them write no payment
link either.
-/

open Transactions
open Transactions.Prog (query update raiseIf ask emit forSome savepoint)

/-- The tables of the bookings and of their histories. -/
def Db.bookingTables (d : Db) : List BookingRow × List BookingStatusHistoryRow :=
  (d.bookings, d.bookingStatusHistory)

/-- The tables of the bookings and of the payment links. -/
def Db.audited (d : Db) :
    (List BookingRow × List BookingStatusHistoryRow) × List PaymentLinkRow :=
  (d.bookingTables, d.paymentLinks)

namespace Transactions

variable {α P : Type} {g : Db → P}

theorem Spares.attempt {caught : Error → Bool} {p : Tx α} (hp : Spares g p) :
    Spares g (attempt caught p) :=
  (hp.map Except.ok).tryCatch fun _ => Spares.ite (spares_pure _) (spares_throw _)

/-- What `attempt` makes of a result: it is returned, or raised again. -/
def Attempted (r₀ : Except Error α) (r : Except Error (Except Error α)) : Prop :=
  r = .ok r₀ ∨ ∃ e, r₀ = .error e ∧ r = .error e

theorem Holding.attempt {ι V : Type} {ps : Parts Db LockKey ι V} {i : ι} {caught : Error → Bool}
    {Q : List Emission → Except Error α → V → Prop} {p : Tx α} {es : List Emission} {v : V}
    (hp : Holding ps i Q p es v) :
    Holding ps i (fun es' r v' => ∃ r₀, Q es' r₀ v' ∧ Attempted r₀ r) (attempt caught p) es v := by
  have hmap : Holding ps i (fun es' r v' => ∃ r₀, Q es' r₀ v' ∧ Attempted r₀ r)
      (Except.ok (ε := Error) <$> p) es v :=
    hp.bind (fun a es' v' hQ => ⟨.ok a, hQ, .inl rfl⟩)
      fun e es' v' hQ => ⟨.error e, hQ, .inr ⟨e, rfl, rfl⟩⟩
  refine hmap.tryCatch (fun _ _ _ h => h) fun e es' v' h => ?_
  obtain ⟨r₀, hQ, hr | ⟨e', rfl, hr⟩⟩ := h
  · cases hr
  cases hr
  split_ifs
  · exact ⟨_, hQ, .inl rfl⟩
  · exact ⟨_, hQ, .inr ⟨e, rfl, rfl⟩⟩

theorem Locking.attempt {ι V : Type} {ps : Parts Db LockKey ι V} {caught : Error → Bool}
    {Q : List Emission → Except Error α → Prop}
    {R : ι → V → List Emission → Except Error α → V → Prop} {p : Tx α} {es : List Emission}
    (hp : Locking ps Q R p es) :
    Locking ps (fun es' r => ∃ r₀, Q es' r₀ ∧ Attempted r₀ r)
      (fun i v es' r v' => ∃ r₀, R i v es' r₀ v' ∧ Attempted r₀ r) (attempt caught p) es := by
  have hmap : Locking ps (fun es' r => ∃ r₀, Q es' r₀ ∧ Attempted r₀ r)
      (fun i v es' r v' => ∃ r₀, R i v es' r₀ v' ∧ Attempted r₀ r)
      (Except.ok (ε := Error) <$> p) es :=
    hp.bind (fun a es' hQ => ⟨.ok a, hQ, .inl rfl⟩)
      (fun e es' hQ => ⟨.error e, hQ, .inr ⟨e, rfl, rfl⟩⟩)
      (fun i v a es' v' hR => ⟨.ok a, hR, .inl rfl⟩)
      fun i v e es' v' hR => ⟨.error e, hR, .inr ⟨e, rfl, rfl⟩⟩
  refine hmap.tryCatch (fun _ _ h => h) ?_ (fun _ _ _ _ _ h => h) ?_
  · rintro e es' ⟨r₀, hQ, hr | ⟨e', rfl, hr⟩⟩
    · cases hr
    cases hr
    split_ifs
    · exact ⟨_, hQ, .inl rfl⟩
    · exact ⟨_, hQ, .inr ⟨e, rfl, rfl⟩⟩
  · rintro i v e es' v' ⟨r₀, hR, hr | ⟨e', rfl, hr⟩⟩
    · cases hr
    cases hr
    split_ifs
    · exact ⟨_, hR, .inl rfl⟩
    · exact ⟨_, hR, .inr ⟨e, rfl, rfl⟩⟩

theorem spares_scalarOneOrNone {R : Type} (rows : List R) : Spares g (scalarOneOrNone rows) := by
  rcases rows with _ | ⟨r, _ | ⟨r', rows⟩⟩
  · trivial
  · trivial
  · trivial

theorem spares_emit (e : Emission) : Spares g (emit e : Tx Unit) := spares_call _ _

theorem spares_flushPayment (o : Orm PaymentRow) : Spares Db.audited (flushPayment o) := by
  refine Spares.bind ?_ fun _ => spares_pure _
  exact spares_checkedUpdate fun _ => rfl

theorem spares_flushLink (o : Orm PaymentLinkRow) : Spares Db.bookingTables (flushLink o) := by
  refine Spares.bind ?_ fun _ => spares_pure _
  exact spares_update fun _ => rfl

theorem spares_flushVoucher (o : Orm GiftVoucherRow) : Spares Db.audited (flushVoucher o) := by
  refine Spares.bind ?_ fun _ => spares_pure _
  exact spares_update fun _ => rfl

theorem spares_addPaymentHistory (row : PaymentStatusHistoryRow) :
    Spares Db.audited (addPaymentHistory row) :=
  spares_update fun _ => rfl

theorem spares_generatePaymentNumber : Spares g generatePaymentNumber :=
  (spares_ask _).bind fun _ => (spares_queryForUpdate _ _).bind fun _ => spares_query _

theorem spares_insertPayment (p : PaymentRow) : Spares Db.audited (insertPayment p) := by
  refine Spares.bind ?_ fun _ => spares_pure _
  exact spares_checkedUpdate fun _ => rfl

end Transactions

namespace Booking

variable {P : Type} {g : Db → P}

/-! ## Checks -/

theorem spares_checkTherapistOverlap (t : Uuid) (start finish : Instant) (excludeId : Option Uuid) :
    Spares g (checkTherapistOverlap t start finish excludeId) :=
  spares_query _

theorem spares_checkFree (bookingId : Uuid) (start finish : Instant) (message : String) (t : Uuid) :
    Spares g (checkFree bookingId start finish message t) :=
  (spares_checkTherapistOverlap _ _ _ _).bind fun _ => spares_raiseIf _ _

theorem spares_checkSlot (start finish : Instant) (t : Uuid) : Spares g (checkSlot start finish t) :=
  (spares_checkTherapistOverlap _ _ _ _).bind fun _ => spares_raiseIf _ _

theorem spares_checkSessionSlots (sessions : List Session) : Spares g (checkSessionSlots sessions) := by
  induction sessions with
  | nil => exact spares_pure ()
  | cons s rest ih =>
    refine (spares_forSome fun t => spares_checkSlot _ _ t).bind fun _ => ?_
    exact (spares_forSome fun t => spares_checkSlot _ _ t).bind fun _ => ih

theorem spares_checkSessionTherapist (bookingId : Uuid) (s : Session) (t : Uuid) :
    Spares g (checkSessionTherapist bookingId s t) := by
  refine (spares_checkTherapistOverlap _ _ _ _).bind fun busy => ?_
  refine Spares.ite ?_ (spares_pure ())
  exact (spares_query _).bind fun _ => spares_throw _

theorem spares_checkSessionsFree (bookingId : Uuid) (sessions : List Session) :
    Spares g (checkSessionsFree bookingId sessions) := by
  induction sessions with
  | nil => exact spares_pure ()
  | cons s rest ih =>
    refine (spares_forSome fun t => spares_checkSessionTherapist _ s t).bind fun _ => ?_
    exact (spares_forSome fun t => spares_checkSessionTherapist _ s t).bind fun _ => ih

theorem spares_checkReplacement (args : UpdateArgs) (row : BookingRow) :
    Spares g (checkReplacement args row) := by
  refine spares_forSome fun sessions => ?_
  refine (spares_raiseIf _ _).bind fun _ => ?_
  split_ifs
  · exact (spares_pure ()).bind fun _ => spares_raiseIf _ _
  · exact (spares_checkSessionsFree _ _).bind fun _ => spares_raiseIf _ _

theorem spares_checkServices (args : UpdateArgs) : Spares g (checkServices args) :=
  spares_forSome fun _ => spares_raiseIf _ _

theorem spares_checkTherapists (args : UpdateArgs) (parked : Bool) (b : BookingRow) :
    Spares g (checkTherapists args parked b) := by
  refine (spares_raiseIf _ _).bind fun _ => ?_
  refine Spares.ite ?_ (spares_pure ())
  refine (spares_checkFree _ _ _ _ _).bind fun _ => ?_
  exact spares_forSome fun t => spares_checkFree _ _ _ _ t

theorem spares_checkParking (status old : BookingStatus) (b : BookingRow) :
    Spares g (checkParking status old b) :=
  (spares_raiseIf _ _).bind fun _ => spares_raiseIf _ _

theorem spares_checkNewTherapist (bookingId : Uuid) (target : Session) (t : Uuid) :
    Spares g (checkNewTherapist bookingId target t) :=
  Spares.ite (spares_pure ()) (spares_checkFree _ _ _ _ _)

theorem spares_dispatchStatusEvent (b : BookingRow) (status : BookingStatus) :
    Spares g (dispatchStatusEvent b status) :=
  Spares.ite (spares_emit _) (Spares.ite (spares_emit _) (spares_pure ()))

theorem spares_generateBookingNumber (start : Instant) : Spares g (generateBookingNumber start) :=
  (spares_queryForUpdate _ _).bind fun _ => spares_query _

/-! ## Holds -/

theorem spares_deleteHold (bookingId : Uuid) : Spares Db.audited (deleteHold bookingId) :=
  spares_update fun _ => rfl

theorem spares_moveHold (bookingId : Uuid) (target : Session) (t : Uuid) :
    Spares Db.audited (moveHold bookingId target t) :=
  spares_update fun _ => rfl

theorem spares_holdSlot (bookingId therapistId arrangementId : Uuid) (start finish : Instant) :
    Spares Db.audited (holdSlot bookingId therapistId arrangementId start finish) :=
  (spares_ask _).bind fun _ => (spares_ask _).bind fun _ => spares_checkedUpdate fun _ => rfl

theorem spares_holdSessions (bookingId : Uuid) (l : List Session) :
    Spares Db.audited (holdSessions bookingId l) := by
  induction l with
  | nil => exact spares_pure ()
  | cons s rest ih => exact (spares_forSome fun _ => spares_holdSlot _ _ _ _ _).bind fun _ => ih

theorem spares_holdBooking (b : BookingRow) : Spares Db.audited (holdBooking b) := by
  refine Spares.ite (spares_pure ()) (Spares.ite (spares_holdSessions _ _) ?_)
  exact spares_forSome fun _ => spares_holdSlot _ _ _ _ _

/-! ## Invoices -/

theorem spares_setPaymentInvoices (bookingId : Uuid) (invoiceNumber : String) :
    Spares Db.audited (setPaymentInvoices bookingId invoiceNumber) :=
  spares_update fun _ => rfl

/-! ## The refund of a cancelled booking -/

theorem spares_findPaymentForBooking (b : BookingRow) :
    Spares g (Payment.findPaymentForBooking b) := by
  refine (spares_query _).bind fun payment => ?_
  cases payment with
  | some p => exact spares_pure _
  | none =>
    cases b.paymentId with
    | none => exact spares_pure _
    | some ref => exact spares_query _

theorem spares_checkCap (p : PaymentRow) (excludeId : Option Uuid) (net : Fils)
    (message : Fils → String) : Spares g (Payment.checkCap p excludeId net message) :=
  (spares_query _).bind fun _ => spares_raiseIf _ _

theorem spares_generateRefundNumber : Spares g Payment.generateRefundNumber :=
  (spares_ask _).bind fun _ => (spares_queryForUpdate _ _).bind fun _ => spares_query _

theorem spares_insertRefund (r : RefundRow) : Spares Db.audited (Payment.insertRefund r) := by
  refine Spares.bind ?_ fun _ => spares_pure _
  exact spares_checkedUpdate fun _ => rfl

theorem spares_audit (p : PaymentRow) (reason : String) (r : RefundRow) (source : String)
    (actorId providerReference : Option String) (old : Option Payment.PaymentStatus) :
    Spares Db.audited (Payment.audit p reason r source actorId providerReference old) :=
  spares_update fun _ => rfl

theorem spares_request (b : BookingRow) (payment : Option PaymentRow) (amount fee : ℚ)
    (refundType refundMethod : String) (reason notes key actorId : Option String) :
    Spares Db.audited (Payment.request b payment amount fee refundType refundMethod reason notes key
      actorId) := by
  refine (spares_query _).bind fun existing => ?_
  cases existing with
  | some row => exact spares_pure _
  | none =>
    refine Spares.bind ?_ fun _ => spares_pure _
    refine (spares_raiseIf _ _).bind fun _ => (spares_raiseIf _ _).bind fun _ => ?_
    refine (spares_forSome fun _ => spares_checkCap _ _ _ _).bind fun _ => ?_
    refine spares_generateRefundNumber.bind fun _ => (spares_ask _).bind fun _ => ?_
    refine (spares_ask _).bind fun _ => (spares_insertRefund _).bind fun _ => ?_
    exact (spares_forSome fun _ => spares_audit _ _ _ _ _ _ _).bind fun _ => spares_pure _

theorem spares_ensureCancellationRefund (args : CancelArgs) (b : BookingRow) :
    Spares Db.audited (ensureCancellationRefund args b) :=
  (spares_findPaymentForBooking b).bind fun _ =>
    (spares_request _ _ _ _ _ _ _ _ _ _).bind fun _ => spares_pure _

/-! ## The payments of a cancelled booking -/

theorem spares_findNamed (found : List PaymentRow) (refs : List PaymentRef) :
    Spares g (findNamed found refs) := by
  induction refs generalizing found with
  | nil => exact spares_pure _
  | cons ref rest ih => exact (spares_query _).bind fun _ => ih _

theorem spares_syncPayments (b : BookingRow) (target : Payment.PaymentStatus) (args : CancelArgs)
    (payments : List PaymentRow) : Spares Db.audited (syncPayments b target args payments) := by
  induction payments with
  | nil => exact spares_pure ()
  | cons p rest ih =>
    refine (spares_flushPayment _).discard.bind fun _ => ?_
    split_ifs
    · exact (spares_addPaymentHistory _).bind fun _ => ih
    · exact (spares_pure ()).bind fun _ => ih

theorem spares_syncBookingPaymentStatus (b : BookingRow) (target : Payment.PaymentStatus)
    (args : CancelArgs) : Spares Db.audited (syncBookingPaymentStatus b target args) := by
  refine (spares_query _).bind fun payments => ?_
  split_ifs
  · exact (spares_findNamed _ _).bind fun _ => spares_syncPayments _ _ _ _
  · exact (spares_pure _).bind fun _ => spares_syncPayments _ _ _ _

end Booking

namespace PaymentLinks

variable {P : Type} {g : Db → P}

/-! ## Links -/

theorem spares_cancelAtGateway (s : PaymentLinkService) (invoice : Option String) :
    Spares g (cancelAtGateway s invoice) :=
  Spares.ite (spares_call _ _) (spares_pure ())

theorem spares_cancelAndDelete (s : PaymentLinkService) (links : List PaymentLinkRow) :
    Spares Db.bookingTables (cancelAndDelete s links) := by
  induction links with
  | nil => exact spares_pure ()
  | cons link rest ih =>
    refine (spares_cancelAtGateway _ _).bind fun _ => ?_
    exact Spares.bind (spares_update fun _ => rfl) fun _ => ih

theorem spares_getGateway (settings : LinkSettings) (name : String) :
    Spares g (getGateway settings name) :=
  Spares.ite (spares_pure _) (spares_throw _)

/-! ## Settlement -/

theorem spares_newestPayment (ofTarget : PaymentRow → Bool) : Spares g (newestPayment ofTarget) :=
  spares_queryForUpdate _ _

theorem spares_settlePayment (link : PaymentLinkRow) (ofTarget : PaymentRow → Bool)
    (row : Uuid → String → PaymentRow) (columns : PaymentRow → PaymentRow) :
    Spares Db.audited (settlePayment link ofTarget row columns) := by
  refine (spares_newestPayment _).bind fun payment => ?_
  cases payment with
  | none =>
    refine spares_generatePaymentNumber.bind fun _ => (spares_ask _).bind fun _ => ?_
    refine (spares_insertPayment _).bind fun _ => ?_
    exact (spares_addPaymentHistory _).bind fun _ => spares_pure _
  | some p => exact (spares_flushPayment _).bind fun _ => spares_pure _

theorem spares_payVoucher (link : PaymentLinkRow) (paidAt : Instant) :
    Spares Db.audited (payVoucher link paidAt) := by
  refine (spares_queryForUpdate _ _).bind fun row => ?_
  cases row with
  | none => exact spares_throw _
  | some v => exact (spares_settlePayment _ _ _ _).bind fun _ => spares_pure _

theorem spares_updateStatus (known : Option (Orm GiftVoucherRow)) (voucherId : Uuid)
    (status : Voucher.GiftVoucherStatus) (args : Voucher.StatusArgs) :
    Spares Db.audited (Voucher.updateStatus known voucherId status args) := by
  refine (spares_query _).bind fun row => ?_
  cases row with
  | none => exact spares_throw _
  | some row =>
    refine (spares_raiseIf _ _).bind fun _ => ?_
    split_ifs
    · refine (spares_ask _).bind fun _ => (spares_ask _).bind fun _ => ?_
      refine (spares_flushVoucher _).bind fun _ => ?_
      exact Spares.bind (spares_call _ _) fun _ => spares_pure _
    · refine (spares_pure _).bind fun _ => (spares_ask _).bind fun _ => ?_
      refine (spares_flushVoucher _).bind fun _ => ?_
      exact Spares.bind (spares_call _ _) fun _ => spares_pure _

theorem spares_activateVoucher (link : PaymentLinkRow) (v : GiftVoucherRow) (p : PaymentRow)
    (paidAt : Instant) : Spares Db.audited (activateVoucher link v p paidAt) :=
  (spares_updateStatus _ _ _ _).discard

theorem spares_autoRefund (link : PaymentLinkRow) (state : GatewayPaymentState) :
    Spares g (autoRefund link state) := by
  refine Spares.ite (spares_pure _) (Spares.ite (spares_pure _) ?_)
  refine (spares_call _ _).bind fun res => ?_
  cases res with
  | ok _ => exact spares_pure _
  | error _ => exact spares_pure _

theorem spares_refundNotActivatable (link : Orm PaymentLinkRow) (state : GatewayPaymentState)
    (exc : Error) : Spares Db.bookingTables (refundNotActivatable link state exc) := by
  refine (spares_autoRefund _ _).bind fun _ => ?_
  exact (spares_flushLink _).bind fun _ => spares_pure _

theorem spares_getLockedLink (linkId : Uuid) : Spares g (getLockedLink linkId) :=
  spares_queryForUpdate _ _

end PaymentLinks
