import UshBookNPay.Core.Rules
import UshBookNPay.PaymentLinks.SettlementRuns
import UshBookNPay.Voucher.Proofs.StatusProofs

/-!
# What a settlement does

One specification for each function of the settlement: which payment of the target is created or
changed, which rows stay, and which events are queued.
-/

open Transactions (Prog Ensures)
open Transactions

namespace PaymentLinks

/-! ## The payment of the target -/

/-- A save has brought the provider to a canonical family. -/
def CanonicalProvider (p : PaymentRow) : Prop :=
  ∀ provider, p.paymentProvider = some provider → provider ∈ PaymentAttribution.canonicalProviders

/-- The payment a settled link creates for its target. -/
structure CreatedFor (link : PaymentLinkRow) (r : PaymentRow) : Prop where
  total : r.totalAmount = link.amount
  refunded : r.amountRefunded = 0
  status : r.status = some .success
  booking : r.bookingId = if link.targetType = .booking then some link.targetId else none
  voucher : r.voucherId = if link.targetType = .giftVoucher then some link.targetId else none
  link : r.paymentLinkId = some link.id
  provider : CanonicalProvider r

/-- The payment `r'` a settled link makes of the payment `r` of its target. -/
structure ChangedTo (link : PaymentLinkRow) (r r' : PaymentRow) : Prop where
  id : r'.id = r.id
  total : r'.totalAmount = r.totalAmount
  refunded : r'.amountRefunded = r.amountRefunded
  status : r'.status = some .success
  booking : r'.bookingId = r.bookingId
  voucher : r'.voucherId = r.voucherId
  link : r'.paymentLinkId = some link.id
  provider : CanonicalProvider r'

/-- The payments after a settlement of the link, and the one it settled: a payment is created where
the target has none, else the newest is changed. -/
inductive PaymentsStep (link : PaymentLinkRow) (d : Db) : List PaymentRow → PaymentRow → Prop
  | created (r : PaymentRow) : paymentsOf link.targetType link.targetId d = [] →
      Table.get d.payments r.id = none → CreatedFor link r →
      PaymentsStep link d (d.payments ++ [r]) r
  | changed (p : PaymentRow) (f : PaymentRow → PaymentRow) :
      (paymentsOf link.targetType link.targetId d).getLast? = some p → (∀ r, ChangedTo link r (f r)) →
      PaymentsStep link d (Table.modify d.payments p.id f) (f p)

/-- The tables a settlement of the link leaves alone, and its payments. -/
structure SettleFrame (link : PaymentLinkRow) (d d' : Db) : Prop where
  links : d'.paymentLinks = d.paymentLinks
  webhookEvents : d'.paymentWebhookEvents = d.paymentWebhookEvents
  payments : d'.payments = d.payments ∨ ∃ r, PaymentsStep link d d'.payments r

theorem SettleFrame.refl (link : PaymentLinkRow) (d : Db) : SettleFrame link d d :=
  ⟨rfl, rfl, .inl rfl⟩

theorem canonicalProvider_setAttribution (p q : PaymentRow) :
    CanonicalProvider (p.setAttribution q.attribution) := by
  intro provider h
  rw [PaymentRow.setAttribution_paymentProvider] at h
  unfold PaymentRow.attribution at h
  exact PaymentAttribution.applyAttribution_provider h

section Statements

variable {mid : List Emission → Prop} {d : Db} {es : List Emission} {link : PaymentLinkRow}

/-- A refused insert is not caught. -/
theorem paymentConflict_some {p : PaymentRow} {e : Error} (h : paymentConflict d p = some e) :
    ¬ notActivatable e := by
  unfold paymentConflict at h
  split_ifs at h <;> · cases h; simp [notActivatable]

/-- The rows a settlement creates payments from. -/
structure RowFor (link : PaymentLinkRow) (row : Uuid → String → PaymentRow) : Prop where
  total : ∀ id number, (row id number).totalAmount = link.amount
  refunded : ∀ id number, (row id number).amountRefunded = 0
  status : ∀ id number, (row id number).status = some .success
  booking : ∀ id number,
    (row id number).bookingId = if link.targetType = .booking then some link.targetId else none
  voucher : ∀ id number,
    (row id number).voucherId = if link.targetType = .giftVoucher then some link.targetId else none
  link : ∀ id number, (row id number).paymentLinkId = some link.id

theorem RowFor.created {row : Uuid → String → PaymentRow} (h : RowFor link row) (id : Uuid)
    (number : String) : CreatedFor link (row id number).beforeWrite := by
  unfold PaymentRow.beforeWrite
  constructor
  · rw [PaymentRow.setAttribution_totalAmount, h.total]
  · rw [PaymentRow.setAttribution_amountRefunded, h.refunded]
  · rw [PaymentRow.setAttribution_status, h.status]
  · rw [PaymentRow.setAttribution_bookingId, h.booking]
  · rw [PaymentRow.setAttribution_voucherId, h.voucher]
  · rw [PaymentRow.setAttribution_paymentLinkId, h.link]
  · exact canonicalProvider_setAttribution _ _

theorem ensures_createPayment {row : Uuid → String → PaymentRow} (hrow : RowFor link row) :
    Ensures (fun _ => True) (fun r d' es' => es' = es ∧ (∀ e, r = .error e → ¬ notActivatable e) ∧
        ∀ q, r = .ok q → CreatedFor link q ∧ Table.get d.payments q.id = none ∧
          ∃ history, d' = { d with
            payments := d.payments ++ [q], paymentStatusHistory := history })
      (createPayment link row) d es := by
  unfold createPayment
  refine (ensures_generatePaymentNumber trivial).bind_returns ?_
  rintro number d' es' ⟨rfl, rfl⟩
  rw [ensures_bind_ask]
  refine ⟨trivial, fun a => ?_⟩
  refine (ensures_insertPayment trivial).bind ?_ ?_
  · rintro q d'' es'' ⟨rfl, -, hq⟩
    obtain ⟨rfl, hget, rfl⟩ := hq q rfl
    unfold addPaymentHistory
    rw [ensures_bind, ensures_update]
    refine ⟨trivial, rfl, ?_, ?_⟩
    · rintro _ ⟨⟩
    · rintro _ ⟨rfl⟩
      exact ⟨hrow.created a.uuid number, hget, _, rfl⟩
  · rintro e d'' es'' ⟨rfl, he, -⟩
    refine ⟨rfl, ?_, ?_⟩
    · rintro _ ⟨rfl⟩
      exact paymentConflict_some (he e rfl).1
    · rintro _ ⟨⟩

/-- The columns a settlement changes payments with. -/
structure ColumnsOk (link : PaymentLinkRow) (columns : PaymentRow → PaymentRow) : Prop where
  id : ∀ r, (columns r).id = r.id
  total : ∀ r, (columns r).totalAmount = r.totalAmount
  refunded : ∀ r, (columns r).amountRefunded = r.amountRefunded
  status : ∀ r, (columns r).status = some .success
  booking : ∀ r, (columns r).bookingId = r.bookingId
  voucher : ∀ r, (columns r).voucherId = r.voucherId
  link : ∀ r, (columns r).paymentLinkId = some link.id

theorem ColumnsOk.changed {columns : PaymentRow → PaymentRow} (h : ColumnsOk link columns)
    (p r : PaymentRow) : ChangedTo link r ((columns r).setAttribution p.attribution) := by
  constructor
  · rw [PaymentRow.setAttribution_id, h.id]
  · rw [PaymentRow.setAttribution_totalAmount, h.total]
  · rw [PaymentRow.setAttribution_amountRefunded, h.refunded]
  · rw [PaymentRow.setAttribution_status, h.status]
  · rw [PaymentRow.setAttribution_bookingId, h.booking]
  · rw [PaymentRow.setAttribution_voucherId, h.voucher]
  · rw [PaymentRow.setAttribution_paymentLinkId, h.link]
  · exact canonicalProvider_setAttribution _ _

/-- The payment of the target is created or the newest changed, and nothing else but the history. -/
theorem ensures_settlePayment {row : Uuid → String → PaymentRow} {columns : PaymentRow → PaymentRow}
    (hrow : RowFor link row) (hcolumns : ColumnsOk link columns) :
    Ensures (fun _ => True) (fun r d' es' => es' = es ∧ (∀ e, r = .error e → ¬ notActivatable e) ∧
        ∀ q, r = .ok q → PaymentsStep link d d'.payments q ∧
          ∃ payments history, d' = { d with
            payments := payments, paymentStatusHistory := history })
      (settlePayment link (ofTarget link.targetType link.targetId) row columns) d es := by
  unfold settlePayment newestPayment
  rw [ensures_bind_queryForUpdate]
  refine ⟨trivial, ?_⟩
  cases hnew : (paymentsOf link.targetType link.targetId d).getLast? with
  | none =>
    have hnone : (d.payments.filter (ofTarget link.targetType link.targetId)).getLast? = none := hnew
    rw [hnone]
    refine (ensures_createPayment hrow).mono (fun _ h => h) ?_
    rintro r d' es' ⟨rfl, herr, hok⟩
    refine ⟨rfl, herr, fun q hq => ?_⟩
    obtain ⟨hcreated, hget, history, rfl⟩ := hok q hq
    exact ⟨.created q (List.getLast?_eq_none_iff.mp hnew) hget hcreated, _, history, rfl⟩
  | some p =>
    have hsome : (d.payments.filter (ofTarget link.targetType link.targetId)).getLast? = some p := hnew
    rw [hsome]
    refine (ensures_writePayment trivial).bind ?_ ?_
    · rintro o d' es' ⟨rfl, -, hok⟩
      obtain ⟨ho, rfl⟩ := hok o rfl
      refine ⟨rfl, ?_, ?_⟩
      · rintro _ ⟨⟩
      · rintro _ ⟨rfl⟩
        have hid : ((Orm.ofRow p).set columns).row.id = p.id := hcolumns.id p
        rw [ho]
        refine ⟨?_, _, d.paymentStatusHistory, rfl⟩
        rw [hid]
        exact .changed p (fun r => (columns r).setAttribution (columns p).attribution) hnew
          fun r => hcolumns.changed (columns p) r
    · rintro e d' es' ⟨rfl, herr, -⟩
      refine ⟨rfl, ?_, ?_⟩
      · rintro _ ⟨rfl⟩
        rw [herr e rfl]
        simp [notActivatable]
      · rintro _ ⟨⟩

/-! ## Bookings and gift vouchers -/

/-- The booking is written as paid, and nothing else changes but its history. -/
theorem ensures_confirmBooking {booking : BookingRow} {paidAt : Instant}
    (hget : Table.get d.bookings booking.id = some booking) :
    Ensures (fun _ => True) (Returns fun b d' es' => es' = es ∧ b.id = booking.id ∧
        b.paymentStatus = .success ∧ b.status = (confirmedStatus booking).status ∧
        Table.get d'.bookings booking.id = some b ∧
        ∃ bookings history, d' = { d with bookings := bookings, bookingStatusHistory := history })
      (confirmBooking link booking paidAt) d es := by
  have hkey : ∀ r : BookingRow, (paidBooking link paidAt (confirmedStatus r)).id = r.id := by
    intro r
    show (confirmedStatus r).id = r.id
    unfold confirmedStatus
    split_ifs <;> rfl
  unfold confirmBooking flushBooking
  simp only [ensures_bind, ensures_update, ensures_pure, ensures_forSome]
  have hself : ∀ a, Table.get (Table.modify d.bookings booking.id fun r =>
      (paidBooking link paidAt (confirmedStatus r)).setAttribution a) booking.id =
      some ((paidBooking link paidAt (confirmedStatus booking)).setAttribution a) := by
    intro a
    have hf : ∀ r : BookingRow, Table.Keyed.key
        ((paidBooking link paidAt (confirmedStatus r)).setAttribution a) = Table.Keyed.key r := hkey
    rw [Table.get_modify_self hf, hget]
    rfl
  have hid : ((Orm.ofRow booking).set fun b => paidBooking link paidAt (confirmedStatus b)).row.id =
      booking.id := hkey booking
  refine ⟨trivial, fun _ => ?_, fun old _ => ?_⟩
  · rw [hid]
    exact ⟨rfl, hkey booking, rfl, rfl, hself _, _, d.bookingStatusHistory, rfl⟩
  · unfold addBookingHistory
    rw [ensures_update, hid]
    exact ⟨trivial, rfl, hkey booking, rfl, rfl, hself _, _, _, rfl⟩

/-- The object of the link after its settlement: only the payment row may be assigned. -/
def Assigned (link o : Orm PaymentLinkRow) : Prop :=
  o = link ∨ ∃ pid, o = link.set (setPaymentRow pid)

/-- The booking is paid, in the status a settlement leaves it in. -/
def SettledAs (bookingId : Uuid) (b : BookingRow) (d : Db) : Prop :=
  ∃ b', Table.get d.bookings bookingId = some b' ∧ b'.paymentStatus = .success ∧
    b'.status = (confirmedStatus b).status

/-- The booking of the link is paid. -/
def BookingPaid (link : PaymentLinkRow) (d : Db) : Prop :=
  ∃ b, Table.get d.bookings link.targetId = some b ∧ b.paymentStatus = .success

theorem rowFor_bookingPayment {booking : BookingRow} {paidAt : Instant}
    (ht : link.targetType = .booking) (hb : booking.id = link.targetId) :
    RowFor link (bookingPayment link booking paidAt) where
  total _ _ := rfl
  refunded _ _ := rfl
  status _ _ := rfl
  booking _ _ := by rw [if_pos ht]; exact congrArg some hb
  voucher _ _ := by rw [if_neg (by rw [ht]; decide)]; rfl
  link _ _ := rfl

theorem columnsOk_settledBookingPayment (paidAt : Instant) :
    ColumnsOk link (settledBookingPayment link paidAt) :=
  ⟨fun _ => rfl, fun _ => rfl, fun _ => rfl, fun _ => rfl, fun _ => rfl, fun _ => rfl, fun _ => rfl⟩

theorem ensures_settleBooking {o : Orm PaymentLinkRow} {paidAt : Instant}
    (ht : o.row.targetType = .booking) :
    Ensures (fun _ => True) (fun r d' es' =>
        (∀ e, r = .error e → es' = es ∧ (notActivatable e → d' = d ∧
          ∀ b, Table.get d.bookings o.row.targetId = some b → b.status ∈ NOT_PAYABLE_BOOKING)) ∧
        ∀ o', r = .ok o' → (∃ pid, o' = o.set (setPaymentRow pid)) ∧
          (∃ b, Table.get d.bookings o.row.targetId = some b ∧ b.status ∉ NOT_PAYABLE_BOOKING) ∧
          (∃ ev, ev.paymentLinkId = o.row.id ∧ es' = es ++ [.paymentLinkPaid ev]) ∧
          (∃ q, PaymentsStep o.row d d'.payments q) ∧
          (∀ b, Table.get d.bookings o.row.targetId = some b → SettledAs o.row.targetId b d') ∧
          d'.paymentLinks = d.paymentLinks ∧ d'.paymentWebhookEvents = d.paymentWebhookEvents)
      (settleBooking o paidAt) d es := by
  unfold settleBooking
  rw [ensures_bind_queryForUpdate]
  refine ⟨trivial, ?_⟩
  cases hb : Table.get d.bookings o.row.targetId with
  | none => exact ⟨fun e _ => ⟨rfl, fun _ => ⟨rfl, fun _ h => by cases h⟩⟩, fun _ h => by cases h⟩
  | some row =>
    have hid : row.id = o.row.targetId := (Table.get_some hb).2
    dsimp only
    rw [ensures_bind_raiseIf]
    refine ⟨fun hclosed => ⟨fun e _ => ⟨rfl, fun _ => ⟨rfl, ?_⟩⟩, fun _ h => by cases h⟩,
      fun hpayable => ?_⟩
    · rintro _ ⟨rfl⟩
      exact hclosed
    refine (ensures_confirmBooking (by rw [hid]; exact hb)).bind_returns ?_
    rintro b d₁ es₁ ⟨rfl, hbid, hpaid, hstatus, hget, bookings, history, rfl⟩
    have htarget : b.id = o.row.targetId := hbid.trans hid
    have hof : (fun p : PaymentRow => decide (p.bookingId = some b.id)) =
        ofTarget o.row.targetType o.row.targetId := by
      funext p
      simp [ofTarget, ht, htarget]
    rw [hof]
    refine (ensures_settlePayment (rowFor_bookingPayment ht htarget)
      (columnsOk_settledBookingPayment paidAt)).bind ?_ ?_
    · rintro q d₂ es₂ ⟨rfl, -, hok⟩
      obtain ⟨hstep, payments, phistory, rfl⟩ := hok q rfl
      rw [ensures_bind, ensures_emit]
      refine ⟨trivial, ?_, ?_⟩
      · rintro _ ⟨⟩
      · rintro _ ⟨rfl⟩
        refine ⟨⟨q.id, rfl⟩, ⟨row, rfl, hpayable⟩, ⟨_, rfl, rfl⟩, ⟨q, ?_⟩, fun r hr => ?_, rfl, rfl⟩
        · rcases hstep with ⟨_, hnone, hfresh, hcreated⟩ | ⟨p, f, hnew, hchanged⟩
          · exact .created q hnone hfresh hcreated
          · exact .changed p f hnew hchanged
        · obtain rfl : row = r := Option.some.inj hr
          refine ⟨b, ?_, hpaid, hstatus⟩
          rw [← hid]
          exact hget
    · rintro e d₂ es₂ ⟨rfl, herr, -⟩
      refine ⟨?_, ?_⟩
      · rintro _ ⟨rfl⟩
        exact ⟨rfl, fun h => absurd h (herr e rfl)⟩
      · rintro _ ⟨⟩

/-- The gift voucher of the link is activated, or scheduled for its delivery. -/
def VoucherActive (link : PaymentLinkRow) (d : Db) : Prop :=
  ∃ v, Table.get d.giftVouchers link.targetId = some v ∧ (v.status = .active ∨ v.status = .scheduled)

theorem rowFor_voucherPayment {voucher : GiftVoucherRow} {paidAt : Instant}
    (ht : link.targetType = .giftVoucher) (hv : voucher.id = link.targetId) :
    RowFor link (voucherPayment link voucher paidAt) where
  total _ _ := rfl
  refunded _ _ := rfl
  status _ _ := rfl
  booking _ _ := by rw [if_neg (by rw [ht]; decide)]; rfl
  voucher _ _ := by rw [if_pos ht]; exact congrArg some hv
  link _ _ := rfl

theorem columnsOk_settledVoucherPayment (voucher : GiftVoucherRow) (paidAt : Instant) :
    ColumnsOk link (settledVoucherPayment link voucher paidAt) :=
  ⟨fun _ => rfl, fun _ => rfl, fun _ => rfl, fun _ => rfl, fun _ => rfl, fun _ => rfl, fun _ => rfl⟩

theorem ensures_payVoucher (paidAt : Instant) (ht : link.targetType = .giftVoucher) :
    Ensures (fun _ => True) (fun r d' es' => es' = es ∧
        (∀ e, r = .error e → notActivatable e → d' = d ∧
          Table.get d.giftVouchers link.targetId = none) ∧
        ∀ v q, r = .ok (v, q) → Table.get d.giftVouchers link.targetId = some v ∧
          PaymentsStep link d d'.payments q ∧
          ∃ payments history, d' = { d with
            payments := payments, paymentStatusHistory := history })
      (payVoucher link paidAt) d es := by
  unfold payVoucher
  rw [ensures_bind_queryForUpdate]
  refine ⟨trivial, ?_⟩
  cases hv : Table.get d.giftVouchers link.targetId with
  | none => exact ⟨rfl, fun _ _ _ => ⟨rfl, rfl⟩, fun _ _ h => by cases h⟩
  | some voucher =>
    have hid : voucher.id = link.targetId := (Table.get_some hv).2
    have hof : (fun p : PaymentRow => decide (p.voucherId = some voucher.id)) =
        ofTarget link.targetType link.targetId := by
      funext p
      simp [ofTarget, ht, hid]
    dsimp only
    rw [hof]
    refine (ensures_settlePayment (rowFor_voucherPayment ht hid)
      (columnsOk_settledVoucherPayment voucher paidAt)).bind ?_ ?_
    · rintro q d' es' ⟨rfl, -, hok⟩
      obtain ⟨hstep, hframe⟩ := hok q rfl
      refine ⟨rfl, ?_, ?_⟩
      · rintro _ ⟨⟩
      · rintro _ _ ⟨rfl, rfl⟩
        exact ⟨rfl, hstep, hframe⟩
    · rintro e d' es' ⟨rfl, herr, -⟩
      refine ⟨rfl, ?_, ?_⟩
      · rintro _ ⟨rfl⟩ hcaught
        exact absurd hcaught (herr e rfl)
      · rintro _ _ ⟨⟩

theorem ensures_activateVoucher {voucher : GiftVoucherRow} {payment : PaymentRow}
    {paidAt : Instant} (hv : Table.get d.giftVouchers link.targetId = some voucher) :
    Ensures (fun _ => True) (fun r d' es' =>
        (∀ e, r = .error e → es' = es ∧ d' = d ∧ ¬ Voucher.Allowed voucher .active) ∧
        ∀ u, r = .ok u → Voucher.Allowed voucher .active ∧ (es' = es ∨ ∃ v s, es' = es ++ [.voucherStatus v s]) ∧
          VoucherActive link d' ∧ ∃ vouchers, d' = { d with giftVouchers := vouchers })
      (activateVoucher link voucher payment paidAt) d es := by
  have hid : voucher.id = link.targetId := (Table.get_some hv).2
  have hk : ∀ o, some (Orm.ofRow voucher) = some o →
      InStep o d.giftVouchers ∧ o.row.id = voucher.id := by
    rintro o ⟨rfl⟩
    exact ⟨inStep_ofRow hv, rfl⟩
  unfold activateVoucher
  show Ensures _ _ ((fun _ => ()) <$> _) d es
  rw [ensures_map]
  refine (Voucher.ensures_updateStatus hk).mono (fun _ h => h) ?_
  rintro r d' es' ⟨herr, hok⟩
  cases r with
  | error e =>
    obtain ⟨hes, hd, hnot⟩ := herr e rfl
    exact ⟨fun _ _ => ⟨hes, hd, hnot voucher (by rw [hid]; exact hv)⟩, fun _ h => by cases h⟩
  | ok w =>
    obtain ⟨hes, row, vouchers, hrow, hallowed, rfl, hget, hstatus⟩ := hok w rfl
    refine ⟨fun _ h => (by cases h), fun _ _ => ⟨hallowed, ?_, ⟨w.row, ?_, ?_⟩, vouchers, rfl⟩⟩
    · rcases hes with rfl | ⟨s, rfl⟩
      · exact .inl rfl
      · exact .inr ⟨_, s, rfl⟩
    · rw [← hid]
      exact hget
    · rw [hstatus]
      exact Voucher.redirect_active _

/-! ## The target -/

/-- What the settlement of a link has queued or sent. -/
def SettleEvents (link : PaymentLinkRow) (es es' : List Emission) : Prop :=
  es' = es ∨ (∃ ev, ev.paymentLinkId = link.id ∧ es' = es ++ [.paymentLinkPaid ev]) ∨
    ∃ v s, es' = es ++ [.voucherStatus v s]

/-- The target of the link is activated. -/
def Activated (link : PaymentLinkRow) (d : Db) : Prop :=
  match link.targetType with
  | .booking => BookingPaid link d
  | .giftVoucher => VoucherActive link d
  | .product => True

/-- A target that could not be activated. Only the payment of a gift voucher that is there has been
written by then. -/
structure NotActivated (link : PaymentLinkRow) (d d' : Db) : Prop where
  target : ¬ Activatable link d
  bookings : d'.bookings = d.bookings
  vouchers : d'.giftVouchers = d.giftVouchers
  without : ¬ VoucherThere link d → d'.payments = d.payments
  voucher : VoucherThere link d → ∃ q, PaymentsStep link d d'.payments q

/-- The settlement of the target, on which `failure` is what made it fail. A failure may leave the
payment of a gift voucher behind. -/
structure TargetSettled (link : PaymentLinkRow) (failure : Option Error) (d d' : Db)
    (es es' : List Emission) : Prop where
  frame : SettleFrame link d d'
  failed : failure ≠ none → es' = es
  events : failure = none → SettleEvents link es es'
  payments : failure = none → link.targetType ≠ .product → ∃ q, PaymentsStep link d d'.payments q
  activated : failure = none → Activated link d'
  activatable : failure = none → Activatable link d
  notActivated : failure ≠ none → NotActivated link d d'
  booking : failure = none → link.targetType = .booking →
    ∀ b, Table.get d.bookings link.targetId = some b → SettledAs link.targetId b d'

theorem ensures_settleTarget {o : Orm PaymentLinkRow} {paidAt : Instant} :
    Ensures (fun _ => True) (fun r d' es' => (∀ e, r = .error e → es' = es) ∧
        ∀ o' failure, r = .ok (o', failure) → Assigned o o' ∧
          TargetSettled o.row failure d d' es es')
      (settleTarget o paidAt) d es := by
  have hfail : ∀ {o' : Orm PaymentLinkRow} {exc : Error} {d' : Db}, Assigned o o' →
      SettleFrame o.row d d' → NotActivated o.row d d' →
        Assigned o o' ∧ TargetSettled o.row (some exc) d d' es es :=
    fun ha hf hn => ⟨ha, hf, fun _ => rfl, fun h => (by cases h), fun h => (by cases h),
      fun h => (by cases h), fun h => (by cases h), fun _ => hn, fun h => (by cases h)⟩
  unfold settleTarget
  cases ht : o.row.targetType with
  | product =>
    refine ⟨fun _ h => (by cases h), ?_⟩
    rintro _ _ ⟨rfl, rfl⟩
    exact ⟨.inl rfl, .refl _ d, fun h => absurd rfl h, fun _ => .inl rfl, fun _ h => absurd ht h,
      fun _ => by unfold Activated; rw [ht]; trivial, fun _ => by unfold Activatable; rw [ht]; trivial,
      fun h => absurd rfl h, fun _ h => by rw [ht] at h; cases h⟩
  | booking =>
    rw [ensures_bind]
    refine (ensures_settleBooking ht).attempt ?_ ?_ ?_
    · rintro o₁ d₁ es₁ ⟨-, hok⟩
      obtain ⟨⟨pid, rfl⟩, hpayable, ⟨ev, hev, rfl⟩, hstep, hsettled, hlinks, hevents⟩ := hok o₁ rfl
      refine ⟨fun _ h => (by cases h), ?_⟩
      rintro _ _ ⟨rfl, rfl⟩
      refine ⟨.inr ⟨pid, rfl⟩, ⟨hlinks, hevents, .inr hstep⟩, fun h => absurd rfl h,
        fun _ => .inr (.inl ⟨ev, hev, rfl⟩), fun _ _ => hstep, fun _ => ?_, fun _ => ?_,
        fun h => absurd rfl h, fun _ _ => hsettled⟩
      · unfold Activated
        rw [ht]
        obtain ⟨b, hb, -⟩ := hpayable
        obtain ⟨b', hb', hpaid, -⟩ := hsettled b hb
        exact ⟨b', hb', hpaid⟩
      · unfold Activatable
        rw [ht]
        exact hpayable
    · rintro exc d₁ es₁ hcaught ⟨herr, -⟩
      obtain ⟨rfl, hd⟩ := herr exc rfl
      obtain ⟨rfl, hclosed⟩ := hd hcaught
      refine ⟨fun _ h => (by cases h), ?_⟩
      rintro _ _ ⟨rfl, rfl⟩
      refine hfail (.inl rfl) (.refl _ _) ⟨?_, rfl, rfl, fun _ => rfl, fun h => ?_⟩
      · unfold Activatable
        rw [ht]
        rintro ⟨b, hb, hpayable⟩
        exact hpayable (hclosed b hb)
      · have htype := h.1
        rw [ht] at htype
        cases htype
    · rintro exc d₁ es₁ - ⟨herr, -⟩
      exact ⟨fun _ _ => (herr exc rfl).1, fun _ _ h => by cases h⟩
  | giftVoucher =>
    rw [ensures_bind]
    refine (ensures_payVoucher paidAt ht).attempt ?_ ?_ ?_
    · rintro ⟨voucher, payment⟩ d₁ es₁ ⟨rfl, -, hok⟩
      obtain ⟨hget, hstep, payments, history, rfl⟩ := hok voucher payment rfl
      dsimp only
      rw [ensures_bind]
      have hthere : VoucherThere o.row d := ⟨ht, by rw [hget]; simp⟩
      have hframe : SettleFrame o.row d { d with
          payments := payments, paymentStatusHistory := history } := ⟨rfl, rfl, .inr ⟨_, hstep⟩⟩
      have hget' : Table.get ({ d with
          payments := payments, paymentStatusHistory := history } : Db).giftVouchers
          (o.set (setPaymentRow payment.id)).row.targetId = some voucher := hget
      refine (ensures_activateVoucher hget').attempt ?_ ?_ ?_
      · rintro u d₂ es₂ ⟨-, hok₂⟩
        obtain ⟨hallowed, hes, hactive, vouchers, rfl⟩ := hok₂ u rfl
        refine ⟨fun _ h => (by cases h), ?_⟩
        rintro _ _ ⟨rfl, rfl⟩
        refine ⟨.inr ⟨_, rfl⟩, ⟨rfl, rfl, .inr ⟨_, hstep⟩⟩, fun h => absurd rfl h, fun _ => ?_,
          fun _ _ => ⟨_, hstep⟩, fun _ => ?_, fun _ => ?_, fun h => absurd rfl h,
          fun _ h => by rw [ht] at h; cases h⟩
        · rcases hes with rfl | h
          · exact .inl rfl
          · exact .inr (.inr h)
        · unfold Activated
          rw [ht]
          exact hactive
        · unfold Activatable
          rw [ht]
          exact ⟨voucher, hget, hallowed⟩
      · rintro exc d₂ es₂ - ⟨herr, -⟩
        obtain ⟨rfl, rfl, hnot⟩ := herr exc rfl
        refine ⟨fun _ h => (by cases h), ?_⟩
        rintro _ _ ⟨rfl, rfl⟩
        refine hfail (.inr ⟨_, rfl⟩) hframe ⟨?_, rfl, rfl, fun h => absurd hthere h,
          fun _ => ⟨_, hstep⟩⟩
        unfold Activatable
        rw [ht]
        rintro ⟨v, hv, hallowed⟩
        have hv' : Table.get d.giftVouchers o.row.targetId = some v := hv
        rw [hget] at hv'
        obtain rfl : voucher = v := by simpa using hv'
        exact hnot hallowed
      · rintro exc d₂ es₂ - ⟨herr, -⟩
        exact ⟨fun _ _ => (herr exc rfl).1, fun _ _ h => by cases h⟩
    · rintro exc d₁ es₁ hcaught ⟨rfl, hd, -⟩
      obtain ⟨rfl, hnone⟩ := hd exc rfl hcaught
      refine ⟨fun _ h => (by cases h), ?_⟩
      rintro _ _ ⟨rfl, rfl⟩
      refine hfail (.inl rfl) (.refl _ _) ⟨?_, rfl, rfl, fun _ => rfl, fun h => absurd hnone h.2⟩
      unfold Activatable
      rw [ht]
      rintro ⟨v, hv, -⟩
      have hv' : Table.get d₁.giftVouchers o.row.targetId = some v := hv
      rw [hnone] at hv'
      cases hv'
    · rintro exc d₁ es₁ - ⟨rfl, -, -⟩
      exact ⟨fun _ _ => rfl, fun _ _ h => by cases h⟩

end Statements

end PaymentLinks
