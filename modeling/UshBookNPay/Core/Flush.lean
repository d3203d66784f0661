import UshBookNPay.Core.Environment

/-!
# Writing the objects of a session

What a flush writes of a changed object, and the inserts. The mapper events compute the payment
attribution of a booking, a payment or a gift voucher before it is written.
-/

open Transactions.Prog (query queryForUpdate update checkedUpdate ask)

/-- Write a changed payment: the attribution event runs on the object first. -/
def flushPayment (o : Orm PaymentRow) : Tx (Orm PaymentRow) := do
  let a := o.row.attribution
  checkedUpdate
    (fun _ => if fitsNumeric o.row.amountRefunded then none else some .numericOverflow)
    [.row "payments" o.row.id]
    fun d => { d with
      payments := Table.modify d.payments o.row.id fun r => (o.changes r).setAttribution a }
  pure (Orm.ofRow (o.row.setAttribution a))

/-- Write a changed booking: the attribution event runs on the object first. -/
def flushBooking (o : Orm BookingRow) : Tx (Orm BookingRow) := do
  let a := o.row.attribution
  update [.row "bookings" o.row.id]
    fun d => { d with
      bookings := Table.modify d.bookings o.row.id fun r => (o.changes r).setAttribution a }
  pure (Orm.ofRow (o.row.setAttribution a))

def flushVoucher (o : Orm GiftVoucherRow) : Tx (Orm GiftVoucherRow) := do
  let a := o.row.attribution
  update [.row "gift_vouchers" o.row.id]
    fun d => { d with
      giftVouchers := Table.modify d.giftVouchers o.row.id fun r =>
        (o.changes r).setAttribution a }
  pure (Orm.ofRow (o.row.setAttribution a))

def flushLink (o : Orm PaymentLinkRow) : Tx (Orm PaymentLinkRow) := do
  update [.row "payment_links" o.row.id]
    fun d => { d with paymentLinks := Table.modify d.paymentLinks o.row.id o.changes }
  pure (Orm.ofRow o.row)

/-! ## Payments -/

/-- `generate_payment_number` -/
def generatePaymentNumber : Tx String := do
  let month ← ask Env.month
  let datePrefix := "PMT/" ++ month ++ "/"
  queryForUpdate (fun _ => [.advisory "payment_number"]) fun _ => ()
  query fun d => nextNumber datePrefix (d.payments.map (·.paymentNumber))

/-- What the database has against an insert of the payment. -/
def paymentConflict (d : Db) (p : PaymentRow) : Option Error :=
  if (Table.get d.payments p.id).isSome then some (.integrity "payments_pkey")
  else if d.payments.any (·.paymentNumber = p.paymentNumber) then
    some (.integrity "ix_payments_payment_number")
  else if fitsNumeric p.totalAmount ∧ fitsNumeric p.amountRefunded then none
  else some .numericOverflow

def insertPayment (p : PaymentRow) : Tx PaymentRow := do
  let p := p.beforeWrite
  checkedUpdate (paymentConflict · p)
    [.row "payments" p.id, .index "payment_number" p.paymentNumber]
    fun d => { d with payments := d.payments ++ [p] }
  pure p

def addPaymentHistory (row : PaymentStatusHistoryRow) : Tx Unit :=
  update [] fun d => { d with paymentStatusHistory := d.paymentStatusHistory ++ [row] }

def addBookingHistory (row : BookingStatusHistoryRow) : Tx Unit :=
  update [] fun d => { d with bookingStatusHistory := d.bookingStatusHistory ++ [row] }
