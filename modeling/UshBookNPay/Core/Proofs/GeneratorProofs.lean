import UshBookNPay.Booking.Repository
import UshBookNPay.Core.DocumentNumbers
import UshBookNPay.Core.Flush
import UshBookNPay.Payment.RefundLifecycle
import UshBookNPay.Shop.ShopOrderService
import UshBookNPay.Voucher.ScheduledDelivery

/-!
# The generators of document numbers

Each generator issues a number by those its column holds, and an insert is refused for its number
only if the column holds it.
-/

open DocumentNumbers Transactions

/-! ## What is issued -/

section Issued

variable {env : ℕ → Env} {m : Month}

theorem exec_generateBookingNumber (start : Instant) (d : Db) :
    (exec env (Booking.generateBookingNumber start) d).1 =
      .ok (issue .booking ⟨(civilDate (localDay start)).1, (civilDate (localDay start)).2.1⟩
        (d.bookings.filterMap (·.bookingNumber))) := by
  unfold Booking.generateBookingNumber
  rcases civilDate (localDay start) with ⟨year, month, day⟩
  have hmonth : datePrefix .booking ⟨year, month⟩ =
      "BOK/" ++ pad 4 year ++ "/" ++ pad 2 month ++ "/" := by
    simp only [datePrefix, Document.code, Month.text, String.append_assoc]
  show _ = Except.ok (nextNumber (datePrefix .booking ⟨year, month⟩) _)
  rw [hmonth]
  rfl

theorem exec_generatePaymentNumber (hm : (env 0).month = m.text) (d : Db) :
    (exec env generatePaymentNumber d).1 =
      .ok (issue .payment m (d.payments.map (·.paymentNumber))) := by
  unfold generatePaymentNumber
  rw [exec_bind_ask, hm]
  rfl

theorem exec_generateRefundNumber (hm : (env 0).month = m.text) (d : Db) :
    (exec env Payment.generateRefundNumber d).1 =
      .ok (issue .refund m (d.refunds.map (·.refundNumber))) := by
  unfold Payment.generateRefundNumber
  rw [exec_bind_ask, hm]
  rfl

theorem exec_generateVoucherNumber (hm : (env 0).month = m.text) (d : Db) :
    (exec env Voucher.generateVoucherNumber d).1 =
      .ok (issue .giftVoucher m (d.giftVouchers.filterMap (·.voucherNumber))) := by
  unfold Voucher.generateVoucherNumber
  rw [exec_bind_ask, hm]
  rfl

theorem exec_nextOrderNumber {env : ℕ → Shop.ShopEnv} (hm : (env 0).month = m.text)
    (d : Shop.ShopDb) :
    (exec env Shop.nextOrderNumber d).1 =
      .ok (issue .shopOrder m (d.orders.map (·.orderNumber))) := by
  have hcount : (d.orders.filter fun o =>
        Text.startsWith (datePrefix .shopOrder m) o.orderNumber).length =
      ((d.orders.map (·.orderNumber)).filter (Text.startsWith (datePrefix .shopOrder m))).length := by
    rw [List.filter_map, List.length_map]
    rfl
  unfold Shop.nextOrderNumber
  rw [exec_bind_ask, hm, exec_bind_query]
  show Except.ok (numbered .shopOrder m ((d.orders.filter fun o =>
    Text.startsWith (datePrefix .shopOrder m) o.orderNumber).length + 1)) = _
  rw [hcount]
  rfl

end Issued

/-! ## What is refused -/

section Refused

variable {d : Db}

theorem bookingConflict_number {b : BookingRow} {number : String}
    (hb : b.bookingNumber = some number)
    (h : Booking.bookingConflict d b = some (.integrity "bookings_booking_number_key")) :
    number ∈ d.bookings.filterMap (·.bookingNumber) := by
  unfold Booking.bookingConflict at h
  split_ifs at h with h1 h2 h3
  · simp at h
  · obtain ⟨b', hmem, heq⟩ := List.any_eq_true.mp h2.2
    exact List.mem_filterMap.mpr ⟨b', hmem, (of_decide_eq_true heq).trans hb⟩
  all_goals simp at h

theorem paymentConflict_number {p : PaymentRow}
    (h : paymentConflict d p = some (.integrity "ix_payments_payment_number")) :
    p.paymentNumber ∈ d.payments.map (·.paymentNumber) := by
  unfold paymentConflict at h
  split_ifs at h with h1 h2
  · simp at h
  · obtain ⟨p', hmem, heq⟩ := List.any_eq_true.mp h2
    exact List.mem_map.mpr ⟨p', hmem, of_decide_eq_true heq⟩
  all_goals simp at h

theorem refundConflict_number {r : RefundRow}
    (h : Payment.refundConflict d r = some (.integrity "refunds_refund_number_key")) :
    r.refundNumber ∈ d.refunds.map (·.refundNumber) := by
  unfold Payment.refundConflict at h
  split_ifs at h with h1 h2
  · simp at h
  · obtain ⟨r', hmem, heq⟩ := List.any_eq_true.mp h2
    exact List.mem_map.mpr ⟨r', hmem, of_decide_eq_true heq⟩
  all_goals simp at h

theorem voucherConflict_number {v : GiftVoucherRow} {number : String}
    (hv : v.voucherNumber = some number)
    (h : Voucher.voucherConflict d v = some (.integrity "gift_vouchers_voucher_number_key")) :
    number ∈ d.giftVouchers.filterMap (·.voucherNumber) := by
  unfold Voucher.voucherConflict at h
  split_ifs at h with h1 h2
  · simp at h
  · obtain ⟨v', hmem, heq⟩ := List.any_eq_true.mp h2.2
    exact List.mem_filterMap.mpr ⟨v', hmem, (of_decide_eq_true heq).trans hv⟩

theorem orderConflict_number {order : Shop.ShopOrderRow} {d : Shop.ShopDb}
    (h : Shop.orderConflict order d = some (.integrity "ix_shop_orders_order_number")) :
    order.orderNumber ∈ d.orders.map (·.orderNumber) := by
  unfold Shop.orderConflict at h
  split_ifs at h with h1 h2
  · simp at h
  · obtain ⟨o, hmem, heq⟩ := List.any_eq_true.mp h2
    exact List.mem_map.mpr ⟨o, hmem, of_decide_eq_true heq⟩
  all_goals simp at h

end Refused
