import UshBookNPay.Core.Rules
import UshBookNPay.Payment.WebhookRuns

/-!
# What a delivery does to the payments

A delivery changes what was paid and refunded of the one payment it is copied over, and of no other.
-/

open Transactions (Prog Ensures Keeps)
open Transactions

namespace Payment

/-! ## What was paid and refunded -/

/-- The columns of a payment that say what was paid and refunded of it, and for which booking. -/
def moneyColumns (p : PaymentRow) : PaymentRow :=
  { id := p.id, bookingId := p.bookingId, totalAmount := p.totalAmount
    amountRefunded := p.amountRefunded, status := p.status }

/-- The refunds, and the payments by these columns. -/
def moneyOf (d : Db) : List RefundRow × List PaymentRow := (d.refunds, d.payments.map moneyColumns)

theorem moneyColumns_setAttribution (p : PaymentRow) (a : PaymentAttribution.Attribution) :
    moneyColumns (p.setAttribution a) = moneyColumns p := rfl

theorem modify_setAttribution (rows : List PaymentRow) (k : Uuid) (f : PaymentRow → PaymentRow)
    (a : PaymentAttribution.Attribution) :
    (Table.modify rows k fun q => (f q).setAttribution a).map moneyColumns =
      (Table.modify rows k f).map moneyColumns := by
  unfold Table.modify
  rw [List.map_map, List.map_map]
  refine List.map_congr_left fun q _ => ?_
  simp only [Function.comp_apply]
  split_ifs
  · exact moneyColumns_setAttribution (f q) a
  · rfl

theorem getMoney_of_map {rows rows' : List PaymentRow}
    (h : rows'.map moneyColumns = rows.map moneyColumns) (k : Uuid) :
    (Table.get rows' k).map moneyColumns = (Table.get rows k).map moneyColumns :=
  Table.get_map_eq (g := moneyColumns) (fun _ => rfl) h k

theorem unique_of_money {rows rows' : List PaymentRow}
    (h : rows'.map moneyColumns = rows.map moneyColumns) (hu : Table.Unique rows) :
    Table.Unique rows' := by
  have hids : ∀ l : List PaymentRow, l.map Table.Keyed.key = (l.map moneyColumns).map (·.id) := by
    intro l
    rw [List.map_map]
    rfl
  unfold Table.Unique at hu ⊢
  rwa [hids, h, ← hids]

/-! ## Programs that leave it alone -/

theorem keeps_flushPayment {o : Orm PaymentRow}
    (ho : ∀ p, moneyColumns (o.changes p) = moneyColumns p) : Keeps moneyOf (flushPayment o) := by
  unfold flushPayment
  obtain ⟨a, ha⟩ : ∃ a, a = o.row.attribution := ⟨_, rfl⟩
  rw [← ha]
  refine (keeps_checkedUpdate _ _ fun d => ?_).bind fun _ => keeps_pure _
  have hmap := Table.map_modify_of_eq (g := moneyColumns)
    (f := fun r => (o.changes r).setAttribution a)
    (fun r => (moneyColumns_setAttribution _ a).trans (ho r)) d.payments o.row.id
  exact congrArg (Prod.mk d.refunds) hmap

theorem keeps_flushBooking {o : Orm BookingRow} : Keeps moneyOf (flushBooking o) := by
  unfold flushBooking
  refine (keeps_update _ fun d => ?_).bind fun _ => keeps_pure _
  rfl

theorem keeps_setPaymentInvoices (bookingId : Uuid) (invoiceNumber : String) :
    Keeps moneyOf (Booking.setPaymentInvoices bookingId invoiceNumber) := by
  refine keeps_update _ fun d => ?_
  have hmap : (d.payments.map (Booking.withInvoice bookingId invoiceNumber)).map moneyColumns =
      d.payments.map moneyColumns := by
    rw [List.map_map]
    refine List.map_congr_left fun p _ => ?_
    simp only [Function.comp_apply, Booking.withInvoice]
    split_ifs
    · rfl
    · rfl
  exact congrArg (Prod.mk d.refunds) hmap

theorem keeps_ensureBookingInvoice (b : BookingRow) :
    Keeps moneyOf (Booking.ensureBookingInvoice b) := by
  unfold Booking.ensureBookingInvoice
  refine (keeps_pure _).ite (Keeps.ite ?_ ?_)
  · exact (keeps_setPaymentInvoices _ _).bind fun _ => keeps_pure _
  · refine (keeps_ask _).bind fun found => ?_
    rcases found with _ | ⟨_, name⟩
    · exact keeps_pure _
    · refine (keeps_pure _).ite (keeps_flushBooking.bind fun written => ?_)
      exact (keeps_setPaymentInvoices _ _).bind fun _ => keeps_pure _

theorem keeps_confirmBooking (bookingId : Uuid) (data : Option (List (String × Json)))
    (source : String) : Keeps moneyOf (Booking.confirmBooking bookingId data source) := by
  have hget : Keeps moneyOf (Booking.getById bookingId) := by
    refine (keeps_queryForUpdate _ _).bind fun row => ?_
    cases row with
    | none => exact keeps_throw _
    | some b => exact keeps_pure b
  refine hget.bind fun row => Keeps.ite ?_ ?_
  · exact keeps_flushBooking.bind fun written => keeps_ensureBookingInvoice _
  · refine (keeps_raiseIf _ _).bind fun _ => keeps_flushBooking.bind fun written => ?_
    have hhistory : ∀ row, Keeps moneyOf (addBookingHistory row) := by
      intro row
      refine keeps_update _ fun d => ?_
      rfl
    refine (hhistory _).bind fun _ => ?_
    exact (keeps_ensureBookingInvoice _).bind fun b => (keeps_call _ _).bind fun _ => keeps_pure _

/-! ## After the payment is written -/

section Statements

variable {d : Db} {es : List Emission}

/-- The confirmation of the booking of a payment raises nothing and leaves the money alone, where the
refunded amount of the payment fits its column. -/
def ConfirmsQuietly (confirm : PaymentRow → Tx Unit) : Prop :=
  ∀ p d es, (∀ q, Table.get d.payments p.id = some q → fitsNumeric q.amountRefunded) →
    Ensures (fun _ => True) (Returns fun _ d' _ => moneyOf d' = moneyOf d) (confirm p) d es

/-- An invoice number goes to the payment of a confirmed booking. -/
theorem confirmsQuietly_takeInvoice (booking : BookingRow) :
    ConfirmsQuietly (takeInvoice · booking) := by
  intro p d es hfits
  unfold takeInvoice
  rw [ensures_bind_query]
  refine ⟨trivial, Ensures.forSome rfl fun q hq => ?_⟩
  obtain ⟨hget, -⟩ := Option.filter_eq_some_iff.mp hq
  have hflush : Ensures (fun _ => True) (fun r d' _ => r.isOk ∧ moneyOf d' = moneyOf d)
      (flushPayment ((Orm.ofRow q).set (setInvoice booking.invoiceNumber))) d es := by
    refine ((ensures_payment_fits trivial).and
      (keeps_flushPayment (fun _ => rfl) d es)).mono (fun _ h => h) ?_
    rintro r d' es' ⟨hr, hk⟩
    exact ⟨hr.trans (hfits q hget), hk⟩
  refine hflush.bind ?_ ?_
  · exact fun _ _ _ h => h.2
  · exact fun _ _ _ h => absurd h.1 (by simp [Except.isOk, Except.toBool])

theorem confirmsQuietly_autoConfirm (snapshot : PaymentRow → List (String × Json)) :
    ConfirmsQuietly (autoConfirm snapshot) := by
  intro p d es hfits
  unfold autoConfirm
  refine Ensures.forSome rfl fun bid _ => ?_
  have hconfirm : Ensures (fun _ => True) (Returns fun _ d' _ => moneyOf d' = moneyOf d)
      (attempt (fun _ => true)
        (Booking.confirmBooking bid (some (snapshot p)) "payment_webhook")) d es := by
    refine (keeps_confirmBooking bid (some (snapshot p)) "payment_webhook" d es).attempt ?_ ?_ ?_
    · exact fun _ _ _ h => h
    · exact fun _ _ _ _ h => h
    · exact fun _ _ _ h _ => absurd rfl h
  refine hconfirm.bind_returns ?_
  intro confirmed d' es' hmoney
  refine Ensures.forSome hmoney fun booking _ => ?_
  have hfits' : ∀ q, Table.get d'.payments p.id = some q → fitsNumeric q.amountRefunded := by
    intro q hget
    have hq := getMoney_of_map (congrArg Prod.snd hmoney) p.id
    rw [hget] at hq
    obtain ⟨q₀, hq₀, heq⟩ := Option.map_eq_some_iff.mp hq.symm
    have hrefunded : q.amountRefunded = q₀.amountRefunded :=
      (congrArg PaymentRow.amountRefunded heq).symm
    exact hrefunded ▸ hfits q₀ hq₀
  refine (confirmsQuietly_takeInvoice booking p d' es' hfits').mono (fun _ h => h) ?_
  intro r d'' es'' h
  cases r with
  | ok _ => exact h.trans hmoney
  | error _ => exact h.elim

theorem confirmsQuietly_autoConfirmTap : ConfirmsQuietly autoConfirmTap := by
  intro p d es _
  exact Ensures.forSome rfl fun _ _ => rfl

theorem ensures_notifyInvoicePaid (paymentId : Uuid) :
    Ensures (fun _ => True) (Returns fun _ d' _ => d' = d) (notifyInvoicePaid paymentId) d es := by
  unfold notifyInvoicePaid
  rw [ensures_bind_query]
  exact ⟨trivial, Ensures.forSome rfl fun _ _ _ => ⟨trivial, rfl⟩⟩

/-- What follows the write of a payment. -/
theorem ensures_afterWrite {confirm : PaymentRow → Tx Unit} (hconfirm : ConfirmsQuietly confirm)
    {p : PaymentRow}
    (hfits : ∀ q, Table.get d.payments p.id = some q → fitsNumeric q.amountRefunded) :
    Ensures (fun _ => True) (Returns fun _ d' _ => moneyOf d' = moneyOf d)
      (do confirm p
          notifyInvoicePaid p.id) d es := by
  refine (hconfirm p d es hfits).bind_returns ?_
  intro _ d' es' h
  refine (ensures_notifyInvoicePaid p.id).mono (fun _ h => h) ?_
  intro r d'' es'' h'
  cases r with
  | ok _ => exact h' ▸ h
  | error _ => exact h'.elim

/-! ## The write -/

theorem ensures_addHistory {α : Type} {o : Option α} {row : α → PaymentStatusHistoryRow} :
    Ensures (fun _ => True) (Returns fun _ d' _ => moneyOf d' = moneyOf d)
      (Prog.forSome o fun a => addPaymentHistory (row a)) d es := by
  refine Ensures.forSome rfl fun a _ => ?_
  unfold addPaymentHistory
  rw [ensures_update]
  exact ⟨trivial, rfl⟩

/-- A payment is written where its amounts fit their columns. -/
theorem ensures_updatePayment {columns : PaymentRow → PaymentRow}
    {history : Option PaymentStatus → PaymentRow → PaymentStatusHistoryRow} {p : PaymentRow}
    (hid : ∀ q, (columns q).id = q.id)
    (hrefunded : ∀ q, (columns q).amountRefunded = q.amountRefunded) :
    Ensures (fun _ => True) (fun r d' _ =>
        (r.isOk ↔ amountsFit (columns p) ∧ fitsNumeric p.amountRefunded) ∧
        ∀ q, r = .ok q → moneyColumns q = moneyColumns (columns p) ∧ d'.refunds = d.refunds ∧
          d'.payments.map moneyColumns =
            (Table.modify d.payments p.id columns).map moneyColumns)
      (updatePayment columns history p) d es := by
  have hno : ∀ e : Error, ¬ (Except.error e : Except Error PaymentRow).isOk := by
    intro e
    simp [Except.isOk, Except.toBool]
  unfold updatePayment
  rw [ensures_bind_raiseIf]
  constructor
  · intro hfit
    refine ⟨⟨fun h => absurd h (hno _), fun h => absurd h.1 hfit⟩, ?_⟩
    rintro _ ⟨⟩
  intro hfit
  have hfit' : amountsFit (columns p) = true := not_not.mp hfit
  have hflush : Ensures (fun _ => True) (fun r _ _ =>
      r.isOk = fitsNumeric ((Orm.ofRow p).set columns).row.amountRefunded)
      (flushPayment ((Orm.ofRow p).set columns)) d es := ensures_payment_fits trivial
  refine ((ensures_writePayment trivial).and hflush).bind ?_ ?_
  · rintro o d' es' ⟨⟨rfl, -, hok⟩, hisOk⟩
    obtain ⟨ho, rfl⟩ := hok o rfl
    have hfits : fitsNumeric p.amountRefunded = true := by
      rw [← hrefunded p]
      exact hisOk.symm
    have hrow : moneyColumns o.row = moneyColumns (columns p) := by
      rw [ho, moneyColumns_setAttribution]
      rfl
    have hwritten := modify_setAttribution d.payments p.id columns
      ((Orm.ofRow p).set columns).row.attribution
    have hmodified : (Table.modify d.payments ((Orm.ofRow p).set columns).row.id fun q =>
        (((Orm.ofRow p).set columns).changes q).setAttribution
          ((Orm.ofRow p).set columns).row.attribution).map moneyColumns =
        (Table.modify d.payments p.id columns).map moneyColumns := by
      rw [show ((Orm.ofRow p).set columns).row.id = p.id from hid p]
      exact hwritten
    refine ensures_addHistory.bind_returns ?_
    rintro _ d'' es'' hmoney
    have href := congrArg Prod.fst hmoney
    have hrows := (congrArg Prod.snd hmoney).trans hmodified
    refine ⟨⟨fun _ => ⟨hfit', hfits⟩, fun _ => rfl⟩, ?_⟩
    rintro _ ⟨rfl⟩
    exact ⟨hrow, href, hrows⟩
  · rintro e d' es' ⟨-, hisOk⟩
    refine ⟨⟨fun h => absurd h (hno e), fun h => ?_⟩, by rintro _ ⟨⟩⟩
    have hfits : fitsNumeric ((Orm.ofRow p).set columns).row.amountRefunded = true := by
      rw [Orm.set_row, Orm.ofRow_row, hrefunded]
      exact h.2
    rw [hfits] at hisOk
    exact absurd hisOk (hno e)

/-- The payment a delivery names alone: it is written, or the delivery raises. -/
theorem ensures_copyOver {columns : PaymentRow → PaymentRow}
    {history : Option PaymentStatus → PaymentRow → PaymentStatusHistoryRow}
    {confirm : PaymentRow → Tx Unit} (hconfirm : ConfirmsQuietly confirm) {p : PaymentRow}
    (hp : Table.get d.payments p.id = some p) (hid : ∀ q, (columns q).id = q.id)
    (hrefunded : ∀ q, (columns q).amountRefunded = q.amountRefunded) :
    Ensures (fun _ => True) (fun r d' _ =>
        (r.isOk ↔ amountsFit (columns p) ∧ fitsNumeric p.amountRefunded) ∧
        (r.isOk → d'.refunds = d.refunds ∧
          d'.payments.map moneyColumns =
            (Table.modify d.payments p.id columns).map moneyColumns))
      (do let payment ← updatePayment columns history p
          confirm payment
          notifyInvoicePaid payment.id) d es := by
  refine (ensures_updatePayment hid hrefunded).bind ?_ ?_
  · rintro q d' es' ⟨hiff, hok⟩
    obtain ⟨hq, href, hmoney⟩ := hok q rfl
    have hqid : q.id = p.id := (congrArg PaymentRow.id hq).trans (hid p)
    have hfit := hiff.mp rfl
    have hfits : ∀ q', Table.get d'.payments q.id = some q' → fitsNumeric q'.amountRefunded := by
      intro q' hq'
      have hget := getMoney_of_map hmoney q.id
      rw [hq', hqid, Table.get_modify_self hid, hp] at hget
      have heq : q'.amountRefunded = p.amountRefunded :=
        (congrArg PaymentRow.amountRefunded (Option.some.inj hget)).trans (hrefunded p)
      rw [heq]
      exact hfit.2
    refine (ensures_afterWrite hconfirm hfits).mono (fun _ h => h) ?_
    rintro r d'' es'' hr
    cases r with
    | ok _ =>
      refine ⟨⟨fun _ => hfit, fun _ => rfl⟩, fun _ => ?_⟩
      exact ⟨(congrArg Prod.fst hr).trans href, (congrArg Prod.snd hr).trans hmoney⟩
    | error _ => exact hr.elim
  · rintro e d' es' ⟨hiff, -⟩
    exact ⟨hiff, fun h => absurd h (by simp [Except.isOk, Except.toBool])⟩

/-! ## The insert -/

/-- The payment `q` has been inserted as `p` describes it. -/
structure Inserted (p q : PaymentRow) (d d' : Db) : Prop where
  refunded : q.amountRefunded = p.amountRefunded
  booking : q.bookingId = p.bookingId
  fresh : Table.get d.payments q.id = none
  refunds : d'.refunds = d.refunds
  rows : d'.payments = d.payments ++ [q]

theorem ensures_insertPayment_new {p : PaymentRow} :
    Ensures (fun _ => True) (fun r d' _ => (∀ e, r = .error e → d' = d) ∧
      ∀ q, r = .ok q → Inserted p q d d') (insertPayment p) d es := by
  refine (ensures_insertPayment trivial).mono (fun _ h => h) ?_
  rintro r d' es' ⟨-, herr, hok⟩
  refine ⟨fun e he => (herr e he).2, fun q hq => ?_⟩
  obtain ⟨hrow, hnew, rfl⟩ := hok q hq
  unfold PaymentRow.beforeWrite at hrow
  refine ⟨?_, ?_, hnew, rfl, rfl⟩
  · rw [hrow, PaymentRow.setAttribution_amountRefunded]
  · rw [hrow, PaymentRow.setAttribution_bookingId]

theorem ensures_insertNumbered (attempts : ℕ) {p : PaymentRow} :
    Ensures (fun _ => True) (fun r d' _ => ∀ q, r = .ok q → Inserted p q d d')
      (insertNumbered p attempts) d es := by
  induction attempts generalizing p es with
  | zero => exact ensures_insertPayment_new.mono (fun _ h => h) fun _ _ _ h => h.2
  | succ n ih =>
    unfold insertNumbered
    have hattempt : Ensures (fun _ => True) (fun r d' _ => ∀ x, r = .ok x →
        (∀ e, x = .error e → d' = d) ∧ ∀ q, x = .ok q → Inserted p q d d')
        (attempt isNumberCollision (insertPayment p)) d es := by
      refine ensures_insertPayment_new.attempt ?_ ?_ ?_
      · rintro a d' es' h _ ⟨rfl⟩
        exact h
      · rintro e d' es' - h _ ⟨rfl⟩
        exact h
      · exact fun _ _ _ _ _ _ h => nomatch h
    refine hattempt.bind ?_ ?_
    · intro x d' es' hx
      obtain ⟨herr, hok⟩ := hx x rfl
      cases x with
      | ok q =>
        rintro _ ⟨rfl⟩
        exact hok q rfl
      | error e =>
        obtain rfl := herr e rfl
        refine (ensures_generatePaymentNumber trivial).bind_returns ?_
        rintro number _ _ ⟨rfl, rfl⟩
        refine (ih (p := { p with paymentNumber := number })).mono (fun _ h => h) ?_
        intro _ _ _ h q hq
        exact ⟨(h q hq).refunded, (h q hq).booking, (h q hq).fresh, (h q hq).refunds, (h q hq).rows⟩
    · exact fun _ _ _ _ _ h => nomatch h

/-- A payment the webhook creates is new, and nothing of it is refunded. -/
theorem ensures_createFromResponse {r : GatewayResponse} :
    Ensures (fun _ => True) (fun x d' _ => ∀ q, x = .ok q → q.amountRefunded = 0 ∧
        Table.get d.payments q.id = none ∧ d'.refunds = d.refunds ∧
          d'.payments = d.payments ++ [q])
      (createFromResponse r) d es := by
  unfold createFromResponse
  have hbooking : Ensures (fun _ => True) (Returns fun _ d' es' => d' = d ∧ es' = es)
      (referredBooking r) d es := by
    unfold referredBooking
    cases (textField (some (.obj r.paymentData)) "customer_reference").bind parseUuid with
    | none => exact ⟨rfl, rfl⟩
    | some id =>
      dsimp only
      rw [ensures_bind_query]
      exact ⟨trivial, rfl, rfl⟩
  refine hbooking.bind_returns ?_
  rintro ⟨bookingId, booking⟩ _ _ ⟨rfl, rfl⟩
  refine (ensures_generatePaymentNumber trivial).bind_returns ?_
  rintro number _ _ ⟨rfl, rfl⟩
  rw [ensures_bind_ask]
  refine ⟨trivial, fun a => ?_⟩
  rw [ensures_bind_ask]
  refine ⟨trivial, fun b => ?_⟩
  rw [ensures_bind_ask]
  refine ⟨trivial, fun c => ?_⟩
  dsimp only
  rw [ensures_bind_raiseIf]
  refine ⟨fun _ _ h => (nomatch h), fun _ => ?_⟩
  refine (ensures_insertNumbered 4).mono (fun _ h => h) ?_
  intro _ _ _ h q hq
  exact ⟨(h q hq).refunded, (h q hq).fresh, (h q hq).refunds, (h q hq).rows⟩

end Statements

/-! ## A delivery -/

/-- A payment as a delivery leaves it. -/
def written (d : Db) (op : GatewayOp) (p : PaymentRow) : PaymentRow :=
  match copied d op with
  | some c => if c.1.id = p.id then copiedColumns op c.2 p else p
  | none => p

/-- What a delivery has done to the refunds and to the payments there were. -/
structure Wrote (d : Db) (op : GatewayOp) (d' : Db) : Prop where
  refunds : d'.refunds = d.refunds
  unique : Table.Unique d'.payments
  row : ∀ k p, Table.get d.payments k = some p →
    (Table.get d'.payments k).map moneyColumns = some (moneyColumns (written d op p))

section Deliveries

variable {d d' : Db} {es : List Emission} {op : GatewayOp}

theorem Wrote.of_rows {rows : List PaymentRow} (href : d'.refunds = d.refunds)
    (hmoney : d'.payments.map moneyColumns = rows.map moneyColumns) (hu : Table.Unique rows)
    (hrows : ∀ k p, Table.get d.payments k = some p → Table.get rows k = some (written d op p)) :
    Wrote d op d' := by
  refine ⟨href, unique_of_money hmoney hu, fun k p hp => ?_⟩
  rw [getMoney_of_map hmoney, hrows k p hp]
  rfl

theorem written_of_none (h : copied d op = none) (p : PaymentRow) : written d op p = p := by
  unfold written
  rw [h]

theorem written_of_some {c : PaymentRow × GatewayResponse} (h : copied d op = some c)
    (p : PaymentRow) :
    written d op p = if c.1.id = p.id then copiedColumns op c.2 p else p := by
  unfold written
  rw [h]

theorem copied_eq_some {c : PaymentRow × GatewayResponse} (h : copied d op = some c) :
    reported op = some c.2 ∧ namedPayments d op = [c.1] ∧
      amountsFit (copiedColumns op c.2 c.1) ∧ fitsNumeric c.1.amountRefunded := by
  unfold copied at h
  split at h
  · rename_i r p hr hp
    split_ifs at h with hfit
    cases h
    exact ⟨hr, hp, hfit⟩
  · cases h

theorem copied_of_named {r : GatewayResponse} {p : PaymentRow} (hr : reported op = some r)
    (hp : namedPayments d op = [p]) : copied d op =
      if amountsFit (copiedColumns op r p) ∧ fitsNumeric p.amountRefunded then some (p, r)
      else none := by
  unfold copied
  rw [hr, hp]

theorem copied_of_other (h : ∀ p, namedPayments d op ≠ [p]) : copied d op = none := by
  cases hc : copied d op with
  | none => rfl
  | some c => exact absurd (copied_eq_some hc).2.1 (h c.1)

theorem copiedColumns_id (op : GatewayOp) (r : GatewayResponse) (p : PaymentRow) :
    (copiedColumns op r p).id = p.id := by
  cases op <;> rfl

theorem copiedColumns_amountRefunded (op : GatewayOp) (r : GatewayResponse) (p : PaymentRow) :
    (copiedColumns op r p).amountRefunded = p.amountRefunded := by
  cases op <;> rfl

/-- A delivery that is not copied has changed no payment there was. -/
theorem Wrote.refl (hu : Table.Unique d.payments) (h : copied d op = none) : Wrote d op d :=
  .of_rows rfl rfl hu fun k p hp => by rw [hp, written_of_none h]

/-- What a webhook does with the payments it names, once it has a payment to look for. -/
theorem ensures_found {r : GatewayResponse} {P : PaymentRow → Bool}
    {history : Option PaymentStatus → PaymentRow → PaymentStatusHistoryRow}
    {confirm : PaymentRow → Tx Unit} {body : Option PaymentRow → Tx Unit}
    (hconfirm : ConfirmsQuietly confirm)
    (hu : Table.Unique d.payments) (hr : reported op = some r)
    (hnamed : namedPayments d op = d.payments.filter P)
    (hsome : ∀ p, body (some p) = (do
      let payment ← updatePayment (copiedColumns op r) history p
      confirm payment
      notifyInvoicePaid payment.id))
    (hnone : copied d op = none → Ensures (fun _ => True) (fun x d' _ => x.isOk → Wrote d op d')
      (body none) d es) :
    Ensures (fun _ => True) (fun x d' _ => (copied d op ≠ none → x.isOk) ∧
        (x.isOk → Wrote d op d'))
      (do let rows ← Prog.query fun d : Db => d.payments.filter P
          let found ← scalarOneOrNone rows
          body found) d es := by
  have hid := copiedColumns_id op r
  rw [ensures_bind_query]
  refine ⟨trivial, ?_⟩
  rcases hrows : d.payments.filter P with _ | ⟨p, _ | ⟨q, rest⟩⟩
  · have hc : copied d op = none := copied_of_other fun p hp => by
      rw [hnamed, hrows] at hp
      cases hp
    refine (hnone hc).mono (fun _ h => h) ?_
    exact fun x d' _ h => ⟨fun hne => absurd hc hne, h⟩
  · show Ensures (fun _ => True) _ (body (some p)) d es
    rw [hsome p]
    have hmem : p ∈ d.payments := by
      have : p ∈ d.payments.filter P := by rw [hrows]; exact List.mem_singleton.mpr rfl
      exact (List.mem_filter.mp this).1
    have hget : Table.get d.payments p.id = some p := Table.get_eq_of_mem hu hmem
    have hc := copied_of_named hr (hnamed.trans hrows)
    refine (ensures_copyOver hconfirm hget hid (copiedColumns_amountRefunded op r)).mono (fun _ h => h) ?_
    rintro x d' es' ⟨hiff, hok⟩
    constructor
    · intro hne
      refine hiff.mpr (by_contra fun hfit => hne ?_)
      rw [hc, if_neg hfit]
    · intro hx
      obtain ⟨href, hmoney⟩ := hok hx
      rw [if_pos (hiff.mp hx)] at hc
      refine .of_rows href hmoney (hu.modify hid p.id) fun k q hq => ?_
      rw [written_of_some hc]
      dsimp only
      by_cases hk : p.id = q.id
      · have hkq : k = p.id := (Table.get_some hq).2.symm.trans hk.symm
        rw [if_pos hk, hkq, Table.get_modify_self hid, ← hkq, hq]
        rfl
      · have hkq : k ≠ p.id := fun h => hk (h.symm.trans (Table.get_some hq).2.symm)
        rw [if_neg hk, Table.get_modify_of_ne hid hkq, hq]
  · have hc : copied d op = none := copied_of_other fun p hp => by
      rw [hnamed, hrows] at hp
      cases hp
    exact ⟨fun hne => absurd hc hne, fun h => absurd h (by simp [Except.isOk, Except.toBool])⟩

/-- What a delivery to the MyFatoorah webhook does. -/
theorem ensures_myfatoorahWebhook {body : String} (hu : Table.Unique d.payments) :
    Ensures (fun _ => True) (fun x d' _ => (copied d (.myfatoorah body) ≠ none → x.isOk) ∧
        (x.isOk → Wrote d (.myfatoorah body) d')) (myfatoorahWebhook body) d es := by
  unfold myfatoorahWebhook
  rw [ensures_forSome]
  have hnothing : namedPayments d (.myfatoorah body) = [] → (copied d (.myfatoorah body) ≠ none →
      (Except.ok () : Except Error Unit).isOk) ∧
      ((Except.ok () : Except Error Unit).isOk → Wrote d (.myfatoorah body) d) := by
    intro h
    have hc : copied d (.myfatoorah body) = none := copied_of_other fun p hp => by
      rw [h] at hp
      cases hp
    exact ⟨fun hne => absurd hc hne, fun _ => .refl hu hc⟩
  constructor
  · intro hparse
    exact hnothing (by simp [namedPayments, hparse])
  intro r hparse
  rw [ensures_forSome]
  constructor
  · intro hinvoice
    exact hnothing (by simp [namedPayments, hparse, hinvoice])
  intro invoiceId hinvoice
  unfold processInvoice
  have hnamed : namedPayments d (.myfatoorah body) = d.payments.filter (namedByInvoice invoiceId) := by
    simp [namedPayments, hparse, hinvoice]
  refine ensures_found (confirmsQuietly_autoConfirm metaSnapshot) hu hparse hnamed (fun _ => rfl)
    fun hc => ?_
  refine ensures_createFromResponse.bind ?_ ?_
  · intro q d' es' hok
    obtain ⟨hzero, hnew, href, hrows⟩ := hok q rfl
    have hfits : ∀ q', Table.get d'.payments q.id = some q' → fitsNumeric q'.amountRefunded := by
      intro q' hq'
      have hget : Table.get (d.payments ++ [q]) q.id = some q := Table.get_append_new hnew
      rw [hrows, hget] at hq'
      cases hq'
      rw [hzero]
      decide
    refine (ensures_afterWrite (confirmsQuietly_autoConfirm metaSnapshot) hfits).mono
      (fun _ h => h) ?_
    intro x d'' es'' hmoney hx
    cases x with
    | error e => exact hmoney.elim
    | ok _ =>
      have hrows' : d''.payments.map moneyColumns = (d.payments ++ [q]).map moneyColumns := by
        rw [← hrows]
        exact congrArg Prod.snd hmoney
      refine .of_rows ((congrArg Prod.fst hmoney).trans href) hrows' (hu.append hnew) ?_
      intro k p hp
      rw [written_of_none hc, Table.get_append_of_some hp]
  · exact fun _ _ _ _ h => absurd h (by simp [Except.isOk, Except.toBool])

/-- What a delivery to the Tap webhook does. -/
theorem ensures_tapWebhook {body : String} (hu : Table.Unique d.payments) :
    Ensures (fun _ => True) (fun x d' _ => (copied d (.tap body) ≠ none → x.isOk) ∧
        (x.isOk → Wrote d (.tap body) d')) (tapWebhook body) d es := by
  unfold tapWebhook
  cases hparse : parseGatewayResponse (requestJson body) with
  | none =>
    have hc : copied d (.tap body) = none := copied_of_other fun p hp => by
      simp [namedPayments, hparse] at hp
    exact ⟨fun hne => absurd hc hne, fun h => absurd h (by simp [Except.isOk, Except.toBool])⟩
  | some r =>
    dsimp only
    rw [ensures_forSome]
    constructor
    · intro hcharge
      have hc : copied d (.tap body) = none := copied_of_other fun p hp => by
        simp [namedPayments, hparse, hcharge] at hp
      exact ⟨fun hne => absurd hc hne, fun _ => .refl hu hc⟩
    intro chargeId hcharge
    unfold processCharge
    have hnamed : namedPayments d (.tap body) = d.payments.filter (namedByCharge chargeId) := by
      simp [namedPayments, hparse, hcharge]
    refine ensures_found confirmsQuietly_autoConfirmTap hu hparse hnamed (fun _ => rfl) fun hc => ?_
    exact fun _ => .refl hu hc

/-- A step with a delivery. -/
theorem wrote_of_delivery (hu : Table.Unique d.payments) (hdelivery : op.isDelivery)
    (env : ℕ → Env) : Wrote d op (gatewayStep d (op, env)) := by
  have hcode : Ensures (fun _ => True) (fun x d' _ => (copied d op ≠ none → x.isOk) ∧
      (x.isOk → Wrote d op d')) (gatewayCode op) d [] := by
    cases op with
    | myfatoorah body => exact ensures_myfatoorahWebhook hu
    | tap body => exact ensures_tapWebhook hu
    | refund op => cases hdelivery
  have hrun := hcode.exec env
  unfold gatewayStep Transactions.atomically
  rcases hx : Transactions.exec env (gatewayCode op) d with ⟨e | a, d', es⟩
  · rw [hx] at hrun
    have hc : copied d op = none := by
      by_contra hne
      exact absurd (hrun.1 hne) (by simp [Except.isOk, Except.toBool])
    exact .refl hu hc
  · rw [hx] at hrun
    exact hrun.2 rfl

end Deliveries

end Payment
