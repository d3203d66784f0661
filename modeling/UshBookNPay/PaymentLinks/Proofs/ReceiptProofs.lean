import UshBookNPay.PaymentLinks.ReceiptRuns
import UshBookNPay.PaymentLinks.Proofs.NotActivatableProofs
import UshBookNPay.Payment.Proofs.WebhookProofs

/-!
# Where received money ends up

What `confirm_booking` makes of a booking, which payments a call of the payments API or of a webhook
makes successful, and when the money of a call has a place.
-/

open Transactions (Prog Ensures EnsuresUnder Keeps exec)
open Transactions
open Payment (moneyOf moneyColumns getMoney_of_map)

namespace PaymentLinks

/-! ## The standing of a booking -/

def standingColumns (b : BookingRow) : Booking.BookingStatus × Booking.PaymentStatus :=
  (b.status, b.paymentStatus)

/-- The status and the payment status of the booking. -/
def standing (bookingId : Uuid) (d : Db) : Option (Booking.BookingStatus × Booking.PaymentStatus) :=
  (Table.get d.bookings bookingId).map standingColumns

theorem standing_of_get {bookingId : Uuid} {d : Db} {b : BookingRow}
    (hb : Table.get d.bookings bookingId = some b) :
    standing bookingId d = some (standingColumns b) := by
  unfold standing
  rw [hb]
  rfl

theorem paidBooking_iff {bookingId : Uuid} {d : Db}
    {c : Booking.BookingStatus × Booking.PaymentStatus} (h : standing bookingId d = some c) :
    PaidBooking bookingId d ↔ c.2 = .success ∧ c.1 ∉ Booking.nonBlockingBookingStatuses := by
  obtain ⟨b, hb, rfl⟩ := Option.map_eq_some_iff.mp h
  unfold PaidBooking
  rw [hb]
  simp [standingColumns]

theorem keeps_standing_flushBooking {bookingId : Uuid} {o : Orm BookingRow}
    (hid : ∀ b, (o.changes b).id = b.id)
    (ho : ∀ b, standingColumns (o.changes b) = standingColumns b) :
    Keeps (standing bookingId) (flushBooking o) := by
  unfold flushBooking
  obtain ⟨a, ha⟩ : ∃ a, a = o.row.attribution := ⟨_, rfl⟩
  rw [← ha]
  refine (keeps_update _ fun d => ?_).bind fun _ => keeps_pure _
  have hkey : ∀ b, Table.Keyed.key ((o.changes b).setAttribution a) = Table.Keyed.key b := hid
  unfold standing
  by_cases h : bookingId = o.row.id
  · rw [h, Table.get_modify_self hkey, Option.map_map]
    refine Option.map_congr fun b _ => ?_
    exact ho b
  · rw [Table.get_modify_of_ne hkey h]

theorem keeps_standing_ensureInvoice {bookingId : Uuid} (b : BookingRow) :
    Keeps (standing bookingId) (Booking.ensureBookingInvoice b) := by
  have hinvoices : ∀ name, Keeps (standing bookingId) (Booking.setPaymentInvoices b.id name) :=
    fun _ => keeps_update _ fun _ => rfl
  unfold Booking.ensureBookingInvoice
  refine (keeps_pure _).ite (Keeps.ite ?_ ?_)
  · exact (hinvoices _).bind fun _ => keeps_pure _
  · refine (keeps_ask _).bind fun found => ?_
    rcases found with _ | ⟨_, name⟩
    · exact keeps_pure _
    · refine (keeps_pure _).ite ?_
      refine (keeps_standing_flushBooking (fun _ => rfl) fun _ => rfl).bind fun written => ?_
      exact (hinvoices _).bind fun _ => keeps_pure _

/-! ## The confirmation of a booking -/

/-- The booking after a confirmation has been tried. -/
def confirmedTo (b : BookingRow) : Booking.BookingStatus × Booking.PaymentStatus :=
  if Confirmable b then (.confirmed, .success) else standingColumns b

section Statements

variable {d : Db} {es : List Emission} {b : BookingRow}

/-- A booking that is written with columns of this standing has it. -/
theorem ensures_flushBooking_standing {f : BookingRow → BookingRow}
    {c : Booking.BookingStatus × Booking.PaymentStatus} (hid : ∀ r, (f r).id = r.id)
    (hf : standingColumns (f b) = c) (hb : Table.get d.bookings b.id = some b) :
    Ensures (fun _ => True) (Returns fun _ d' _ => standing b.id d' = some c)
      (flushBooking ((Orm.ofRow b).set f)) d es := by
  refine (ensures_writeBooking trivial).mono (fun _ h => h) ?_
  intro r d' es' h
  cases r with
  | error _ => exact h.elim
  | ok o =>
    obtain ⟨-, -, rfl⟩ := h
    have hrow : ((Orm.ofRow b).set f).row.id = b.id := hid b
    rw [hrow]
    generalize ((Orm.ofRow b).set f).row.attribution = a
    have hkey : ∀ r : BookingRow,
        Table.Keyed.key (((Orm.ofRow b).set f).changes r |>.setAttribution a) =
          Table.Keyed.key r := hid
    show (Table.get (Table.modify d.bookings b.id _) b.id).map standingColumns = some c
    rw [Table.get_modify_self hkey, hb]
    exact congrArg some hf

theorem ensures_getById_of_get (hb : Table.get d.bookings b.id = some b) :
    Ensures (fun _ => True) (Returns fun r d' es' => r = b ∧ d' = d ∧ es' = es)
      (Booking.getById b.id) d es := by
  unfold Booking.getById
  rw [ensures_bind_queryForUpdate, hb]
  exact ⟨trivial, rfl, rfl, rfl⟩

/-- What keeps the standing of a booking is left with it. -/
theorem ensures_standing {α : Type} {p : Tx α} {bookingId : Uuid}
    {c : Option (Booking.BookingStatus × Booking.PaymentStatus)}
    (hp : Keeps (standing bookingId) p) (hd : standing bookingId d = c) :
    Ensures (fun _ => True) (fun _ d' _ => standing bookingId d' = c) p d es :=
  (hp d es).mono (fun _ h => h) fun _ _ _ h => h.trans hd

/-- `confirm_booking` confirms and pays the booking, or leaves its standing alone. -/
theorem ensures_confirmBooking_standing {data : List (String × Json)} {source : String}
    (hb : Table.get d.bookings b.id = some b) :
    Ensures (fun _ => True) (fun _ d' _ => standing b.id d' = some (confirmedTo b))
      (Booking.confirmBooking b.id (some data) source) d es := by
  have hstanding := standing_of_get hb
  unfold Booking.confirmBooking
  refine (ensures_getById_of_get hb).bind_returns ?_
  rintro r _ _ ⟨hr, rfl, rfl⟩
  rw [hr]
  by_cases hconfirmed : b.status = .confirmed
  · rw [if_pos hconfirmed]
    have hc : confirmedTo b = (.confirmed, .success) := if_pos (.inl hconfirmed)
    rw [hc]
    have hpaid : standingColumns (Booking.paidColumns (some data) b) = (.confirmed, .success) := by
      show (b.status, Booking.PaymentStatus.success) = _
      rw [hconfirmed]
    have hid : ∀ r, (Booking.paidColumns (some data) r).id = r.id := fun _ => rfl
    refine (ensures_flushBooking_standing hid hpaid hb).bind_returns ?_
    intro written d₁ es₁ h
    exact ensures_standing (keeps_standing_ensureInvoice _) h
  · rw [if_neg hconfirmed]
    unfold Booking.transitionTo
    rw [ensures_bind_raiseIf]
    constructor
    · intro hno
      have hc : confirmedTo b = standingColumns b :=
        if_neg fun h => h.elim hconfirmed hno
      rw [hc]
      exact hstanding
    · intro hyes
      have hc : confirmedTo b = (.confirmed, .success) := if_pos (.inr (not_not.mp hyes))
      rw [hc]
      have hid : ∀ r, (Booking.confirmedColumns (some data) r).id = r.id := fun _ => rfl
      have hpaid : standingColumns (Booking.confirmedColumns (some data) b) =
          (.confirmed, .success) := rfl
      refine (ensures_flushBooking_standing hid hpaid hb).bind_returns ?_
      intro written d₁ es₁ h
      refine ensures_standing ?_ h
      have hhistory : ∀ row, Keeps (standing b.id) (addBookingHistory row) :=
        fun _ => keeps_update _ fun _ => rfl
      refine (hhistory _).bind fun _ => (keeps_standing_ensureInvoice _).bind fun _ => ?_
      exact (keeps_call _ _).bind fun _ => keeps_pure _

end Statements

/-! ## The payments a call makes successful -/

section Payments

variable {d d' : Db} {bookingId id : Uuid}

theorem succeeds_congr (h : d'.payments.map moneyColumns = d.payments.map moneyColumns) :
    Succeeds bookingId id d' ↔ Succeeds bookingId id d := by
  have hget := getMoney_of_map h id
  unfold Succeeds
  constructor
  · rintro ⟨p, hp, hstatus, hbooking⟩
    rw [hp] at hget
    obtain ⟨q, hq, heq⟩ := Option.map_eq_some_iff.mp hget.symm
    exact ⟨q, hq, (congrArg PaymentRow.status heq).trans hstatus,
      (congrArg PaymentRow.bookingId heq).trans hbooking⟩
  · rintro ⟨q, hq, hstatus, hbooking⟩
    rw [hq] at hget
    obtain ⟨p, hp, heq⟩ := Option.map_eq_some_iff.mp hget
    exact ⟨p, hp, (congrArg PaymentRow.status heq).trans hstatus,
      (congrArg PaymentRow.bookingId heq).trans hbooking⟩

/-- The payment a write has made successful is the one written. -/
theorem succeeds_written {p : PaymentRow} {columns : PaymentRow → PaymentRow}
    (hid : ∀ q, (columns q).id = q.id) (hp : Table.get d.payments p.id = some p)
    (hrows : d'.payments.map moneyColumns =
      (Table.modify d.payments p.id columns).map moneyColumns)
    (hnot : ¬ Succeeds bookingId id d) (h : Succeeds bookingId id d') :
    id = p.id ∧ (columns p).status = some .success ∧ (columns p).bookingId = some bookingId := by
  have hrows' : d'.payments.map moneyColumns =
      ({ d with payments := Table.modify d.payments p.id columns } : Db).payments.map
        moneyColumns := hrows
  obtain ⟨q, hq, hstatus, hbooking⟩ := (succeeds_congr hrows').mp h
  have hget : Table.get (Table.modify d.payments p.id columns) id = some q := hq
  by_cases hk : id = p.id
  · rw [hk, Table.get_modify_self hid, hp] at hget
    obtain rfl : columns p = q := by simpa using hget
    exact ⟨hk, hstatus, hbooking⟩
  · rw [Table.get_modify_of_ne hid hk] at hget
    exact absurd ⟨q, hget, hstatus, hbooking⟩ hnot

theorem succeeds_inserted {q : PaymentRow} (hrows : d'.payments = d.payments ++ [q])
    (hnot : ¬ Succeeds bookingId id d) (h : Succeeds bookingId id d') :
    id = q.id ∧ q.status = some .success ∧ q.bookingId = some bookingId := by
  obtain ⟨p, hp, hstatus, hbooking⟩ := h
  rw [hrows] at hp
  cases hget : Table.get d.payments id with
  | some r =>
    rw [Table.get_append_of_some hget] at hp
    obtain rfl : r = p := by simpa using hp
    exact absurd ⟨r, hget, hstatus, hbooking⟩ hnot
  | none =>
    have hmem := (Table.get_some hp).1
    rcases List.mem_append.mp hmem with hmem | hmem
    · exact absurd (Table.get_some hp).2 (Table.get_none hget hmem)
    · obtain rfl := List.mem_singleton.mp hmem
      exact ⟨(Table.get_some hp).2.symm, hstatus, hbooking⟩

end Payments

/-- A call of the payments API or of a webhook has left the refunds alone, and where it has made a
payment of the booking successful, it has tried to confirm the booking just where `confirms` says. -/
structure Received (b : BookingRow) (confirms : Uuid → Prop) (d d' : Db) : Prop where
  refunds : d'.refunds = d.refunds
  confirmed : ∀ id, ¬ Succeeds b.id id d → Succeeds b.id id d' → confirms id →
    standing b.id d' = some (confirmedTo b)
  left : ∀ id, ¬ Succeeds b.id id d → Succeeds b.id id d' → ¬ confirms id →
    standing b.id d' = some (standingColumns b)

theorem Received.refl {b : BookingRow} {confirms : Uuid → Prop} (d : Db) : Received b confirms d d :=
  ⟨rfl, fun _ hnot h => absurd h hnot, fun _ hnot h => absurd h hnot⟩

section Calls

theorem ensures_isOk {α : Type} {p : Tx α} {Q : Db → Prop} {d : Db} {es : List Emission}
    (h : Ensures (fun _ => True) (fun _ d' _ => Q d') p d es) :
    Ensures (fun _ => True) (fun x d' _ => x.isOk → Q d') p d es := by
  refine h.mono (fun _ h => h) ?_
  exact fun _ _ _ h _ => h

variable {d d₁ : Db} {es : List Emission} {b : BookingRow} {confirms : Uuid → Prop}

/-- The rest of a call that has written the payment `q`: it is to confirm the booking of a successful
`q`. -/
theorem received_confirming {p : Tx Unit} {q : PaymentRow} (hrefunds : d₁.refunds = d.refunds)
    (hnew : ∀ id, ¬ Succeeds b.id id d → Succeeds b.id id d₁ →
      confirms id ∧ q.status = some .success ∧ q.bookingId = some b.id)
    (hmoney : Keeps moneyOf p)
    (hstanding : q.status = some .success → q.bookingId = some b.id →
      Ensures (fun _ => True) (fun _ d' _ => standing b.id d' = some (confirmedTo b)) p d₁ es) :
    Ensures (fun _ => True) (fun _ d' _ => Received b confirms d d') p d₁ es := by
  have hback : ∀ {d' : Db} {id : Uuid}, moneyOf d' = moneyOf d₁ → Succeeds b.id id d' →
      Succeeds b.id id d₁ := fun h => (succeeds_congr (congrArg Prod.snd h)).mp
  by_cases hq : q.status = some .success ∧ q.bookingId = some b.id
  · refine ((hmoney d₁ es).and (hstanding hq.1 hq.2)).mono (fun _ h => h) ?_
    rintro r d' es' ⟨hm, hs⟩
    refine ⟨(congrArg Prod.fst hm).trans hrefunds, fun _ _ _ _ => hs, ?_⟩
    intro id hnot h hno
    exact absurd (hnew id hnot (hback hm h)).1 hno
  · refine (hmoney d₁ es).mono (fun _ h => h) ?_
    intro r d' es' hm
    refine ⟨(congrArg Prod.fst hm).trans hrefunds, ?_, ?_⟩
    · exact fun id hnot h _ => absurd (hnew id hnot (hback hm h)).2 hq
    · exact fun id hnot h _ => absurd (hnew id hnot (hback hm h)).2 hq

/-- The rest of a call that confirms nothing. -/
theorem received_leaving {p : Tx Unit} (hb : Table.get d.bookings b.id = some b)
    (hrefunds : d₁.refunds = d.refunds) (hbookings : d₁.bookings = d.bookings)
    (hnew : ∀ id, ¬ Succeeds b.id id d → Succeeds b.id id d₁ → ¬ confirms id)
    (hmoney : Keeps moneyOf p) (hkeeps : Keeps Db.bookings p) :
    Ensures (fun _ => True) (fun _ d' _ => Received b confirms d d') p d₁ es := by
  refine ((hmoney d₁ es).and (hkeeps d₁ es)).mono (fun _ h => h) ?_
  rintro r d' es' ⟨hm, hbooks⟩
  have hback : ∀ {id : Uuid}, Succeeds b.id id d' → Succeeds b.id id d₁ :=
    (succeeds_congr (congrArg Prod.snd hm)).mp
  have hstanding : standing b.id d' = some (standingColumns b) := by
    unfold standing
    rw [show d'.bookings = d₁.bookings from hbooks, hbookings, hb]
    rfl
  refine ⟨(congrArg Prod.fst hm).trans hrefunds, ?_, fun _ _ _ _ => hstanding⟩
  exact fun id hnot h hyes => absurd hyes (hnew id hnot (hback h))

end Calls

/-! ## What the parts of a call leave alone -/

/-- The money columns of the payments, the refunds and the bookings. -/
def recordOf (d : Db) : (List RefundRow × List PaymentRow) × List BookingRow :=
  (moneyOf d, d.bookings)

theorem keeps_money {α : Type} {p : Tx α} (hp : Keeps recordOf p) : Keeps moneyOf p :=
  hp.comp Prod.fst

theorem keeps_bookings {α : Type} {p : Tx α} (hp : Keeps recordOf p) : Keeps Db.bookings p :=
  hp.comp Prod.snd

theorem keeps_standing {α : Type} {p : Tx α} (hp : Keeps Db.bookings p) (bookingId : Uuid) :
    Keeps (standing bookingId) p :=
  hp.comp fun rows => (Table.get rows bookingId).map standingColumns

theorem keeps_bookings_flushPayment (o : Orm PaymentRow) : Keeps Db.bookings (flushPayment o) := by
  unfold flushPayment
  refine (keeps_checkedUpdate _ _ fun d => ?_).bind fun _ => keeps_pure _
  rfl

theorem keeps_record_takeInvoice (p : PaymentRow) (booking : BookingRow) :
    Keeps recordOf (Payment.takeInvoice p booking) := by
  unfold Payment.takeInvoice
  refine (keeps_query _).bind fun current => keeps_forSome _ fun q => Keeps.map ?_ _
  intro d es
  have hmoney := Payment.keeps_flushPayment
    (o := (Orm.ofRow q).set (Payment.setInvoice booking.invoiceNumber)) (fun _ => rfl)
  have hbookings := keeps_bookings_flushPayment
    ((Orm.ofRow q).set (Payment.setInvoice booking.invoiceNumber))
  refine ((hmoney d es).and (hbookings d es)).mono (fun _ h => h) ?_
  exact fun _ _ _ h => Prod.ext h.1 h.2

theorem keeps_record_notify (paymentId : Uuid) :
    Keeps recordOf (Payment.notifyInvoicePaid paymentId) := by
  unfold Payment.notifyInvoicePaid
  exact (keeps_query _).bind fun _ => keeps_forSome _ fun _ => keeps_call _ _

theorem keeps_record_autoConfirmTap (p : PaymentRow) :
    Keeps recordOf (Payment.autoConfirmTap p) :=
  keeps_forSome _ fun _ => (keeps_attempt (keeps_throw _)).map _

theorem keeps_record_recordOnVoucher (voucherId : Option Uuid) (fields : List (String × Json))
    (voucherNumber : Option String) :
    Keeps recordOf (Payment.recordOnVoucher voucherId fields voucherNumber) := by
  unfold Payment.recordOnVoucher
  refine keeps_forSome _ fun id => (keeps_query _).bind fun row => keeps_forSome _ fun v => ?_
  unfold flushVoucher
  refine Keeps.map ((keeps_update _ fun d => ?_).bind fun _ => keeps_pure _) _
  rfl

theorem keeps_record_addHistory (row : PaymentStatusHistoryRow) :
    Keeps recordOf (addPaymentHistory row) := keeps_update _ fun _ => rfl

theorem keeps_money_autoConfirm (snapshot : PaymentRow → List (String × Json)) (p : PaymentRow) :
    Keeps moneyOf (Payment.autoConfirm snapshot p) := by
  unfold Payment.autoConfirm
  refine keeps_forSome _ fun bid => ?_
  refine (keeps_attempt (Payment.keeps_confirmBooking _ _ _)).bind fun confirmed => ?_
  exact keeps_forSome _ fun b => keeps_money (keeps_record_takeInvoice p b)

theorem keeps_money_recordOnBooking (p : PaymentRow) (b : BookingRow) :
    Keeps moneyOf (Payment.recordOnBooking p b) := by
  unfold Payment.recordOnBooking
  dsimp only
  refine Keeps.ite ?_ (Payment.keeps_flushBooking.map _)
  refine (keeps_attempt (Payment.keeps_confirmBooking _ _ _)).bind fun confirmed => ?_
  cases confirmed with
  | ok b => exact keeps_money (keeps_record_takeInvoice p b)
  | error e => exact Payment.keeps_flushBooking.map _

theorem keeps_bookings_updatePayment {columns : PaymentRow → PaymentRow}
    {history : Option Payment.PaymentStatus → PaymentRow → PaymentStatusHistoryRow}
    (p : PaymentRow) : Keeps Db.bookings (Payment.updatePayment columns history p) := by
  unfold Payment.updatePayment
  refine (keeps_raiseIf _ _).bind fun _ => ?_
  refine (keeps_bookings_flushPayment _).bind fun written => ?_
  refine (keeps_forSome _ fun old => keeps_bookings (keeps_record_addHistory _)).bind fun _ => ?_
  exact keeps_pure _

theorem keeps_bookings_insertPayment (p : PaymentRow) : Keeps Db.bookings (insertPayment p) := by
  unfold insertPayment
  refine (keeps_checkedUpdate _ _ fun d => ?_).bind fun _ => keeps_pure _
  rfl

theorem keeps_bookings_generateNumber : Keeps Db.bookings generatePaymentNumber := by
  unfold generatePaymentNumber
  refine (keeps_ask _).bind fun month => ?_
  exact (keeps_queryForUpdate _ _).bind fun _ => keeps_query _

theorem keeps_bookings_insertNumbered (attempts : ℕ) (p : PaymentRow) :
    Keeps Db.bookings (Payment.insertNumbered p attempts) := by
  induction attempts generalizing p with
  | zero => exact keeps_bookings_insertPayment p
  | succ n ih =>
    unfold Payment.insertNumbered
    refine (keeps_attempt (keeps_bookings_insertPayment p)).bind fun r => ?_
    cases r with
    | ok q => exact keeps_pure q
    | error e => exact keeps_bookings_generateNumber.bind fun number => ih _

theorem keeps_bookings_createFromResponse (r : Payment.GatewayResponse) :
    Keeps Db.bookings (Payment.createFromResponse r) := by
  unfold Payment.createFromResponse
  have hreferred : Keeps Db.bookings (Payment.referredBooking r) := by
    unfold Payment.referredBooking
    split
    · exact keeps_pure _
    · exact (keeps_query _).bind fun _ => keeps_pure _
  refine hreferred.bind fun found => keeps_bookings_generateNumber.bind fun number => ?_
  refine (keeps_ask _).bind fun _ => (keeps_ask _).bind fun _ => (keeps_ask _).bind fun _ => ?_
  exact (keeps_raiseIf _ _).bind fun _ => keeps_bookings_insertNumbered 4 _

/-! ## Confirming the booking of a payment -/

section Confirming

variable {d : Db} {es : List Emission} {b : BookingRow}

theorem ensures_attempt_confirm {data : List (String × Json)} {source : String}
    (hb : Table.get d.bookings b.id = some b) :
    Ensures (fun _ => True) (fun _ d' _ => standing b.id d' = some (confirmedTo b))
      (attempt (fun _ => true) (Booking.confirmBooking b.id (some data) source)) d es := by
  refine (ensures_confirmBooking_standing hb).attempt ?_ ?_ ?_
  · exact fun _ _ _ h => h
  · exact fun _ _ _ _ h => h
  · exact fun _ _ _ _ h => h

theorem ensures_autoConfirm_standing {snapshot : PaymentRow → List (String × Json)}
    {q : PaymentRow} (hb : Table.get d.bookings b.id = some b) (hstatus : q.status = some .success)
    (hbooking : q.bookingId = some b.id) :
    Ensures (fun _ => True) (fun _ d' _ => standing b.id d' = some (confirmedTo b))
      (Payment.autoConfirm snapshot q) d es := by
  unfold Payment.autoConfirm
  rw [if_pos hstatus, hbooking]
  refine (ensures_attempt_confirm hb).bind ?_ ?_
  · intro confirmed d' es' h
    refine ensures_standing (keeps_forSome _ fun booking => ?_) h
    exact keeps_standing (keeps_bookings (keeps_record_takeInvoice q booking)) b.id
  · exact fun _ _ _ h => h

theorem ensures_recordOnBooking_standing {q : PaymentRow}
    (hb : Table.get d.bookings b.id = some b) (hstatus : q.status = some .success) :
    Ensures (fun _ => True) (fun _ d' _ => standing b.id d' = some (confirmedTo b))
      (Payment.recordOnBooking q b) d es := by
  unfold Payment.recordOnBooking
  dsimp only
  rw [if_pos hstatus]
  refine (ensures_attempt_confirm hb).bind ?_ ?_
  · intro confirmed d' es' h
    cases confirmed with
    | ok booking =>
      exact ensures_standing
        (keeps_standing (keeps_bookings (keeps_record_takeInvoice q booking)) b.id) h
    | error e =>
      refine ensures_standing (Keeps.map ?_ _) h
      exact keeps_standing_flushBooking (fun _ => rfl) fun _ => rfl
  · exact fun _ _ _ h => h

end Confirming

/-! ## The webhooks -/

section Webhooks

variable {d : Db} {es : List Emission} {b : BookingRow}

/-- The payment a call writes over an existing one, and what follows. -/
theorem ensures_written_received {columns : PaymentRow → PaymentRow}
    {history : Option Payment.PaymentStatus → PaymentRow → PaymentStatusHistoryRow}
    {p : PaymentRow} {rest : PaymentRow → Tx Unit} {confirms : Uuid → Prop}
    (hid : ∀ q, (columns q).id = q.id) (hrefunded : ∀ q, (columns q).amountRefunded = q.amountRefunded)
    (hrest : ∀ q d₁ es₁, moneyColumns q = moneyColumns (columns p) → d₁.refunds = d.refunds →
      d₁.bookings = d.bookings →
      d₁.payments.map moneyColumns = (Table.modify d.payments p.id columns).map moneyColumns →
      Ensures (fun _ => True) (fun _ d' _ => Received b confirms d d') (rest q) d₁ es₁) :
    Ensures (fun _ => True) (fun x d' _ => x.isOk → Received b confirms d d')
      (do let payment ← Payment.updatePayment columns history p
          rest payment) d es := by
  refine ((Payment.ensures_updatePayment hid hrefunded).and
    (keeps_bookings_updatePayment p d es)).bind ?_ ?_
  · rintro q d₁ es₁ ⟨⟨-, hok⟩, hbookings⟩
    obtain ⟨hq, hrefunds, hrows⟩ := hok q rfl
    exact ensures_isOk (hrest q d₁ es₁ hq hrefunds hbookings hrows)
  · exact fun _ _ _ _ h => absurd h (by simp [Except.isOk, Except.toBool])

theorem ensures_myfatoorahWebhook_received {body : String} (hu : Table.Unique d.payments)
    (hb : Table.get d.bookings b.id = some b) :
    Ensures (fun _ => True) (fun x d' _ => x.isOk → Received b (fun _ => True) d d')
      (Payment.myfatoorahWebhook body) d es := by
  have hafter : ∀ q d₁ es₁, d₁.refunds = d.refunds → d₁.bookings = d.bookings →
      (∀ id, ¬ Succeeds b.id id d → Succeeds b.id id d₁ →
        q.status = some .success ∧ q.bookingId = some b.id) →
      Ensures (fun _ => True) (fun _ d' _ => Received b (fun _ => True) d d')
        (do Payment.autoConfirm Payment.metaSnapshot q
            Payment.notifyInvoicePaid q.id) d₁ es₁ := by
    intro q d₁ es₁ hrefunds hbookings hnew
    have hnotify := keeps_record_notify q.id
    have hmoney : Keeps moneyOf (do
        Payment.autoConfirm Payment.metaSnapshot q
        Payment.notifyInvoicePaid q.id) :=
      (keeps_money_autoConfirm _ q).bind fun _ => keeps_money hnotify
    refine received_confirming hrefunds (fun id hnot h => ⟨trivial, hnew id hnot h⟩) hmoney ?_
    intro hstatus hbooking
    refine (ensures_autoConfirm_standing (hbookings ▸ hb) hstatus hbooking).bind ?_ ?_
    · exact fun _ _ _ h => ensures_standing (keeps_standing (keeps_bookings hnotify) b.id) h
    · exact fun _ _ _ h => h
  unfold Payment.myfatoorahWebhook
  rw [ensures_forSome]
  refine ⟨fun _ _ => .refl d, fun r _ => ?_⟩
  rw [ensures_forSome]
  refine ⟨fun _ _ => .refl d, fun invoiceId _ => ?_⟩
  unfold Payment.processInvoice
  rw [ensures_bind_query]
  refine ⟨trivial, (ensures_scalarOneOrNone _).bind_reads ?_ ?_⟩
  · intro found hfound
    cases found with
    | none =>
      refine (Payment.ensures_createFromResponse.and
        (keeps_bookings_createFromResponse r d es)).bind ?_ ?_
      · rintro q d₁ es₁ ⟨hok, hbookings⟩
        obtain ⟨-, -, hrefunds, hrows⟩ := hok q rfl
        have hnew : ∀ id, ¬ Succeeds b.id id d → Succeeds b.id id d₁ →
            q.status = some .success ∧ q.bookingId = some b.id :=
          fun id hnot h => (succeeds_inserted hrows hnot h).2
        exact ensures_isOk (hafter q d₁ es₁ hrefunds hbookings hnew)
      · exact fun _ _ _ _ h => absurd h (by simp [Except.isOk, Except.toBool])
    | some p =>
      have hmem := (List.mem_filter.mp (List.mem_of_head? hfound.symm)).1
      have hp : Table.get d.payments p.id = some p := Table.get_eq_of_mem hu hmem
      have hid : ∀ q, (Payment.myfatoorahColumns r q).id = q.id := fun _ => rfl
      refine ensures_written_received hid (fun _ => rfl) ?_
      intro q d₁ es₁ hq hrefunds hbookings hrows
      refine hafter q d₁ es₁ hrefunds hbookings fun id hnot h => ?_
      obtain ⟨-, hstatus, hbooking⟩ := succeeds_written hid hp hrows hnot h
      exact ⟨(congrArg PaymentRow.status hq).trans hstatus,
        (congrArg PaymentRow.bookingId hq).trans hbooking⟩
  · exact fun _ h => absurd h (by simp [Except.isOk, Except.toBool])

theorem ensures_tapWebhook_received {body : String} (hb : Table.get d.bookings b.id = some b) :
    Ensures (fun _ => True) (fun x d' _ => x.isOk → Received b (fun _ => False) d d')
      (Payment.tapWebhook body) d es := by
  unfold Payment.tapWebhook
  split
  · exact fun h => absurd h (by simp [Except.isOk, Except.toBool])
  rename_i r _
  rw [ensures_forSome]
  refine ⟨fun _ _ => .refl d, fun chargeId _ => ?_⟩
  unfold Payment.processCharge
  rw [ensures_bind_query]
  refine ⟨trivial, (ensures_scalarOneOrNone _).bind_reads ?_ ?_⟩
  · intro found _
    rw [ensures_forSome]
    refine ⟨fun _ _ => .refl d, fun p _ => ?_⟩
    refine ensures_written_received (fun _ => rfl) (fun _ => rfl) ?_
    intro q d₁ es₁ _ hrefunds hbookings _
    have hrest : Keeps recordOf (do
        Payment.autoConfirmTap q
        Payment.notifyInvoicePaid q.id) :=
      (keeps_record_autoConfirmTap q).bind fun _ => keeps_record_notify q.id
    exact received_leaving hb hrefunds hbookings (fun _ _ _ h => h) (keeps_money hrest)
      (keeps_bookings hrest)
  · exact fun _ h => absurd h (by simp [Except.isOk, Except.toBool])

end Webhooks

/-! ## The payments API -/

section Api

variable {d : Db} {es : List Emission} {b : BookingRow} {confirms : Uuid → Prop}

/-- A payment there is already is filled in, and no booking is confirmed. -/
theorem ensures_filled_received {columns : PaymentRow → PaymentRow} {p : PaymentRow}
    (hb : Table.get d.bookings b.id = some b) (hp : Table.get d.payments p.id = some p)
    (hid : ∀ q, (columns q).id = q.id)
    (hno : (columns p).bookingId = some b.id → ∀ id, ¬ confirms id) :
    Ensures (fun _ => True) (fun x d' _ => x.isOk → ∀ {rest : Tx Unit} (es' : List Emission),
        Keeps recordOf rest →
        Ensures (fun _ => True) (fun _ d'' _ => Received b confirms d d'') rest d' es')
      (discard (flushPayment ((Orm.ofRow p).set columns)) : Tx Unit) d es := by
  show Ensures _ _ ((fun _ => ()) <$> _) d es
  rw [ensures_map]
  refine (ensures_writePayment trivial).mono (fun _ h => h) ?_
  rintro r d' es' ⟨-, -, hok⟩
  cases r with
  | error e => exact fun h => absurd h (by simp [Except.isOk, Except.toBool])
  | ok o =>
    obtain ⟨-, rfl⟩ := hok o rfl
    have hrow : ((Orm.ofRow p).set columns).row.id = p.id := hid p
    rw [hrow]
    intro _ rest _ hrest
    have hrows := Payment.modify_setAttribution d.payments p.id columns
      ((Orm.ofRow p).set columns).row.attribution
    refine received_leaving hb rfl rfl ?_ (keeps_money hrest) (keeps_bookings hrest)
    exact fun id hnot h => hno (succeeds_written hid hp hrows hnot h).2.2 id

/-- A described payment is inserted. -/
theorem ensures_insertDescribed {body : Payment.CreatePaymentRequest} {described : PaymentRow} :
    Ensures (fun _ => True) (fun x d' _ => ∀ q, x = .ok q →
        q.bookingId = described.bookingId ∧ d'.refunds = d.refunds ∧ d'.bookings = d.bookings ∧
          d'.payments = d.payments ++ [q])
      (Payment.insertDescribed body described) d es := by
  unfold Payment.insertDescribed
  rw [ensures_bind_raiseIf]
  refine ⟨fun _ _ h => (nomatch h), fun _ => ?_⟩
  split
  · rw [ensures_bind_ask]
    refine ⟨trivial, fun a => ?_⟩
    refine (Payment.ensures_insertPayment_new.and (keeps_bookings_insertPayment _ d es)).mono
      (fun _ h => h) ?_
    rintro r d' es' ⟨⟨-, hok⟩, hbookings⟩ q hq
    have h := hok q hq
    exact ⟨h.booking, h.refunds, hbookings, h.rows⟩
  · refine (ensures_generatePaymentNumber trivial).bind_returns ?_
    rintro number _ _ ⟨rfl, rfl⟩
    rw [ensures_bind_ask]
    refine ⟨trivial, fun a => ?_⟩
    refine ((Payment.ensures_insertNumbered 4).and (keeps_bookings_insertNumbered 4 _ _ _)).mono
      (fun _ h => h) ?_
    rintro r d' es' ⟨hok, hbookings⟩ q hq
    have h := hok q hq
    exact ⟨h.booking, h.refunds, hbookings, h.rows⟩

theorem ensures_recordPayment_received {body : Payment.CreatePaymentRequest}
    {booking : Option BookingRow} {described : PaymentRow}
    (hb : Table.get d.bookings b.id = some b) (hdescribed : described.bookingId = body.bookingId)
    (hbooking : body.bookingId = some b.id → booking = some b ∧ ∀ id, confirms id) :
    Ensures (fun _ => True) (fun x d' _ => x.isOk → Received b confirms d d')
      (Payment.recordPayment body booking described) d es := by
  unfold Payment.recordPayment
  refine ensures_insertDescribed.bind ?_ ?_
  · intro q d₁ es₁ hok
    obtain ⟨hqb, hrefunds, hbookings, hrows⟩ := hok q rfl
    have hvoucher : ∀ current : Option PaymentRow, Keeps recordOf (Prog.forSome current fun p =>
        Payment.recordOnVoucher p.voucherId (Payment.voucherFields p ++
          [("status", .ofText (p.status.map Payment.PaymentStatus.value))]) p.voucherNumber) :=
      fun _ => keeps_forSome _ fun p => keeps_record_recordOnVoucher _ _ _
    refine ensures_isOk (received_confirming hrefunds (q := q) ?_ ?_ ?_)
    · intro id hnot h
      obtain ⟨-, hstatus, hqb'⟩ := succeeds_inserted hrows hnot h
      exact ⟨(hbooking (hdescribed ▸ hqb ▸ hqb')).2 id, hstatus, hqb'⟩
    · refine (keeps_money (keeps_record_addHistory _)).bind fun _ => ?_
      refine (keeps_forSome _ fun b => keeps_money_recordOnBooking q b).bind fun _ => ?_
      exact (keeps_query _).bind fun current => keeps_money (hvoucher current)
    · intro hstatus hqb'
      obtain ⟨hsome, -⟩ := hbooking (hdescribed ▸ hqb ▸ hqb')
      have hb₁ : Table.get d₁.bookings b.id = some b := hbookings ▸ hb
      have hhistory : ∀ row, Ensures (fun _ => True)
          (Returns fun _ d' _ => d'.bookings = d₁.bookings) (addPaymentHistory row) d₁ es₁ :=
        fun row => (ensures_update _ _).mpr ⟨trivial, rfl⟩
      refine (hhistory _).bind_returns ?_
      intro u d₂ es₂ hbookings₂
      rw [hsome]
      refine (ensures_recordOnBooking_standing (hbookings₂ ▸ hb₁) hstatus).bind ?_ ?_
      · intro u d₃ es₃ h
        refine ensures_standing ((keeps_query _).bind fun current => ?_) h
        exact keeps_standing (keeps_bookings (hvoucher current)) b.id
      · exact fun _ _ _ h => h
  · exact fun _ _ _ _ h => absurd h (by simp [Except.isOk, Except.toBool])

/-- `create_payment` confirms the booking where it has no payment yet. -/
theorem ensures_createPayment_received {body : Payment.CreatePaymentRequest}
    (hu : Table.Unique d.payments) (hb : Table.get d.bookings b.id = some b) :
    Ensures (fun _ => True)
      (fun x d' _ => x.isOk → Received b (Confirms b.id · d (.createPayment body)) d d')
      (Payment.Api.createPayment body) d es := by
  unfold Payment.Api.createPayment
  rw [ensures_bind_query]
  refine ⟨trivial, ?_⟩
  have hresolve : Ensures (fun _ => True) (Returns fun _ d' es' => d = d' ∧ es = es')
      (Payment.resolveVoucher body.voucherId body.voucherNumber) d es := by
    unfold Payment.resolveVoucher
    exact (ensures_query _).mpr ⟨trivial, rfl, rfl⟩
  refine hresolve.bind_returns ?_
  rintro voucher _ _ ⟨rfl, rfl⟩
  rw [ensures_bind_ask]
  refine ⟨trivial, fun a => ?_⟩
  generalize hdescribed : Payment.describedPayment body
    (body.bookingId.bind (Table.get d.bookings)) voucher a.now = described
  have hbookingId : described.bookingId = body.bookingId := hdescribed ▸ rfl
  have hraise : ∀ e : Error, (Except.error e : Except Error Unit).isOk →
      Received b (Confirms b.id · d (.createPayment body)) d d :=
    fun _ h => absurd h (by simp [Except.isOk, Except.toBool])
  cases hbid : body.bookingId with
  | some bid =>
    rw [hbid] at hbookingId
    show Ensures _ _ (Prog.query (fun d : Db => d.payments.find? _) >>= _) d es
    rw [ensures_bind_query]
    refine ⟨trivial, ?_⟩
    cases hfind : d.payments.find? (fun p => decide (p.bookingId = some bid)) with
    | some p =>
      have hmem := List.mem_of_find?_eq_some hfind
      have hof : p.bookingId = some bid := by simpa using List.find?_some hfind
      have hp : Table.get d.payments p.id = some p := Table.get_eq_of_mem hu hmem
      have hno : (Payment.filledColumns body described p).bookingId = some b.id →
          ∀ id, ¬ Confirms b.id id d (.createPayment body) :=
        fun h id hconfirms => hconfirms.2 p hmem h
      dsimp only
      rw [ensures_bind_raiseIf]
      refine ⟨fun _ => hraise _, fun _ => ?_⟩
      have hid : ∀ q, (Payment.filledColumns body described q).id = q.id := fun _ => rfl
      refine (ensures_filled_received hb hp hid hno).mono (fun _ h => h) ?_
      exact fun r d' es' h hr => h hr es' (keeps_pure ())
    | none =>
      refine ensures_recordPayment_received hb (hbookingId.trans hbid.symm) fun h => ?_
      rw [hbid] at h
      cases h
      refine ⟨hb, fun id => ⟨hbid, fun p hp hof => ?_⟩⟩
      simpa [hof] using List.find?_eq_none.mp hfind p hp
  | none =>
    have hrecord : Ensures (fun _ => True)
        (fun x d' _ => x.isOk → Received b (Confirms b.id · d (.createPayment body)) d d')
        (Payment.recordPayment body none described) d es := by
      refine ensures_recordPayment_received hb (hdescribed ▸ rfl) fun h => ?_
      rw [hbid] at h
      cases h
    cases hv : voucher.1 with
    | none => exact hrecord
    | some voucherId =>
      show Ensures _ _ (Prog.query (fun d : Db => (d.payments.filter _).getLast?) >>= _) d es
      rw [ensures_bind_query]
      refine ⟨trivial, ?_⟩
      cases hlast : (d.payments.filter fun p => decide (p.voucherId = some voucherId)).getLast? with
      | none => exact hrecord
      | some p =>
        have hmem := (List.mem_filter.mp (List.mem_of_getLast? hlast)).1
        have hp : Table.get d.payments p.id = some p := Table.get_eq_of_mem hu hmem
        have hno : ∀ id, ¬ Confirms b.id id d (.createPayment body) := by
          intro id hconfirms
          have h := hconfirms.1
          rw [hbid] at h
          cases h
        dsimp only
        rw [ensures_bind_raiseIf]
        refine ⟨fun _ => hraise _, fun _ => ?_⟩
        have hid : ∀ value q, (Payment.filledVoucherColumns body described value q).id = q.id := by
          intro value q
          unfold Payment.filledVoucherColumns
          rfl
        generalize Payment.resolvedInvoiceValue body _ _ = value
        refine (ensures_filled_received hb hp (hid value) fun _ => hno).bind ?_ ?_
        · intro u d₁ es₁ h
          exact ensures_isOk (h rfl es₁ (keeps_record_recordOnVoucher _ _ _))
        · exact fun _ _ _ _ h => absurd h (by simp [Except.isOk, Except.toBool])

theorem keeps_voucherOf (p : PaymentRow) : Keeps id (Payment.voucherOf p) := by
  unfold Payment.voucherOf
  split
  · exact (keeps_pure _).ite (keeps_query _)
  · refine Keeps.ite ((keeps_query _).bind fun rows => ?_) (keeps_pure _)
    refine Keeps.bind ?_ fun _ => keeps_pure _
    rcases rows with _ | ⟨v, _ | ⟨w, rows⟩⟩
    · exact keeps_pure _
    · exact keeps_pure _
    · exact keeps_throw _

theorem keeps_checkNumber (paymentId : Uuid) (paymentNumber : Option String) :
    Keeps id (Payment.checkNumber paymentId paymentNumber) := by
  unfold Payment.checkNumber
  exact keeps_forSome _ fun _ => (keeps_query _).bind fun _ => keeps_raiseIf _ _

/-- The rest of `update_payment`, which writes the payment with new columns. -/
theorem ensures_changed_received {columns : PaymentRow → PaymentRow}
    {history : Option Payment.PaymentStatus → PaymentRow → PaymentStatusHistoryRow}
    {p : PaymentRow} {paymentId : Uuid} {body : Payment.UpdatePaymentRequest} {actorId : String}
    (hb : Table.get d.bookings b.id = some b) (hget : Table.get d.payments paymentId = some p)
    (hid : ∀ q, (columns q).id = q.id) (hrefunded : ∀ q, (columns q).amountRefunded = q.amountRefunded) :
    Ensures (fun _ => True)
      (fun x d' _ => x.isOk →
        Received b (Confirms b.id · d (.updatePayment paymentId body actorId)) d d')
      (do let payment ← Payment.updatePayment columns history p
          if payment.status = p.status then pure ()
          else do
            Payment.autoConfirm Payment.paymentMetaSnapshot payment
            Payment.notifyInvoicePaid payment.id) d es := by
  have hpid : p.id = paymentId := (Table.get_some hget).2
  have hp : Table.get d.payments p.id = some p := hpid ▸ hget
  refine ensures_written_received hid hrefunded ?_
  intro q d₁ es₁ hq hrefunds hbookings hrows
  have hnew : ∀ id, ¬ Succeeds b.id id d → Succeeds b.id id d₁ →
      id = p.id ∧ q.status = some .success ∧ q.bookingId = some b.id := by
    intro id hnot h
    obtain ⟨hk, hstatus, hbooking⟩ := succeeds_written hid hp hrows hnot h
    exact ⟨hk, (congrArg PaymentRow.status hq).trans hstatus,
      (congrArg PaymentRow.bookingId hq).trans hbooking⟩
  by_cases hsame : q.status = p.status
  · rw [if_pos hsame]
    refine received_leaving hb hrefunds hbookings ?_ (keeps_pure ()) (keeps_pure ())
    intro id hnot h hconfirms
    obtain ⟨rfl, hstatus, -⟩ := hnew id hnot h
    exact hconfirms p hp (hsame ▸ hstatus)
  · rw [if_neg hsame]
    have hnotify := keeps_record_notify q.id
    have hmoney : Keeps moneyOf (do
        Payment.autoConfirm Payment.paymentMetaSnapshot q
        Payment.notifyInvoicePaid q.id) :=
      (keeps_money_autoConfirm _ q).bind fun _ => keeps_money hnotify
    refine received_confirming (q := q) hrefunds ?_ hmoney ?_
    · intro id hnot h
      obtain ⟨rfl, hstatus, hbooking⟩ := hnew id hnot h
      refine ⟨fun p' hp' => ?_, hstatus, hbooking⟩
      have hp'' : Table.get d.payments p.id = some p' := hp'
      rw [hp] at hp''
      obtain rfl : p = p' := by simpa using hp''
      exact fun h => hsame (hstatus.trans h.symm)
    · intro hstatus hbooking
      refine (ensures_autoConfirm_standing (hbookings ▸ hb) hstatus hbooking).bind ?_ ?_
      · exact fun _ _ _ h => ensures_standing (keeps_standing (keeps_bookings hnotify) b.id) h
      · exact fun _ _ _ h => h

/-- `update_payment` confirms the booking where the payment was not successful before. -/
theorem ensures_updatePayment_received {paymentId : Uuid} {body : Payment.UpdatePaymentRequest}
    {actorId : String} (hb : Table.get d.bookings b.id = some b) :
    Ensures (fun _ => True)
      (fun x d' _ => x.isOk →
        Received b (Confirms b.id · d (.updatePayment paymentId body actorId)) d d')
      (Payment.Api.updatePayment paymentId body actorId) d es := by
  have hraise : ∀ (e : Error) (d' : Db), (Except.error e : Except Error Unit).isOk →
      Received b (Confirms b.id · d (.updatePayment paymentId body actorId)) d d' :=
    fun _ _ h => absurd h (by simp [Except.isOk, Except.toBool])
  unfold Payment.Api.updatePayment
  refine (ensures_load trivial).bind_reads ?_ fun e => hraise e d
  intro p hget
  rw [ensures_bind_ask]
  refine ⟨trivial, fun a => ?_⟩
  dsimp only
  have hid : ∀ q, (Payment.requestColumns body a.now
      (Payment.responseColumns body.gatewayResponse q)).id = q.id := by
    intro q
    show (Payment.responseColumns body.gatewayResponse q).id = q.id
    unfold Payment.responseColumns
    split <;> rfl
  have hrefunded : ∀ q, (Payment.requestColumns body a.now
      (Payment.responseColumns body.gatewayResponse q)).amountRefunded = q.amountRefunded := by
    intro q
    show (Payment.responseColumns body.gatewayResponse q).amountRefunded = q.amountRefunded
    unfold Payment.responseColumns
    split <;> rfl
  refine (keeps_voucherOf _ d es).bind ?_ ?_
  swap
  · exact fun e d' _ _ => hraise e d'
  rintro voucher d₀ es₀ rfl
  refine (keeps_checkNumber paymentId body.paymentNumber d₀ es₀).bind ?_ ?_
  swap
  · exact fun e d' _ _ => hraise e d'
  rintro _ d₁ es₁ rfl
  exact ensures_changed_received hb hget (fun q => hid q) fun q => hrefunded q

end Api

/-! ## The settlement of a link -/

section Settlement

variable {d d' : Db} {b : BookingRow} {link : PaymentLinkRow} {state : GatewayPaymentState}
  {answer : Except String Payment.RefundResponse} {es' : List Emission}

theorem not_refundSent_settled (h : SettleEvents link [] es') : ¬ RefundSent link state es' := by
  rintro ⟨invoice, currency, -, -, hmem⟩
  rcases h with rfl | ⟨ev, -, rfl⟩ | ⟨v, status, rfl⟩
  · simp at hmem
  · simp at hmem
  · simp at hmem

/-- A settlement leaves a payable booking blocking just where it was. -/
theorem confirmedStatus_nonBlocking :
    (confirmedStatus b).status ∈ Booking.nonBlockingBookingStatuses ↔
      b.status ∈ Booking.nonBlockingBookingStatuses := by
  unfold confirmedStatus
  cases hb : b.status <;> simp [hb, Booking.nonBlockingBookingStatuses]

theorem nonBlocking_of_not_payable (h : b.status ∈ NOT_PAYABLE_BOOKING) :
    b.status ∈ Booking.nonBlockingBookingStatuses := by
  have hall : ∀ s ∈ NOT_PAYABLE_BOOKING, s ∈ Booking.nonBlockingBookingStatuses := by decide
  exact hall b.status h

/-- The money of a settled link has a place just where its booking is kept, or can no longer be paid
and the refund is accepted. -/
theorem Applied.placed_iff {outcome : SettlementOutcome}
    (h : Applied (fun a => a.refund = answer) link state outcome d d' [] es')
    (hb : Table.get d.bookings b.id = some b) (ht : link.targetType = .booking)
    (htarget : link.targetId = b.id) (hlink : Table.get d.paymentLinks link.id = some link)
    (hs : link.status ∉ SETTLED) (hpaid : state.status = .paid) (hsettled : Settled link.id d') :
    (PaidBooking b.id d' ∨ RefundSent link state es') ↔
      b.status ∉ Booking.nonBlockingBookingStatuses ∨
        (b.status ∈ NOT_PAYABLE_BOOKING ∧ RefundAccepted link answer) := by
  rw [← htarget] at hb
  by_cases hout : outcome = .settled
  · have hby := h.settled hout
    obtain ⟨b', hb', hpaid', hstatus⟩ := hby.booking ht b hb
    have hpayable : b.status ∉ NOT_PAYABLE_BOOKING := by
      have hactivatable := hby.activatable
      unfold Activatable at hactivatable
      rw [ht] at hactivatable
      obtain ⟨b₁, hb₁, hpayable⟩ := hactivatable
      rw [hb] at hb₁
      obtain rfl : b = b₁ := by simpa using hb₁
      exact hpayable
    have hplaced : PaidBooking b.id d' ↔ b.status ∉ Booking.nonBlockingBookingStatuses := by
      rw [← confirmedStatus_nonBlocking, ← hstatus, ← htarget]
      unfold PaidBooking
      rw [hb']
      simp [hpaid']
    rw [hplaced]
    constructor
    · rintro (h | h)
      · exact .inl h
      · exact absurd h (not_refundSent_settled hby.events)
    · rintro (h | h)
      · exact .inl h
      · exact absurd h.1 hpayable
  · obtain ⟨f, hf, hlinks, -, hrefunded⟩ := h.row
    have hmatch : ¬ amountMismatch link state := by
      intro hm
      obtain ⟨l, hl, hstatus⟩ := hsettled
      rw [hlinks, Table.get_modify_self hf, hlink] at hl
      obtain rfl : f link = l := by simpa using hl
      rw [hrefunded hpaid hout, if_pos hm] at hstatus
      exact hs hstatus
    obtain ⟨htried, hnot⟩ := h.paid hpaid hmatch hout
    have hclosed : b.status ∈ NOT_PAYABLE_BOOKING := by
      by_contra hpayable
      refine hnot.target ?_
      unfold Activatable
      rw [ht]
      exact ⟨b, hb, hpayable⟩
    have hunpaid : ¬ PaidBooking b.id d' := by
      rintro ⟨b', hb', -, hblocking⟩
      rw [hnot.bookings, ← htarget, hb] at hb'
      obtain rfl : b = b' := by simpa using hb'
      exact hblocking (nonBlocking_of_not_payable hclosed)
    rw [htried.sent_iff]
    constructor
    · rintro (h | h)
      · exact absurd h hunpaid
      · exact .inr ⟨hclosed, h⟩
    · rintro (h | h)
      · exact absurd (nonBlocking_of_not_payable hclosed) h
      · exact .inr h.2

end Settlement

/-! ## The calls -/

section Placing

variable {d : Db} {b : BookingRow} {bookingId id : Uuid} {env : ℕ → Env}
  {answer : Except String Payment.RefundResponse}

/-- The money of a call of the payments API or of a webhook. -/
theorem Received.placed_iff {confirms : Uuid → Prop} {d' : Db} (h : Received b confirms d d')
    (hnot : ¬ Succeeds b.id id d) (hrecorded : Succeeds b.id id d') :
    (PaidBooking b.id d' ∨ RefundStands id d') ↔ (confirms id ∧ Confirmable b) ∨
      (b.paymentStatus = .success ∧ b.status ∉ Booking.nonBlockingBookingStatuses) ∨
      RefundStands id d := by
  have hrefunds : RefundStands id d' ↔ RefundStands id d := by
    unfold RefundStands
    rw [h.refunds]
  rw [hrefunds]
  by_cases hconfirms : confirms id
  · have hstanding := h.confirmed id hnot hrecorded hconfirms
    rw [paidBooking_iff hstanding]
    by_cases hc : Confirmable b
    · have hto : confirmedTo b = (.confirmed, .success) := if_pos hc
      rw [hto]
      exact iff_of_true (.inl ⟨rfl, by decide⟩) (.inl ⟨hconfirms, hc⟩)
    · have hto : confirmedTo b = standingColumns b := if_neg hc
      rw [hto]
      simp [standingColumns, hc]
  · rw [paidBooking_iff (h.left id hnot hrecorded hconfirms)]
    simp [standingColumns, hconfirms]

theorem received_step {op : ReceiptOp} {confirms : Uuid → Prop}
    (h : Ensures (fun _ => True) (fun x d' _ => x.isOk → Received b confirms d d')
      (receiptCode op) d []) :
    Received b confirms d (receiptStep ⟨d, []⟩ (op, env)).db := by
  have hcommit : Ensures (fun _ => True) (OnCommit (Received b confirms d) d) (receiptCode op) d [] := by
    refine h.mono (fun _ h => h) ?_
    intro r d' es' hr
    cases r with
    | ok _ => exact hr rfl
    | error _ => exact .refl d
  exact hcommit.atomically env

/-- The money a call has received for a booking has a place if and only if `HasPlace` holds before
the call. -/
theorem received_money_placed_iff (op : ReceiptOp) (env : ℕ → Env) (d : Db) (b : BookingRow)
    (id : Uuid) (answer : Except String Payment.RefundResponse)
    (hanswer : ∀ n, (env n).refund = answer) (hu : Table.Unique d.payments)
    (hb : Table.get d.bookings b.id = some b)
    (hrecords : Records b.id id op d (receiptStep ⟨d, []⟩ (op, env)).db) :
    Placed b.id id op d (receiptStep ⟨d, []⟩ (op, env)) ↔ HasPlace answer b id op d := by
  cases op with
  | createPayment body =>
    have hcode : Ensures (fun _ => True) _ (receiptCode (.createPayment body)) d [] :=
      ensures_createPayment_received hu hb
    exact (received_step hcode).placed_iff hrecords.1 hrecords.2
  | updatePayment paymentId body actorId =>
    have hcode : Ensures (fun _ => True) _ (receiptCode (.updatePayment paymentId body actorId)) d
        [] := ensures_updatePayment_received hb
    exact (received_step hcode).placed_iff hrecords.1 hrecords.2
  | myfatoorahWebhook body =>
    have hcode : Ensures (fun _ => True) _ (receiptCode (.myfatoorahWebhook body)) d [] :=
      ensures_myfatoorahWebhook_received hu hb
    exact (received_step hcode).placed_iff hrecords.1 hrecords.2
  | tapWebhook body =>
    have hcode : Ensures (fun _ => True) _ (receiptCode (.tapWebhook body)) d [] :=
      ensures_tapWebhook_received hb
    exact (received_step hcode).placed_iff hrecords.1 hrecords.2
  | settle linkId state source =>
    obtain ⟨-, hpaid, ⟨link, hlink, ht, htarget, hs⟩, hsettled⟩ := hrecords
    have hkey : link.id = linkId := (Table.get_some hlink).2
    have hns : ¬ Settled linkId d := by
      rintro ⟨l, hl, hstatus⟩
      rw [hlink] at hl
      obtain rfl : link = l := by simpa using hl
      exact hs hstatus
    have happly : EnsuresUnder (fun a => a.refund = answer) (AtEnd (fun d' es' =>
        Settled linkId d' → ((PaidBooking b.id d' ∨ RefundSent link state es') ↔
          b.status ∉ Booking.nonBlockingBookingStatuses ∨
            (b.status ∈ NOT_PAYABLE_BOOKING ∧ RefundAccepted link answer))) d)
        (applyTo linkId state source) d [] := by
      refine (ensures_applyTo hns).mono ?_
      rintro r d' es' ⟨-, hnone, hsome⟩
      rcases r with e | _ | outcome
      · exact fun h => absurd h hns
      · obtain ⟨-, rfl, -⟩ := hnone rfl
        exact fun h => absurd h hns
      · obtain ⟨l, hl, happlied⟩ := hsome outcome rfl
        rw [hlink] at hl
        obtain rfl : link = l := by simpa using hl
        intro h
        exact happlied.placed_iff hb ht htarget (hkey ▸ hlink) hs hpaid (hkey ▸ h)
    have hdone := happly.discard.transact (s := ⟨d, []⟩) env hanswer hsettled
    unfold Placed GoesBack HasPlace receiptStep receiptCode
    dsimp only
    rw [hlink]
    simpa using hdone

end Placing

/-! ## A payment for a cancelled booking -/

/-- A successful payment of booking 3. -/
def deskPayment : ReceiptOp :=
  .createPayment
    { customerId := 4, totalAmount := { unscaled := 10 }, status := some .success,
      bookingId := some 3 }

/-- Every statement gets a new id. -/
def freshIds : ℕ → Env := fun n => { uuid := 100 + n }

/-- What is left of `deskPayment` for the cancelled booking. -/
def afterDeskPayment : Desk := receiptStep ⟨cancelledBooking, []⟩ (deskPayment, freshIds)

theorem records_deskPayment : Records 3 107 deskPayment cancelledBooking afterDeskPayment.db := by
  have hbefore : ¬ Succeeds 3 107 cancelledBooking := by decide
  have hafter : Succeeds 3 107 afterDeskPayment.db := by decide +kernel
  exact ⟨hbefore, hafter⟩

/-- The payment succeeds, the booking stays cancelled and unpaid, and nothing goes back. -/
theorem received_money_unplaced :
    Records 3 107 deskPayment cancelledBooking afterDeskPayment.db ∧
      ¬ PaidBooking 3 afterDeskPayment.db ∧ ¬ RefundStands 107 afterDeskPayment.db ∧
      afterDeskPayment.log = [] := by
  refine ⟨records_deskPayment, ?_⟩
  decide +kernel

/-- The booking that `cancelledBooking` has. -/
def bookingThree : BookingRow :=
  { id := 3, customerId := 4, therapistId := 8, appointmentStart := 0, appointmentEnd := 60,
    totalAmount := 10000, status := .cancelled }

theorem received_money_placed_iff_deskPayment :
    Placed bookingThree.id 107 deskPayment cancelledBooking
        (receiptStep ⟨cancelledBooking, []⟩ (deskPayment, freshIds)) ↔
      HasPlace (freshIds 0).refund bookingThree 107 deskPayment cancelledBooking :=
  received_money_placed_iff deskPayment freshIds cancelledBooking bookingThree 107
    (freshIds 0).refund (fun _ => rfl) List.nodup_nil rfl records_deskPayment

end PaymentLinks
