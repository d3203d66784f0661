import UshBookNPay.PaymentLinks.LinkService
import UshBookNPay.PaymentLinks.Proofs.ApplyProofs

/-!
# Paying the link of a booking

Which bookings a payment link is created for, and which of them its payment settles. A booking that
is cancelled, or whose payment has failed before, gets a link but is not occupied by its payment.
-/

open Transactions (Prog Ensures EnsuresUnder exec)
open Transactions

namespace PaymentLinks

/-! ## Bookings a link is created for -/

section Linkable

variable {d : Db} {es : List Emission} {s : PaymentLinkService}

/-- The object of a booking in the status `status`, in step with its row. -/
structure LoadedBooking (bookingId : Uuid) (status : Booking.BookingStatus) (o : Orm BookingRow)
    (d : Db) : Prop where
  inStep : InStep o d.bookings
  id : o.row.id = bookingId
  status : o.row.status = status

theorem LoadedBooking.congr {bookingId : Uuid} {status : Booking.BookingStatus}
    {o : Orm BookingRow} {d d' : Db} (h : LoadedBooking bookingId status o d)
    (hd : d'.bookings = d.bookings) : LoadedBooking bookingId status o d' :=
  ⟨by rw [hd]; exact h.inStep, h.id, h.status⟩

theorem LoadedBooking.set {bookingId : Uuid} {status : Booking.BookingStatus} {o : Orm BookingRow}
    (h : LoadedBooking bookingId status o d) {f : BookingRow → BookingRow}
    (hid : ∀ b, (f b).id = b.id) (hstatus : ∀ b, (f b).status = b.status) :
    LoadedBooking bookingId status (o.set f) d :=
  ⟨h.inStep.set hid, (hid o.row).trans h.id, (hstatus o.row).trans h.status⟩

/-- The booking of the key has the status. -/
def BookingIn (bookingId : Uuid) (status : Booking.BookingStatus) (d : Db) : Prop :=
  ∃ b, Table.get d.bookings bookingId = some b ∧ b.status = status

theorem LoadedBooking.bookingIn {bookingId : Uuid} {status : Booking.BookingStatus}
    {o : Orm BookingRow} (h : LoadedBooking bookingId status o d) (hwritten : o.changes = fun b => b) :
    BookingIn bookingId status d := by
  obtain ⟨r, hget, hr⟩ := h.inStep.row
  have hrow : r = o.row := by
    rw [hwritten] at hr
    exact hr
  refine ⟨r, ?_, by rw [hrow]; exact h.status⟩
  rw [← h.id]
  exact hget

/-- A flush leaves the object in step with the row it has written. -/
theorem ensures_flushBooking {bookingId : Uuid} {status : Booking.BookingStatus}
    {o : Orm BookingRow} (h : LoadedBooking bookingId status o d) :
    Ensures (fun _ => True) (Returns fun o' d' _ =>
        LoadedBooking bookingId status o' d' ∧ o'.changes = id)
      (flushBooking o) d es := by
  unfold flushBooking
  rw [ensures_bind, ensures_update]
  generalize o.row.attribution = a
  refine ⟨trivial, ⟨?_, h.id, h.status⟩, rfl⟩
  obtain ⟨r, hget, hr⟩ := h.inStep.row
  have hkey : ∀ b : BookingRow, Table.Keyed.key ((o.changes b).setAttribution a) =
      Table.Keyed.key b := fun b => h.inStep.key b
  have hself : Table.get (Table.modify d.bookings o.row.id fun b => (o.changes b).setAttribution a)
      o.row.id = some (o.row.setAttribution a) := by
    rw [Table.get_modify_self hkey, show Table.get d.bookings o.row.id = some r from hget, ← hr]
    rfl
  exact inStep_ofRow hself

/-- A booking that is loaded can be linked and is not paid. -/
theorem ensures_loadBooking {bookingId : Uuid} :
    Ensures (fun _ => True) (fun r d' es' => d' = d ∧ es' = es ∧ ∀ o, r = .ok o →
        ∃ b ∈ Table.get d.bookings bookingId, b.status ∈ BOOKING_LINKABLE ∧
          ¬ (b.status ≠ .cancelled ∧ b.paymentStatus ∈ PAID_BOOKING_STATUSES) ∧ o = .ofRow b)
      (loadBooking bookingId) d es := by
  unfold loadBooking
  rw [ensures_bind_queryForUpdate]
  refine ⟨trivial, ?_⟩
  cases hb : Table.get d.bookings bookingId with
  | none => exact ⟨rfl, rfl, fun _ h => nomatch h⟩
  | some b =>
    dsimp only
    rw [ensures_bind_raiseIf]
    refine ⟨fun _ => ⟨rfl, rfl, fun _ h => nomatch h⟩, fun hlinkable => ?_⟩
    rw [ensures_bind_raiseIf]
    refine ⟨fun _ => ⟨rfl, rfl, fun _ h => nomatch h⟩, fun hunpaid => ⟨rfl, rfl, ?_⟩⟩
    rintro _ ⟨rfl⟩
    exact ⟨b, rfl, not_not.mp hlinkable, hunpaid, rfl⟩

theorem ensures_findOpenLink {targetType : PaymentLinkTarget} {targetId : Uuid} :
    Ensures (fun _ => True) (Returns fun r d' es' => d' = d ∧ es' = es ∧
        r = (d.paymentLinks.filter (isOpenFor targetType targetId)).getLast?)
      (findOpenLink targetType targetId) d es := by
  unfold findOpenLink lockedNewestLink
  dsimp only
  rw [ensures_queryForUpdate]
  exact ⟨trivial, rfl, rfl, rfl⟩

theorem ensures_cancelAtGateway {invoice : Option String} :
    Ensures (fun _ => True) (Returns fun _ d' es' => d' = d ∧ ∃ new, es' = es ++ new)
      (cancelAtGateway s invoice) d es := by
  unfold cancelAtGateway
  split_ifs
  · rw [ensures_call]
    exact fun a => ⟨trivial, rfl, _, rfl⟩
  · exact ⟨rfl, [], (List.append_nil _).symm⟩

/-- The links may change, and a link that is used again is the open one. -/
theorem ensures_replaceOpenLink {amount : Decimal} {forceNew : Bool}
    {existing : Option PaymentLinkRow} :
    Ensures (fun _ => True) (fun r d' _ => (∃ links, d' = { d with paymentLinks := links }) ∧
        ∀ link, r = .ok (some link) → existing = some link)
      (replaceOpenLink s amount forceNew existing) d es := by
  cases existing with
  | none => exact ⟨⟨_, rfl⟩, fun _ h => nomatch h⟩
  | some link =>
    unfold replaceOpenLink
    rw [ensures_bind_ask]
    refine ⟨trivial, fun a => ?_⟩
    rw [ensures_bind_raiseIf]
    refine ⟨fun _ => ⟨⟨_, rfl⟩, fun _ h => nomatch h⟩, fun _ => ?_⟩
    split_ifs
    · refine ⟨⟨_, rfl⟩, ?_⟩
      rintro _ ⟨rfl⟩
      rfl
    · refine ensures_cancelAtGateway.bind_returns ?_
      rintro u d' es' ⟨rfl, -⟩
      unfold deleteRow
      rw [ensures_bind, ensures_update]
      exact ⟨trivial, ⟨_, rfl⟩, fun _ h => nomatch h⟩

theorem ensures_resolveInvoice {target : LinkTarget} {invoiceId invoiceNumber : Option String} :
    Ensures (fun _ => True) (Returns fun _ d' es' => d' = d ∧ es' = es)
      (resolveInvoice target invoiceId invoiceNumber) d es := by
  unfold resolveInvoice
  cases target with
  | voucher v => exact ⟨rfl, rfl⟩
  | booking b =>
    dsimp only
    by_cases hgiven : Text.truthy invoiceId ∧ Text.truthy (Text.or invoiceNumber b.row.invoiceNumber)
    · rw [if_pos hgiven]
      exact ⟨rfl, rfl⟩
    · rw [if_neg hgiven, ensures_bind_ask]
      refine ⟨trivial, fun a => ?_⟩
      rcases a.invoice with _ | ⟨id, name⟩
      · exact ⟨rfl, rfl⟩
      · dsimp only
        by_cases hname : name = ""
        · rw [if_pos hname]
          exact ⟨rfl, rfl⟩
        · rw [if_neg hname]
          exact ⟨rfl, rfl⟩

/-- A link that is issued for a booking names it, and the booking keeps its status. -/
theorem ensures_issueLink {bookingId : Uuid} {status : Booking.BookingStatus} {o : Orm BookingRow}
    {amount : Decimal} {req : LinkRequest} (h : LoadedBooking bookingId status o d) :
    Ensures (fun _ => True) (fun r d' _ => ∀ link, r = .ok (.ok link) →
        link.targetType = .booking ∧ link.targetId = bookingId ∧ BookingIn bookingId status d')
      (issueLink s (.booking o) amount req) d es := by
  unfold issueLink
  refine ensures_resolveInvoice.bind_returns ?_
  rintro invoice d₁ es₁ ⟨rfl, rfl⟩
  rw [ensures_bind_ask]
  refine ⟨trivial, fun a₁ => ?_⟩
  rw [ensures_bind_ask]
  refine ⟨trivial, fun a₂ => ?_⟩
  rw [ensures_bind_ask]
  refine ⟨trivial, fun a₃ => ?_⟩
  dsimp only
  generalize hl : newLink s (.booking o) amount req invoice a₁.now a₂.uuid a₃.linkNumber = link
  have hlink : link.targetType = .booking ∧ link.targetId = bookingId := by
    subst hl
    exact ⟨rfl, h.id⟩
  unfold insertLink
  rw [ensures_bind, ensures_checkedUpdate]
  refine ⟨trivial, ?_⟩
  cases linkConflict d₁ link with
  | some exc => exact fun _ h => nomatch h
  | none =>
    dsimp only
    have hloaded : LoadedBooking bookingId status o
        { d₁ with paymentLinks := d₁.paymentLinks ++ [link] } := h.congr rfl
    -- the booking is written where accounting has given it an invoice number
    have hwritten : Ensures (fun _ => True) (Returns fun target d' _ => ∃ o',
        target = LinkTarget.booking o' ∧ LoadedBooking bookingId status o' d')
        (writeInvoiceNumber (.booking o) invoice.assigned)
        { d₁ with paymentLinks := d₁.paymentLinks ++ [link] } es₁ := by
      unfold writeInvoiceNumber
      cases invoice.assigned with
      | none => exact ⟨o, rfl, hloaded⟩
      | some number =>
        have hnumbered : LoadedBooking bookingId status
            (o.set fun r => { r with invoiceNumber := some number })
            { d₁ with paymentLinks := d₁.paymentLinks ++ [link] } :=
          hloaded.set (fun _ => rfl) fun _ => rfl
        dsimp only
        rw [ensures_map]
        refine (ensures_flushBooking hnumbered).mono (fun _ h => h) ?_
        rintro r d' es' hr
        cases r with
        | error e => exact hr.elim
        | ok o' => exact ⟨o', rfl, hr.1⟩
    refine hwritten.bind_returns ?_
    rintro _ d₂ es₂ ⟨o', rfl, hloaded'⟩
    rw [ensures_bind, ensures_call]
    intro a
    refine ⟨trivial, ?_⟩
    cases a.link with
    | error exc =>
      dsimp only
      rw [ensures_bind_ask]
      refine ⟨trivial, fun b => ?_⟩
      show Ensures _ _ ((fun _ => ()) <$> flushLink _ >>= _) _ _
      rw [ensures_bind, ensures_map]
      refine ensures_flushLink.mono (fun _ h => h) ?_
      rintro r d' es' hr
      cases r with
      | error e => exact hr.elim
      | ok o => exact fun _ h => nomatch h
    | ok result =>
      dsimp only
      refine ensures_flushLink.bind_returns ?_
      rintro o₃ d₃ es₃ ⟨rfl, rfl, rfl⟩
      have hattached : LoadedBooking bookingId status
          (o'.set (attachedBooking (issuedColumns result link)))
          (flushed ((Orm.ofRow link).set (issuedColumns result)) d₂) := by
        have hflushed : LoadedBooking bookingId status o'
            (flushed ((Orm.ofRow link).set (issuedColumns result)) d₂) := hloaded'.congr rfl
        exact hflushed.set (fun _ => rfl) fun _ => rfl
      show Ensures _ _ ((fun _ => ()) <$> flushBooking _ >>= _) _ _
      rw [ensures_bind, ensures_map]
      refine (ensures_flushBooking hattached).mono (fun _ h => h) ?_
      rintro r d' es' hr
      cases r with
      | error e => exact hr.elim
      | ok o₄ =>
        rintro _ ⟨rfl⟩
        exact ⟨hlink.1, hlink.2, hr.1.bookingIn hr.2⟩

/-- A link is created for a booking in a linkable status, which stays. -/
theorem ensures_createLink {bookingId : Uuid} {req : LinkRequest} :
    Ensures (fun _ => True) (fun r d' _ => ∀ link, r = .ok (.ok link) →
        link.targetType = .booking ∧ link.targetId = bookingId ∧
          ∃ status ∈ BOOKING_LINKABLE, BookingIn bookingId status d')
      (createLink s "booking" bookingId req) d es := by
  unfold createLink
  have hload : Ensures (fun _ => True) (fun r d' _ => d' = d ∧ ∀ target, r = .ok target →
      ∃ o, target = LinkTarget.booking o ∧ o.row.status ∈ BOOKING_LINKABLE ∧
        BookingIn bookingId o.row.status d ∧ LoadedBooking bookingId o.row.status o d)
      (loadTarget "booking" bookingId) d es := by
    show Ensures _ _ (LinkTarget.booking <$> loadBooking bookingId) d es
    rw [ensures_map]
    refine ensures_loadBooking.mono (fun _ h => h) ?_
    rintro r d' es' ⟨rfl, -, hr⟩
    cases r with
    | error e => exact ⟨rfl, fun _ h => nomatch h⟩
    | ok o =>
      refine ⟨rfl, ?_⟩
      rintro _ ⟨rfl⟩
      obtain ⟨b, hb, hlinkable, -, rfl⟩ := hr o rfl
      exact ⟨.ofRow b, rfl, hlinkable, ⟨b, hb, rfl⟩, inStep_ofRow hb, (Table.get_some hb).2, rfl⟩
  refine hload.bind ?_ ?_
  swap
  · exact fun _ _ _ _ _ h => nomatch h
  rintro target d₁ es₁ ⟨rfl, hr⟩
  obtain ⟨o, rfl, hlinkable, hin, hloaded⟩ := hr target rfl
  cases resolveAmount (.booking o) req.amount with
  | error exc => exact fun _ h => nomatch h
  | ok amount =>
    dsimp only
    rw [ensures_bind_raiseIf]
    refine ⟨fun _ _ h => (nomatch h), fun _ => ?_⟩
    refine ensures_findOpenLink.bind_returns ?_
    rintro existing d₂ es₂ ⟨rfl, rfl, hexisting⟩
    refine ensures_replaceOpenLink.bind ?_ ?_
    swap
    · exact fun _ _ _ _ _ h => nomatch h
    rintro reused d₃ es₃ ⟨⟨links, rfl⟩, hreused⟩
    cases reused with
    | none =>
      have hloaded₃ : LoadedBooking bookingId o.row.status o { d₂ with paymentLinks := links } :=
        hloaded.congr rfl
      show Ensures _ _ (issueLink s (.booking o) amount req) _ _
      refine (ensures_issueLink hloaded₃).mono (fun _ h => h) ?_
      rintro r d' es' h link hlink
      obtain ⟨htype, hid, hin'⟩ := h link hlink
      exact ⟨htype, hid, _, hlinkable, hin'⟩
    | some link =>
      rintro _ ⟨rfl⟩
      have hlast := hexisting.symm.trans (hreused link rfl)
      have hmem := List.mem_of_getLast? hlast
      have hopen := (List.mem_filter.mp hmem).2
      simp only [isOpenFor, decide_eq_true_eq] at hopen
      exact ⟨hopen.1, hopen.2.1, _, hlinkable, hin⟩

end Linkable

/-! ## Payments that can be written -/

/-- The environment gives the id `u` and the month `m`. -/
def Answers (u : Uuid) (m : String) (a : Env) : Prop := a.uuid = u ∧ a.month = m

/-- The number `generate_payment_number` gives in a month. -/
def nextPaymentNumber (m : String) (d : Db) : String :=
  nextNumber ("PMT/" ++ m ++ "/") (d.payments.map (·.paymentNumber))

/-- The payment of the link can be written: the newest payment of the target is changed, or a new
payment of the id `u` is not refused. -/
def PaymentWritable (u : Uuid) (m : String) (link : PaymentLinkRow) (d : Db) : Prop :=
  match (paymentsOf link.targetType link.targetId d).getLast? with
  | some p => fitsNumeric p.amountRefunded
  | none => Table.get d.payments u = none ∧
      (∀ p ∈ d.payments, p.paymentNumber ≠ nextPaymentNumber m d) ∧ fitsNumeric link.amount

section Writable

variable {d : Db} {es : List Emission} {link : PaymentLinkRow} {u : Uuid} {m : String}

theorem PaymentWritable.congr {link' : PaymentLinkRow} {d' : Db}
    (ht : link'.targetType = link.targetType) (hi : link'.targetId = link.targetId)
    (ha : link'.amount = link.amount) (hd : d'.payments = d.payments) :
    PaymentWritable u m link' d' ↔ PaymentWritable u m link d := by
  unfold PaymentWritable paymentsOf nextPaymentNumber
  rw [ht, hi, ha, hd]

theorem paymentConflict_iff {p : PaymentRow} (hrefunded : p.amountRefunded = 0) :
    paymentConflict d p = none ↔ Table.get d.payments p.id = none ∧
      (∀ q ∈ d.payments, q.paymentNumber ≠ p.paymentNumber) ∧ fitsNumeric p.totalAmount := by
  have hzero : fitsNumeric p.amountRefunded = true := by
    rw [hrefunded]
    decide
  unfold paymentConflict
  rw [hzero]
  split_ifs with hid hnumber hfits
  · simp only [false_iff]
    rintro ⟨h, -⟩
    simp [h] at hid
  · simp only [false_iff]
    rintro ⟨-, h, -⟩
    simp only [List.any_eq_true, decide_eq_true_eq] at hnumber
    obtain ⟨q, hq, heq⟩ := hnumber
    exact h q hq heq
  · simp only [true_iff]
    refine ⟨by simpa using hid, ?_, hfits.1⟩
    simpa using hnumber
  · simp only [false_iff]
    exact fun h => hfits ⟨h.2.2, rfl⟩

theorem ensures_insertPayment_isOk {p : PaymentRow} :
    Ensures (fun _ => True) (fun r _ _ => r.isOk ↔ paymentConflict d p.beforeWrite = none)
      (insertPayment p) d es := by
  unfold insertPayment
  rw [ensures_bind, ensures_checkedUpdate]
  refine ⟨trivial, ?_⟩
  cases paymentConflict d p.beforeWrite with
  | none => simp [Except.isOk, Except.toBool]
  | some e => simp [Except.isOk, Except.toBool]

/-- The payment is created just where the database does not refuse it. -/
theorem ensures_createPayment_isOk {row : Uuid → String → PaymentRow} (hrow : RowFor link row)
    (hid : ∀ id number, (row id number).id = id)
    (hnumber : ∀ id number, (row id number).paymentNumber = number) :
    EnsuresUnder (Answers u m) (fun r _ _ => r.isOk ↔ Table.get d.payments u = none ∧
        (∀ p ∈ d.payments, p.paymentNumber ≠ nextPaymentNumber m d) ∧ fitsNumeric link.amount)
      (createPayment link row) d es := by
  have hgen : EnsuresUnder (Answers u m) (Returns fun number d' _ =>
      number = nextPaymentNumber m d ∧ d' = d) generatePaymentNumber d es := by
    rintro a ⟨-, rfl⟩ b - c -
    exact ⟨rfl, rfl⟩
  unfold createPayment
  refine hgen.bind_returns ?_
  rintro number d₁ es₁ ⟨rfl, rfl⟩
  rw [ensuresUnder_bind_ask]
  rintro a ⟨rfl, -⟩
  have hconflict : paymentConflict d₁ (row a.uuid (nextPaymentNumber m d₁)).beforeWrite = none ↔
      Table.get d₁.payments a.uuid = none ∧
      (∀ p ∈ d₁.payments, p.paymentNumber ≠ nextPaymentNumber m d₁) ∧ fitsNumeric link.amount := by
    have hcreated := hrow.created a.uuid (nextPaymentNumber m d₁)
    rw [paymentConflict_iff hcreated.refunded, hcreated.total]
    unfold PaymentRow.beforeWrite
    rw [PaymentRow.setAttribution_id, PaymentRow.setAttribution_paymentNumber, hid, hnumber]
  rw [← hconflict]
  refine EnsuresUnder.bind (Ensures.under ensures_insertPayment_isOk) ?_ ?_
  · intro p d₂ es₂ hp b hb
    exact hp
  · exact fun _ _ _ h => h

theorem ensures_settlePayment_isOk {row : Uuid → String → PaymentRow}
    {columns : PaymentRow → PaymentRow} (hrow : RowFor link row) (hcolumns : ColumnsOk link columns)
    (hid : ∀ id number, (row id number).id = id)
    (hnumber : ∀ id number, (row id number).paymentNumber = number) :
    EnsuresUnder (Answers u m) (fun r _ _ => r.isOk ↔ PaymentWritable u m link d)
      (settlePayment link (ofTarget link.targetType link.targetId) row columns) d es := by
  unfold settlePayment newestPayment PaymentWritable
  dsimp only
  refine ensuresUnder_bind_queryForUpdate _ _ _ ?_
  cases hnew : (paymentsOf link.targetType link.targetId d).getLast? with
  | none =>
    have hnone : (d.payments.filter (ofTarget link.targetType link.targetId)).getLast? = none := hnew
    rw [hnone]
    exact ensures_createPayment_isOk hrow hid hnumber
  | some p =>
    have hsome : (d.payments.filter (ofTarget link.targetType link.targetId)).getLast? = some p := hnew
    rw [hsome]
    have hrefunded : ((Orm.ofRow p).set columns).row.amountRefunded = p.amountRefunded :=
      hcolumns.refunded p
    have hfits : Ensures (fun _ => True) _ (flushPayment ((Orm.ofRow p).set columns)) d es :=
      ensures_payment_fits trivial
    refine EnsuresUnder.bind hfits.under ?_ ?_
    · intro o d₁ es₁ ho
      rw [hrefunded] at ho
      show (Except.ok o.row).isOk ↔ fitsNumeric p.amountRefunded = true
      rw [← ho]
      rfl
    · intro e d₁ es₁ he
      rw [hrefunded] at he
      show (Except.error e : Except Error PaymentRow).isOk ↔ fitsNumeric p.amountRefunded = true
      rw [← he]
      rfl

/-! ## The booking of a settled link -/

/-- What does not happen is neither promised nor has consequences. -/
theorem exactly_not {p q r : Prop} (hp : ¬ p) (hq : ¬ q) : (p ↔ q) ∧ (p → r) :=
  ⟨iff_of_false hp hq, fun h => absurd h hp⟩

/-- The settlement goes through just where the booking is payable and its payment can be written. -/
theorem ensures_settleBooking_isOk {o : Orm PaymentLinkRow} {paidAt : Instant}
    (ht : o.row.targetType = .booking) :
    EnsuresUnder (Answers u m) (fun r d' _ =>
        (r.isOk ↔ (∃ b, Table.get d.bookings o.row.targetId = some b ∧
          b.status ∉ NOT_PAYABLE_BOOKING) ∧ PaymentWritable u m o.row d) ∧
        (r.isOk → ∀ b, Table.get d.bookings o.row.targetId = some b →
          SettledAs o.row.targetId b d'))
      (settleBooking o paidAt) d es := by
  have hraised : ∀ e : Error, ¬ (Except.error e : Except Error (Orm PaymentLinkRow)).isOk := by
    intro e h
    cases h
  unfold settleBooking
  refine ensuresUnder_bind_queryForUpdate _ _ _ ?_
  cases hb : Table.get d.bookings o.row.targetId with
  | none =>
    exact exactly_not (hraised _) (by simp)
  | some row =>
    have hid : row.id = o.row.targetId := (Table.get_some hb).2
    dsimp only
    rw [ensuresUnder_bind_raiseIf]
    refine ⟨fun hclosed => exactly_not (hraised _) ?_, fun hclosed => ?_⟩
    · rintro ⟨⟨b, ⟨rfl⟩, hpayable⟩, -⟩
      exact hpayable hclosed
    have hpayable : ∃ b, some row = some b ∧ b.status ∉ NOT_PAYABLE_BOOKING := ⟨row, rfl, hclosed⟩
    have hconfirm : Ensures (fun _ => True) _ (confirmBooking o.row row paidAt) d es :=
      ensures_confirmBooking (by rw [hid]; exact hb)
    refine hconfirm.under.bind_returns ?_
    rintro b d₁ es₁ ⟨rfl, hbid, hpaid, hstatus, hget, bookings, history, rfl⟩
    have htarget : b.id = o.row.targetId := hbid.trans hid
    have hof : (fun p : PaymentRow => decide (p.bookingId = some b.id)) =
        ofTarget o.row.targetType o.row.targetId := by
      funext p
      simp [ofTarget, ht, htarget]
    rw [hof]
    have hrow : RowFor o.row (bookingPayment o.row b paidAt) := rowFor_bookingPayment ht htarget
    have hcolumns : ColumnsOk o.row (settledBookingPayment o.row paidAt) :=
      columnsOk_settledBookingPayment paidAt
    have hframe : Ensures (fun _ => True) _ (settlePayment o.row _ _ _)
        { d with bookings := bookings, bookingStatusHistory := history } es₁ :=
      ensures_settlePayment hrow hcolumns
    have hisOk : EnsuresUnder (Answers u m) _ (settlePayment o.row _ _ _)
        { d with bookings := bookings, bookingStatusHistory := history } es₁ :=
      ensures_settlePayment_isOk hrow hcolumns (fun _ _ => rfl) fun _ _ => rfl
    refine EnsuresUnder.bind (hframe.under.and hisOk) ?_ ?_
    · rintro q d₂ es₂ ⟨⟨-, -, hok⟩, hwritable⟩
      obtain ⟨-, payments, phistory, rfl⟩ := hok q rfl
      refine fun _ _ => ⟨iff_of_true rfl ⟨hpayable, hwritable.mp rfl⟩, fun _ r hr => ?_⟩
      obtain rfl : row = r := Option.some.inj hr
      refine ⟨b, ?_, hpaid, hstatus⟩
      rw [← hid]
      exact hget
    · rintro e d₂ es₂ ⟨-, hwritable⟩
      exact exactly_not (hraised e) fun h => by cases hwritable.mpr h.2

/-- The booking of the link is payable, and its payment can be written. -/
def Settleable (u : Uuid) (m : String) (link : PaymentLinkRow) (d : Db) : Prop :=
  (∃ b, Table.get d.bookings link.targetId = some b ∧ b.status ∉ NOT_PAYABLE_BOOKING) ∧
    PaymentWritable u m link d

theorem ensures_settleTarget_booking {o : Orm PaymentLinkRow} {paidAt : Instant}
    (ht : o.row.targetType = .booking) :
    EnsuresUnder (Answers u m) (fun r d' _ =>
        ((∃ o', r = .ok (o', none)) ↔ Settleable u m o.row d) ∧
        ((∃ o', r = .ok (o', none)) → ∀ b, Table.get d.bookings o.row.targetId = some b →
          SettledAs o.row.targetId b d'))
      (settleTarget o paidAt) d es := by
  unfold settleTarget
  rw [ht]
  have hsettle : EnsuresUnder (Answers u m) _ (settleBooking o paidAt) d es :=
    ensures_settleBooking_isOk ht
  have hattempt : EnsuresUnder (Answers u m) (fun r d' _ =>
      ((∃ o', r = .ok (.ok o')) ↔ Settleable u m o.row d) ∧
      ((∃ o', r = .ok (.ok o')) → ∀ b, Table.get d.bookings o.row.targetId = some b →
        SettledAs o.row.targetId b d'))
      (attempt notActivatable (settleBooking o paidAt)) d es := by
    refine hsettle.attempt ?_ ?_ ?_
    · rintro o' d' es' ⟨hiff, hsettled⟩
      exact ⟨iff_of_true ⟨o', rfl⟩ (hiff.mp rfl), fun _ => hsettled rfl⟩
    · rintro e d' es' - ⟨hiff, -⟩
      exact exactly_not (by simp) fun h => by cases hiff.mpr h
    · rintro e d' es' - ⟨hiff, -⟩
      exact exactly_not (by simp) fun h => by cases hiff.mpr h
  refine hattempt.bind ?_ ?_
  · rintro r d' es' ⟨hiff, hsettled⟩
    cases r with
    | ok o' => exact ⟨iff_of_true ⟨o', rfl⟩ (hiff.mp ⟨o', rfl⟩), fun _ => hsettled ⟨o', rfl⟩⟩
    | error e => exact exactly_not (by simp) fun h => by simpa using hiff.mpr h
  · rintro e d' es' ⟨hiff, -⟩
    exact exactly_not (by simp) fun h => by simpa using hiff.mpr h

/-- A paid state settles a link of a booking just where the booking can be settled. -/
theorem ensures_applyPaid_booking {state : GatewayPaymentState} {source : String}
    (ht : link.targetType = .booking) (hs : link.status ∉ SETTLED)
    (hamount : ¬ amountMismatch link state) :
    EnsuresUnder (Answers u m) (fun r d' _ =>
        ((∃ o, r = .ok (.settled, o)) ↔ Settleable u m link d) ∧
        ((∃ o, r = .ok (.settled, o)) → ∀ b, Table.get d.bookings link.targetId = some b →
          SettledAs link.targetId b d'))
      (applyPaid (.ofRow link) state source) d es := by
  unfold applyPaid
  rw [if_neg (show (Orm.ofRow link).row.status ∉ SETTLED from hs),
    if_neg (show ¬ amountMismatch (Orm.ofRow link).row state from hamount), ensuresUnder_bind_ask]
  intro a _
  refine ensures_flushLink.under.bind_returns ?_
  rintro o₁ d₁ es₁ ⟨rfl, rfl, rfl⟩
  generalize hcol : ((Orm.ofRow link).set (paidColumns state source a.now)) = o
  have hrow : o.row.targetType = .booking ∧ o.row.targetId = link.targetId ∧
      o.row.amount = link.amount := by
    subst hcol
    exact ⟨ht, rfl, rfl⟩
  have hsettleable : Settleable u m o.row (flushed o d) ↔ Settleable u m link d := by
    unfold Settleable
    rw [hrow.2.1, PaymentWritable.congr (hrow.1.trans ht.symm) hrow.2.1 hrow.2.2 rfl]
    rfl
  refine EnsuresUnder.bind (ensures_settleTarget_booking hrow.1) ?_ ?_
  · rintro ⟨o₂, failure⟩ d₂ es₂ ⟨hiff, hsettled⟩
    rw [Orm.ofRow_row, hsettleable] at hiff
    rw [Orm.ofRow_row, hrow.2.1] at hsettled
    cases failure with
    | none =>
      refine ensures_flushLink.under.bind_returns ?_
      rintro o₃ d₃ es₃ ⟨rfl, rfl, rfl⟩
      exact ⟨iff_of_true ⟨_, rfl⟩ (hiff.mp ⟨o₂, rfl⟩), fun _ => hsettled ⟨o₂, rfl⟩⟩
    | some exc =>
      refine (ensures_refundNotActivatable).mono ?_
      rintro r d₃ es₃ hr
      cases r with
      | error e => exact hr.elim
      | ok r =>
        obtain ⟨outcome, o₃⟩ := r
        obtain ⟨rfl, -⟩ := hr
        exact exactly_not (by simp) fun h => by simpa using hiff.mpr h
  · rintro e d₂ es₂ ⟨hiff, -⟩
    rw [Orm.ofRow_row, hsettleable] at hiff
    exact exactly_not (by simp) fun h => by simpa using hiff.mpr h

/-- A transaction of `apply` with a paid state of the amount of a booking's link. -/
theorem ensures_applyTo_booking {linkId : Uuid} {state : GatewayPaymentState} {source : String}
    (hlink : Table.get d.paymentLinks linkId = some link) (ht : link.targetType = .booking)
    (hpaid : state.status = .paid) (hamount : ¬ amountMismatch link state) :
    EnsuresUnder (Answers u m) (fun r d' _ =>
        (r = .ok (some .settled) ↔ link.status ∉ SETTLED ∧ Settleable u m link d) ∧
        (r = .ok (some .settled) → ∀ b, Table.get d.bookings link.targetId = some b →
          SettledAs link.targetId b d'))
      (applyTo linkId state source) d es := by
  by_cases hs : link.status ∈ SETTLED
  · have hsettled : Ensures (fun _ => True) _ (applyTo linkId state source) d es :=
      ensures_applyTo_settled ⟨link, hlink, hs⟩
    refine hsettled.under.mono ?_
    rintro r d' es' hr
    have hne : r ≠ .ok (some .settled) := by
      rintro rfl
      exact hr.1 rfl
    exact ⟨iff_of_false hne fun h => h.1 hs, fun h => absurd h hne⟩
  unfold applyTo
  refine ensures_getLockedLink.under.bind_returns ?_
  rintro row d₁ es₁ ⟨rfl, rfl, rfl⟩
  rw [hlink]
  unfold apply
  rw [hpaid]
  refine EnsuresUnder.bind (ensures_applyPaid_booking ht hs hamount) ?_ ?_
  · rintro ⟨outcome, o⟩ d₂ es₂ ⟨hiff, hsettled⟩
    have hout : (∃ o', (Except.ok (outcome, o) : Except Error _) = .ok (.settled, o')) ↔
        outcome = .settled := by
      constructor
      · rintro ⟨o', h⟩
        cases h
        rfl
      · rintro rfl
        exact ⟨o, rfl⟩
    rw [hout] at hiff hsettled
    show EnsuresUnder _ _ ((fun _ => ()) <$> flushLink o >>= _) d₂ es₂
    refine EnsuresUnder.bind (Q := Returns fun _ d' _ => d' = flushed o d₂) ?_ ?_ ?_
    · refine Ensures.under ((ensures_map _ _ _ _).mpr (ensures_flushLink.mono (fun _ h => h) ?_))
      rintro r d₃ es₃ hr
      cases r with
      | error e => exact hr.elim
      | ok o₃ => exact hr.2.1
    · rintro _ d₃ es₃ rfl
      have hok : (Except.ok (some outcome) : Except Error _) = .ok (some .settled) ↔
          outcome = .settled := by simp
      show ((Except.ok (some outcome) : Except Error _) = .ok (some .settled) ↔ _) ∧ _
      rw [hok, hiff]
      exact ⟨⟨fun h => ⟨hs, h⟩, fun h => h.2⟩, fun h => hsettled (hiff.mpr h)⟩
    · exact fun _ _ _ h => h.elim
  · rintro e d₂ es₂ ⟨hiff, -⟩
    exact exactly_not (by simp) fun h => by simpa using hiff.mpr h.2

end Writable

/-! ## The slot of a paid booking -/

/-- A verified payment of the amount of the link. -/
def PaidFor (link : PaymentLinkRow) (state : GatewayPaymentState) : Prop :=
  state.status = .paid ∧ ∀ a ∈ state.amount, a.value = toDecimal link.amount

instance (link : PaymentLinkRow) (state : GatewayPaymentState) : Decidable (PaidFor link state) :=
  inferInstanceAs (Decidable (_ ∧ _))

/-- The row of the link at a later time, at which its booking has not changed. -/
structure LaterRow (link : PaymentLinkRow) (d d' : Db) (row : PaymentLinkRow) : Prop where
  booking : Table.get d'.bookings link.targetId = Table.get d.bookings link.targetId
  found : Table.get d'.paymentLinks link.id = some row
  targetType : row.targetType = link.targetType
  targetId : row.targetId = link.targetId
  amount : row.amount = link.amount

/-- The state settles the link, and its booking is then paid and still occupies its therapists. -/
def KeepsSlot (env : ℕ → Env) (link : PaymentLinkRow) (state : GatewayPaymentState)
    (source : String) (d : Db) : Prop :=
  (exec env (applyTo link.id state source) d).1 = .ok (some .settled) ∧
    ∃ b ∈ Table.get (exec env (applyTo link.id state source) d).2.1.bookings link.targetId,
      b.paymentStatus = .success ∧ b.status ∉ Booking.nonBlockingBookingStatuses

instance (env : ℕ → Env) (link : PaymentLinkRow) (state : GatewayPaymentState) (source : String)
    (d : Db) : Decidable (KeepsSlot env link state source d) :=
  inferInstanceAs (Decidable (_ ∧ _))

/-- A settlement leaves the slot of a linkable booking occupied unless its payment had failed. -/
theorem confirmedStatus_blocks {b : BookingRow} (hlinkable : b.status ∈ BOOKING_LINKABLE)
    (hpayable : b.status ∉ NOT_PAYABLE_BOOKING) :
    (confirmedStatus b).status ∉ Booking.nonBlockingBookingStatuses ↔
      b.status ≠ .paymentFailed := by
  unfold confirmedStatus
  cases hb : b.status <;>
    simp_all [BOOKING_LINKABLE, NOT_PAYABLE_BOOKING, Booking.nonBlockingBookingStatuses]

theorem not_amountMismatch {link row : PaymentLinkRow} {state : GatewayPaymentState}
    (h : PaidFor link state) (hrow : row.amount = link.amount) : ¬ amountMismatch row state := by
  rintro ⟨a, ha, hlt⟩
  rw [hrow, h.2 a ha, sub_self, abs_zero] at hlt
  exact absurd hlt (by norm_num [AMOUNT_TOLERANCE])

section Slots

variable {s : PaymentLinkService} {bookingId : Uuid} {req : LinkRequest} {env env' : ℕ → Env}
  {d d' : Db} {link row : PaymentLinkRow} {state : GatewayPaymentState} {source : String}
  {u : Uuid} {m : String}

/-- A payment of the link of an unchanged booking settles it and keeps its slot if and only if the
link is not settled yet, the booking is neither cancelled nor left with a failed payment, and the
payment can be written. -/
theorem link_payment_keeps_slot
    (hcreate : (exec env (createLink s "booking" bookingId req) d).1 = .ok (.ok link))
    (hlater : LaterRow link (exec env (createLink s "booking" bookingId req) d).2.1 d' row)
    (hpaid : PaidFor link state) (hanswers : ∀ n, Answers u m (env' n)) :
    KeepsSlot env' row state source d' ↔ row.status ∉ SETTLED ∧
      ¬ BookingIn bookingId .cancelled d' ∧ ¬ BookingIn bookingId .paymentFailed d' ∧
        PaymentWritable u m row d' := by
  have hensures : Ensures (fun _ => True) _ (createLink s "booking" bookingId req) d [] :=
    ensures_createLink
  obtain ⟨htype, hid, status, hlinkable, b, hb, hstatus⟩ := hensures.exec env link hcreate
  have hget : Table.get d'.bookings row.targetId = some b := by
    rw [hlater.targetId, hlater.booking, hid]
    exact hb
  have hrowId : row.targetId = bookingId := hlater.targetId.trans hid
  have hin : ∀ st, BookingIn bookingId st d' ↔ b.status = st := by
    intro st
    unfold BookingIn
    rw [← hrowId, hget]
    simp
  rw [hin, hin]
  rw [← hstatus] at hlinkable
  have hkey : row.id = link.id := (Table.get_some hlater.found).2
  have happly : EnsuresUnder (Answers u m) _ (applyTo row.id state source) d' [] :=
    ensures_applyTo_booking (by rw [hkey]; exact hlater.found) (hlater.targetType.trans htype) hpaid.1
      (not_amountMismatch hpaid hlater.amount)
  obtain ⟨hiff, hsettled⟩ := happly.exec hanswers
  have hpayable : (∃ b, Table.get d'.bookings row.targetId = some b ∧
      b.status ∉ NOT_PAYABLE_BOOKING) ↔ b.status ≠ .cancelled := by
    rw [hget]
    simp only [Option.some.injEq, exists_eq_left', NOT_PAYABLE_BOOKING]
    constructor
    · intro h hc
      exact h (by simp [hc])
    · intro h hmem
      simp only [List.mem_cons, List.not_mem_nil, or_false] at hmem
      rcases hmem with hc | hn
      · exact h hc
      · rw [hn] at hlinkable
        revert hlinkable
        decide
  unfold KeepsSlot
  constructor
  · rintro ⟨hout, b', hb', hpaid', hslot⟩
    obtain ⟨hopen, hpay, hwritable⟩ := hiff.mp hout
    obtain ⟨b'', hb'', -, hst⟩ := hsettled hout b hget
    obtain rfl : b'' = b' := Option.some.inj (hb''.symm.trans hb')
    rw [hst, confirmedStatus_blocks hlinkable] at hslot
    · exact ⟨hopen, hpayable.mp hpay, hslot, hwritable⟩
    · obtain ⟨r, hr, hnot⟩ := hpay
      obtain rfl : b = r := Option.some.inj (hget.symm.trans hr)
      exact hnot
  · rintro ⟨hopen, hcancelled, hfailed, hwritable⟩
    have hout := hiff.mpr ⟨hopen, hpayable.mpr hcancelled, hwritable⟩
    obtain ⟨b', hb', hpaid', hst⟩ := hsettled hout b hget
    refine ⟨hout, b', hb', hpaid', ?_⟩
    obtain ⟨r, hr, hnot⟩ := hpayable.mpr hcancelled
    obtain rfl : b = r := Option.some.inj (hget.symm.trans hr)
    rw [hst, confirmedStatus_blocks hlinkable hnot]
    exact hfailed

end Slots

/-! ## Two bookings -/

/-- A booking in the given status, not paid yet. -/
def unpaidBooking (status : Booking.BookingStatus) : Db where
  bookings := [
    { id := 1, customerId := 9, therapistId := 4, appointmentStart := 0, appointmentEnd := 3600000000,
      totalAmount := 25000, status := status }]

def myfatoorah : PaymentLinkService where
  gateway := { name := "myfatoorah", providerLabel := "MyFatoorah" }

/-- The gateway issues invoice `100`. -/
def issuing : Env where
  uuid := 5
  link := .ok { gatewayInvoiceId := "100", paymentUrl := "https://pay/100" }
  linkNumber := "PL-1"

/-- The database after a link has been created for the booking. -/
def linked (status : Booking.BookingStatus) : Db :=
  (exec (fun _ => issuing) (createLink myfatoorah "booking" 1 {}) (unpaidBooking status)).2.1

/-- The row of that link. -/
def newRow : PaymentLinkRow where
  id := 5
  linkNumber := some "PL-1"
  targetType := .booking
  targetId := 1
  gateway := "myfatoorah"
  providerLabel := "MyFatoorah"
  gatewayInvoiceId := some "100"
  paymentUrl := some "https://pay/100"
  amount := 25000
  status := .pending
  customerId := some 9
  createdBy := some ""
  expiresAt := some 3600000000

def paidInFull : GatewayPaymentState where
  status := .paid
  amount := some { unscaled := 25, decimals := 0 }

theorem paidFor_newRow : PaidFor newRow paidInFull := by
  refine ⟨rfl, ?_⟩
  rintro a ⟨rfl⟩
  norm_num [Decimal.value, toDecimal, newRow]

theorem link_payment_keeps_slot_requested :
    KeepsSlot (fun _ => issuing) newRow paidInFull "webhook" (linked .requested) ↔
      newRow.status ∉ SETTLED ∧ ¬ BookingIn 1 .cancelled (linked .requested) ∧
        ¬ BookingIn 1 .paymentFailed (linked .requested) ∧
          PaymentWritable 5 "2026/10" newRow (linked .requested) :=
  link_payment_keeps_slot (by decide +kernel)
    ⟨rfl, by decide +kernel, rfl, rfl, rfl⟩ paidFor_newRow fun _ => ⟨rfl, rfl⟩

/-- The payment of a booking whose payment has failed before settles its link, and its slot stays
free; the payment of a cancelled booking is not settled at all. -/
theorem link_payment_loses_slot :
    (∀ status ∈ [Booking.BookingStatus.paymentFailed, .cancelled],
      (exec (fun _ => issuing) (createLink myfatoorah "booking" 1 { amount := some { unscaled := 25 } })
        (unpaidBooking status)).1 = .ok (.ok newRow) ∧
      ¬ KeepsSlot (fun _ => issuing) newRow paidInFull "webhook"
        (exec (fun _ => issuing) (createLink myfatoorah "booking" 1
          { amount := some { unscaled := 25 } }) (unpaidBooking status)).2.1) ∧
    PaidFor newRow paidInFull := by
  refine ⟨?_, paidFor_newRow⟩
  intro status hstatus
  simp only [List.mem_cons, List.not_mem_nil, or_false] at hstatus
  rcases hstatus with rfl | rfl
  · exact ⟨by decide +kernel, by decide +kernel⟩
  · exact ⟨by decide +kernel, by decide +kernel⟩

end PaymentLinks
