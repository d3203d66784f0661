import UshBookNPay.Booking.Proofs.WriterProofs
import UshBookNPay.Booking.Proofs.ServerPriceProofs
import UshBookNPay.Booking.Proofs.UpdateProofs

/-!
# The total of a new booking and of an updated one

`create_booking` stores the sum of the prices of the planned sessions, `update_booking` the price of the
services with the amounts for add-ons and extra minutes the booking has, less its discount.
-/

open Transactions
open Transactions.Prog (query update raiseIf ask emit forSome)

namespace Booking

variable {l : List Session} {args : UpdateArgs} {row b : BookingRow} {d : Db} {es : List Emission}

/-! ## What is to be stored -/

/-- The prices of the sessions less the discount, and never less than nothing. -/
def amountDue (l : List Session) (discount : Fils) : Fils :=
  max 0 ((bookingTotals l).sessionPriceTotal - discount)

/-- The booking stores the amount due, and what the sessions take for add-ons and extra minutes. -/
structure StoresPrices (l : List Session) (discount : Fils) (b : BookingRow) : Prop where
  total : b.totalAmount = amountDue l discount
  addons : b.addonPrice = (bookingTotals l).addonsPrice
  extra : b.priceForExtraMinutes = (bookingTotals l).extraPrice

/-- The booking that was created from the sessions and the one they have replaced those of agree. -/
structure PricedAlike (l : List Session) (discount : Fils) (created updated : BookingRow) : Prop where
  same : created.totalAmount = updated.totalAmount
  created : StoresPrices l discount created
  updated : StoresPrices l discount updated

/-- The price of the services, the add-ons and the extra minutes of the sessions. -/
def partsTotal (l : List Session) : Fils :=
  (bookingTotals l).servicesPrice + (bookingTotals l).addonsPrice + (bookingTotals l).extraPrice

/-- No discount, and session prices that add up; or sessions that cost nothing. -/
def Undiscounted (l : List Session) (discount : Fils) : Prop :=
  (discount = 0 ∧ 0 ≤ partsTotal l ∧ (bookingTotals l).sessionPriceTotal = partsTotal l) ∨
    (partsTotal l = 0 ∧ 0 ≤ discount ∧ (bookingTotals l).sessionPriceTotal ≤ discount)

instance (l : List Session) (discount : Fils) : Decidable (Undiscounted l discount) :=
  inferInstanceAs (Decidable (_ ∨ _))

/-- The update sends the amounts of the sessions for add-ons and extra minutes, or the booking has them
already. -/
def HasPartPrices (l : List Session) (args : UpdateArgs) (row : BookingRow) : Prop :=
  args.addonPrice.getD row.addonPrice = (bookingTotals l).addonsPrice ∧
    args.priceForExtraMinutes.getD row.priceForExtraMinutes = (bookingTotals l).extraPrice

instance (l : List Session) (args : UpdateArgs) (row : BookingRow) : Decidable (HasPartPrices l args row) :=
  inferInstanceAs (Decidable (_ ∧ _))

/-! ## The columns -/

/-- The total, and the amounts for add-ons and extra minutes. -/
def amounts (b : BookingRow) : Fils × Fils × Fils :=
  (b.totalAmount, b.addonPrice, b.priceForExtraMinutes)

theorem amounts_primaryFields (entries : List ServiceEntry) (b : BookingRow) :
    amounts (primaryFields entries b) = amounts b := by
  cases entries <;> rfl

theorem amounts_setAttribution (b : BookingRow) (a : PaymentAttribution.Attribution) :
    amounts (b.setAttribution a) = amounts b := rfl

theorem amounts_beforeWrite (b : BookingRow) : amounts b.beforeWrite = amounts b :=
  amounts_setAttribution b _

theorem amounts_newBooking {first : Session} {rest : List Session} (args : CreateArgs) (id : Uuid)
    (bookingNumber : String) :
    amounts (newBooking (plannedArgs (first :: rest) args) id bookingNumber) =
      (partsTotal (first :: rest), (bookingTotals (first :: rest)).addonsPrice,
        (bookingTotals (first :: rest)).extraPrice) := by
  unfold newBooking
  rw [amounts_primaryFields]
  rfl

theorem amounts_replaceSessions {first : Session} {rest : List Session}
    (hs : args.sessions = some (first :: rest)) (ht : args.totalAmount = none) :
    amounts (replaceSessions args row) =
      (max 0 ((bookingTotals (first :: rest)).servicesPrice + args.addonPrice.getD row.addonPrice +
        args.priceForExtraMinutes.getD row.priceForExtraMinutes - row.discount),
        row.addonPrice, row.priceForExtraMinutes) := by
  have hmirror : amounts (mirrorColumns (legacyMirror first rest)
      { row with sessions := first :: rest }) = amounts row := by
    show amounts (primaryFields _ _) = amounts row
    rw [amounts_primaryFields]
    rfl
  unfold replaceSessions
  rw [hs, ht]
  exact congrArg (fun x : Fils × Fils × Fils => (max 0 _, x.2)) hmirror

theorem amounts_replaceServices (args : UpdateArgs) (b : BookingRow) :
    amounts (replaceServices args b) = amounts b := by
  unfold replaceServices
  cases args.services with
  | none => rfl
  | some entries => cases entries <;> rfl

theorem amounts_applyTiming (args : UpdateArgs) (b : BookingRow) :
    amounts (applyTiming args b) = amounts b := by
  unfold applyTiming
  dsimp only
  split_ifs <;> rfl

theorem amounts_applyArrangement (args : UpdateArgs) (b : BookingRow) :
    amounts (applyArrangement args b) = amounts b := by
  unfold applyArrangement
  dsimp only
  split_ifs
  · split <;> rfl
  · rfl

theorem amounts_applyPayment (args : UpdateArgs) (b : BookingRow) :
    amounts (applyPayment args b) = amounts b := by
  unfold applyPayment mergePaymentData
  cases args.paymentData <;> rfl

/-- The amounts of the update go over those of the booking. -/
theorem amounts_applyPricing {b b' : BookingRow} (h : amounts b = amounts b') :
    amounts (applyPricing args b) = amounts (applyPricing args b') := by
  simp only [amounts, Prod.mk.injEq] at h
  obtain ⟨htotal, haddon, hextra⟩ := h
  simp only [amounts, applyPricing, htotal, haddon, hextra]

theorem amounts_updatedColumns {first : Session} {rest : List Session}
    (hs : args.sessions = some (first :: rest)) (ht : args.totalAmount = none) :
    amounts (updatedColumns args row) =
      (max 0 ((bookingTotals (first :: rest)).servicesPrice + args.addonPrice.getD row.addonPrice +
        args.priceForExtraMinutes.getD row.priceForExtraMinutes - row.discount),
        args.addonPrice.getD row.addonPrice,
        args.priceForExtraMinutes.getD row.priceForExtraMinutes) := by
  have hcolumns : amounts (applyPayment args (applyArrangement args (applyTiming args
      (replacedRow args row)))) = amounts (replaceSessions args row) := by
    rw [amounts_applyPayment, amounts_applyArrangement, amounts_applyTiming]
    exact amounts_replaceServices args _
  unfold updatedColumns
  dsimp only
  rw [if_pos (by rw [hs]; rfl), amounts_applyPricing hcolumns]
  have hreplaced : amounts (replaceSessions args row) = _ := amounts_replaceSessions hs ht
  simp only [amounts, Prod.mk.injEq] at hreplaced
  obtain ⟨htotal, haddon, hextra⟩ := hreplaced
  simp only [amounts, applyPricing, htotal, haddon, hextra, ht, Option.getD_none]

/-! ## The programs -/

/-- What comes after a program that leaves the bookings alone. -/
theorem ensures_bind_keeps {α β : Type} {post : Except Error β → Db → List Emission → Prop} {p : Tx α}
    {f : α → Tx β} (hp : Keeps Db.bookings p) (herr : ∀ e d' es', post (.error e) d' es')
    (hf : ∀ a d' es', d'.bookings = d.bookings → Ensures (fun _ => True) post (f a) d' es') :
    Ensures (fun _ => True) post (p >>= f) d es :=
  (hp d es).bind (fun a d' es' heq => hf a d' es' heq) fun e d' es' _ => herr e d' es'

/-- A program that leaves the bookings alone and returns a stored one. -/
theorem ensures_then_pure {α : Type} {P : Db → BookingRow → Prop} {p : Tx α} (hp : Keeps Db.bookings p)
    (hP : ∀ d', d'.bookings = d.bookings → P d' b) :
    Ensures (fun _ => True) (fun r d' _ => ∀ x, r = .ok x → P d' x) (p >>= fun _ => pure b) d es := by
  refine ensures_bind_keeps hp (fun _ _ _ _ h => by cases h) fun _ d' _ heq => ?_
  intro x hx
  cases hx
  exact hP d' heq

/-- The booking a call of `create_booking` returns is stored: it was there, or it is the new one. -/
def StoredNew (args : CreateArgs) (d d' : Db) (x : BookingRow) : Prop :=
  x ∈ d'.bookings ∧ (x ∈ d.bookings ∨ ∃ id bookingNumber, x = (newBooking args id bookingNumber).beforeWrite)

theorem ensures_createBooking (args : CreateArgs) (d : Db) (es : List Emission) :
    Ensures (fun _ => True) (fun r d' _ => ∀ x, r = .ok x → StoredNew args d d' x)
      (createBooking args) d es := by
  have herr : ∀ (e : Error) (d' : Db) (es' : List Emission) (x : BookingRow),
      (Except.error e : Except Error BookingRow) = .ok x → StoredNew args d d' x :=
    fun _ _ _ _ h => by cases h
  refine ensures_bind_keeps (keeps_raiseIf _ _) herr fun _ d₁ es₁ h₁ => ?_
  refine ensures_bind_keeps (keeps_raiseIf _ _) herr fun _ d₂ es₂ h₂ => ?_
  rw [ensures_bind_query]
  refine ⟨trivial, ?_⟩
  cases hexisting : (if Text.truthy args.idempotencyKey then
      d₂.bookings.find? (·.idempotencyKey = args.idempotencyKey) else none) with
  | some booking =>
    -- the key is known, and nothing is written
    rintro _ ⟨rfl⟩
    have hmem : booking ∈ d₂.bookings := by
      split_ifs at hexisting
      exact List.mem_of_find?_eq_some hexisting
    exact ⟨hmem, .inl (h₁ ▸ h₂ ▸ hmem)⟩
  | none =>
    refine ensures_bind_keeps (keeps_raiseIf _ _) herr fun _ d₃ es₃ h₃ => ?_
    have hinsert : ∀ (d₃ : Db) (es₃ : List Emission),
        Ensures (fun _ => True) (fun r d' _ => ∀ x, r = .ok x → StoredNew args d d' x)
          (do
            let bookingNumber ← generateBookingNumber args.appointmentStart
            let id ← ask Env.uuid
            let booking ← insertBooking (newBooking args id bookingNumber)
            holdBooking booking
            addBookingHistory { bookingId := booking.id, oldStatus := none, newStatus := booking.status,
                                source := args.source, reason := "" }
            if booking.status = .confirmed then emit (.bookingConfirmed booking.id) else pure ()
            pure booking) d₃ es₃ := by
      intro d₃ es₃
      refine ensures_bind_keeps (keeps_generateBookingNumber _) herr fun number d₄ es₄ _ => ?_
      refine ensures_bind_keeps (keeps_ask _) herr fun id d₅ es₅ _ => ?_
      rw [ensures_bind]
      unfold insertBooking
      dsimp only
      rw [ensures_bind, ensures_checkedUpdate]
      refine ⟨trivial, ?_⟩
      cases bookingConflict d₅ (newBooking args id number).beforeWrite with
      | some e => exact herr e d₅ es₅
      | none =>
        show Ensures _ _ _ _ _
        refine ensures_bind_keeps (keeps_holdBooking _) herr fun _ d₆ es₆ h₆ => ?_
        refine ensures_bind_keeps (keeps_addBookingHistory _) herr fun _ d₇ es₇ h₇ => ?_
        have hstored : (newBooking args id number).beforeWrite ∈ d₇.bookings := by
          rw [h₇, h₆]
          exact List.mem_append_right _ (List.mem_singleton_self _)
        have hfinal : ∀ d' : Db, d'.bookings = d₇.bookings →
            StoredNew args d d' (newBooking args id number).beforeWrite :=
          fun d' heq => ⟨heq ▸ hstored, .inr ⟨id, number, rfl⟩⟩
        split_ifs
        · exact ensures_then_pure (keeps_emit _) hfinal
        · exact ensures_then_pure (keeps_pure ()) hfinal
    split_ifs
    · exact ensures_bind_keeps (keeps_checkSessionSlots _) herr fun _ d₄ es₄ _ => hinsert _ _
    · refine ensures_bind_keeps (keeps_checkSlot _ _ _) herr fun _ d₄ es₄ _ => ?_
      exact ensures_bind_keeps (keeps_forSome _ fun _ => keeps_checkSlot _ _ _) herr
        fun _ d₅ es₅ _ => hinsert _ _

/-- The booking an update returns is stored, with the amounts of the update. -/
def StoredUpdate (bookingId : Uuid) (args : UpdateArgs) (row : BookingRow) (d' : Db) (x : BookingRow) :
    Prop :=
  Table.get d'.bookings bookingId = some x ∧ amounts x = amounts (updatedColumns args row)

theorem ensures_updateBooking {bookingId : Uuid} (hrow : Table.get d.bookings bookingId = some row)
    (es : List Emission) :
    Ensures (fun _ => True) (fun r d' _ => ∀ x, r = .ok x → StoredUpdate bookingId args row d' x)
      (updateBooking bookingId args) d es := by
  have herr : ∀ (e : Error) (d' : Db) (es' : List Emission) (x : BookingRow),
      (Except.error e : Except Error BookingRow) = .ok x → StoredUpdate bookingId args row d' x :=
    fun _ _ _ _ h => by cases h
  refine ensures_getById.bind_reads ?_ fun e => herr e d es
  intro row' hrow'
  obtain rfl : row' = row := Option.some.inj (hrow'.symm.trans hrow)
  have hid : row'.id = bookingId := (Table.get_some hrow).2
  refine ensures_bind_keeps (keeps_checkReplacement _ _) herr fun _ d₁ es₁ h₁ => ?_
  refine ensures_bind_keeps (keeps_checkServices _) herr fun _ d₂ es₂ h₂ => ?_
  refine ensures_bind_keeps (keeps_checkTherapists _ _ _) herr fun _ d₃ es₃ h₃ => ?_
  dsimp only
  -- the row of the booking is written with the columns `u`
  have hflush : ∀ (u : BookingRow) (d₄ : Db) (es₄ : List Emission),
      d₄.bookings = d.bookings → amounts u = amounts (updatedColumns args row') →
      Ensures (fun _ => True) (Returns fun w d' _ => StoredUpdate bookingId args row' d' w.row)
        (flushBooking ((Orm.ofRow row').set (assignUpdated u))) d₄ es₄ := by
    intro u d₄ es₄ h₄ hu
    refine (ensures_writeBooking trivial).mono (fun _ h => h) ?_
    intro r d' es' h
    cases r with
    | error e => exact h.elim
    | ok w =>
      obtain ⟨-, hw, rfl⟩ := h
      constructor
      · have hkey : ∀ b : BookingRow, Table.Keyed.key ((((Orm.ofRow row').set (assignUpdated u)).changes b).setAttribution
            ((Orm.ofRow row').set (assignUpdated u)).row.attribution) = Table.Keyed.key b := fun _ => rfl
        have hget : Table.get (Table.modify d₄.bookings row'.id fun b =>
            (((Orm.ofRow row').set (assignUpdated u)).changes b).setAttribution
              ((Orm.ofRow row').set (assignUpdated u)).row.attribution) row'.id = some w.row := by
          rw [Table.get_modify_self hkey, h₄, hid, hrow, hw]
          rfl
        rw [← hid]
        exact hget
      · rw [hw]
        exact hu
  by_cases hstatus : args.status.getD row'.status ≠ row'.status
  · rw [if_pos hstatus]
    refine ensures_bind_keeps (keeps_checkParking _ _ _) herr fun _ d₄ es₄ h₄ => ?_
    refine ensures_bind_keeps (keeps_ask _) herr fun now d₅ es₅ h₅ => ?_
    have hwrite : ∀ (d₆ : Db) (es₆ : List Emission), d₆.bookings = d.bookings →
        Ensures (fun _ => True) (fun r d' _ => ∀ x, r = .ok x → StoredUpdate bookingId args row' d' x)
          (do
            let written ← flushBooking ((Orm.ofRow row').set (assignUpdated
              (applyStatus args (args.status.getD row'.status) now (updatedColumns args row'))))
            addBookingHistory { bookingId := bookingId, oldStatus := some row'.status,
                                newStatus := args.status.getD row'.status,
                                source := args.source, reason := Text.orEmpty args.reason }
            if internalSource args.source then pure ()
            else dispatchStatusEvent written.row (args.status.getD row'.status)
            pure written.row) d₆ es₆ := by
      intro d₆ es₆ h₆
      refine (hflush (applyStatus args (args.status.getD row'.status) now (updatedColumns args row')) d₆
        es₆ h₆ rfl).bind ?_ fun _ _ _ h => h.elim
      intro w d₇ es₇ hw
      refine ensures_bind_keeps (keeps_addBookingHistory _) herr fun _ d₈ es₈ h₈ => ?_
      have hfinal : ∀ d' : Db, d'.bookings = d₈.bookings → StoredUpdate bookingId args row' d' w.row := by
        intro d' heq
        refine ⟨?_, hw.2⟩
        rw [heq, h₈]
        exact hw.1
      split_ifs
      · exact ensures_then_pure (keeps_pure ()) hfinal
      · exact ensures_then_pure (keeps_dispatchStatusEvent _ _) hfinal
    have hsame : d₅.bookings = d.bookings := by rw [h₅, h₄, h₃, h₂, h₁]
    by_cases hrelease : releasesHold (args.status.getD row'.status)
    · rw [if_pos hrelease]
      exact ensures_bind_keeps (keeps_deleteHold _) herr fun _ d₆ es₆ h₆ => hwrite _ _ (h₆.trans hsame)
    · rw [if_neg hrelease]
      exact hwrite _ _ hsame
  · rw [if_neg hstatus]
    have hsame : d₃.bookings = d.bookings := by rw [h₃, h₂, h₁]
    refine (hflush (updatedColumns args row') d₃ es₃ hsame rfl).bind ?_ fun _ _ _ h => h.elim
    intro w d₄ es₄ hw
    have hfinal : ∀ d' : Db, d'.bookings = d₄.bookings → StoredUpdate bookingId args row' d' w.row := by
      intro d' heq
      refine ⟨?_, hw.2⟩
      rw [heq]
      exact hw.1
    split_ifs
    · exact ensures_then_pure (keeps_emit _) hfinal
    · exact ensures_then_pure (keeps_pure ()) hfinal

/-! ## Agreement -/

/-- What is left to compare once both bookings are stored. -/
theorem agrees_iff {X Y discount : Fils} :
    (X = max 0 (X - discount) ∧ X = max 0 (Y - discount) ∧ max 0 (X - discount) = max 0 (Y - discount)) ↔
      (discount = 0 ∧ 0 ≤ X ∧ Y = X) ∨ (X = 0 ∧ 0 ≤ discount ∧ Y ≤ discount) := by
  have h : ∀ x y k : ℤ,
      (x = max 0 (x - k) ∧ x = max 0 (y - k) ∧ max 0 (x - k) = max 0 (y - k)) ↔
        (k = 0 ∧ 0 ≤ x ∧ y = x) ∨ (x = 0 ∧ 0 ≤ k ∧ y ≤ k) := by omega
  exact h X Y discount

/-- The total a booking is created with and the one an update with the same sessions and no total stores
are the amount due, next to the amounts of the sessions for add-ons and extra minutes, exactly if nothing
is discounted and the booking that is updated has those amounts or is sent them. -/
theorem totals_agree_iff {args : CreateArgs} {uargs : UpdateArgs} {bookingId : Uuid} {d d' : Db}
    {env env' : ℕ → Env} {created updated : BookingRow} (hne : l ≠ [])
    (hsessions : uargs.sessions = some l) (htotal : uargs.totalAmount = none)
    (hcreate : (exec env (createBooking (plannedArgs l args)) d).1 = .ok created)
    (hnew : created ∉ d.bookings) (hrow : Table.get d'.bookings bookingId = some row)
    (hdiscount : row.discount = args.discount)
    (hupdate : (exec env' (updateBooking bookingId uargs) d').1 = .ok updated) :
    PricedAlike l args.discount created updated ↔
      Undiscounted l args.discount ∧ HasPartPrices l uargs row := by
  obtain ⟨first, rest, rfl⟩ := List.exists_cons_of_ne_nil hne
  obtain ⟨-, hstored⟩ := (ensures_createBooking _ d []).exec env created hcreate
  obtain ⟨id, bookingNumber, hnewRow⟩ := hstored.resolve_left hnew
  obtain ⟨-, hamounts⟩ := (ensures_updateBooking hrow []).exec env' updated hupdate
  have hcreated := congrArg amounts hnewRow
  rw [amounts_beforeWrite, amounts_newBooking] at hcreated
  rw [amounts_updatedColumns hsessions htotal, hdiscount] at hamounts
  simp only [amounts, Prod.mk.injEq] at hcreated hamounts
  obtain ⟨hc, hca, hce⟩ := hcreated
  obtain ⟨hu, hua, hue⟩ := hamounts
  have hpart : HasPartPrices (first :: rest) uargs row →
      updated.totalAmount = max 0 (partsTotal (first :: rest) - args.discount) := by
    rintro ⟨haddon, hextra⟩
    rw [hu, haddon, hextra]
    rfl
  constructor
  · rintro ⟨hsame, ⟨hctotal, -, -⟩, hutotal, huaddons, huextra⟩
    have hparts : HasPartPrices (first :: rest) uargs row := ⟨hua.symm.trans huaddons, hue.symm.trans huextra⟩
    rw [hc] at hsame hctotal
    have hup := hpart hparts
    exact ⟨agrees_iff.mp ⟨hsame.trans hup, hctotal, hup.symm.trans hutotal⟩, hparts⟩
  · rintro ⟨hfair, hparts⟩
    obtain ⟨h1, h2, h3⟩ := agrees_iff.mpr hfair
    have hup := hpart hparts
    exact
      { same := hc.trans (h1.trans hup.symm)
        created := ⟨hc.trans h2, hca, hce⟩
        updated := ⟨hup.trans h3, hua.trans hparts.1, hue.trans hparts.2⟩ }

/-! ## A massage with a discount -/

/-- The sessions planned for the massage in the package, with the add-on. -/
def plannedMassage : List Session :=
  (planSessionItems exampleUshauth (exampleRequest (some 2) none none)).toOption.getD []

/-- The fields of the booking of the massage. -/
def massageArgs (discount : Fils) : CreateArgs :=
  { customerId := 4, therapistId := 5, discount := discount, idempotencyKey := some "a" }

/-- The booking of the massage. -/
def createdMassage (discount : Fils) : BookingRow :=
  (newBooking (plannedArgs plannedMassage (massageArgs discount)) 1 "BOK/1970/01/000001").beforeWrite

/-- The booking updated with the sessions it has. -/
def updatedMassage (discount : Fils) : BookingRow :=
  (exec (fun _ => {}) (updateBooking 1 { sessions := some plannedMassage })
    { bookings := [createdMassage discount] }).1.toOption.getD (createdMassage discount)

/-- Without a discount the prices agree. -/
theorem totals_agree_example : PricedAlike plannedMassage 0 (createdMassage 0) (updatedMassage 0) := by
  have hcreate : (exec (fun _ => { uuid := 1 }) (createBooking (plannedArgs plannedMassage
      (massageArgs 0))) {}).1 = .ok (createdMassage 0) := by
    decide +kernel
  have hupdate : (exec (fun _ => {}) (updateBooking 1 { sessions := some plannedMassage })
      { bookings := [createdMassage 0] }).1 = .ok (updatedMassage 0) := by
    decide +kernel
  have hrow : Table.get [createdMassage 0] 1 = some (createdMassage 0) := by decide +kernel
  exact (totals_agree_iff (by decide +kernel) rfl rfl hcreate (by decide) hrow rfl hupdate).mpr
    (by decide +kernel)

/-- With a discount of 5 the massage of 37.500 is booked for 37.500, and updated for 32.500. -/
theorem discount_ignored :
    planSessionItems exampleUshauth (exampleRequest (some 2) none none) = .ok plannedMassage ∧
      (exec (fun _ => { uuid := 1 }) (createBooking (plannedArgs plannedMassage (massageArgs 5000))) {}).1 =
        .ok (createdMassage 5000) ∧
      (exec (fun _ => {}) (updateBooking 1 { sessions := some plannedMassage })
        { bookings := [createdMassage 5000] }).1 = .ok (updatedMassage 5000) ∧
      (createdMassage 5000).discount = 5000 ∧
      ¬ PricedAlike plannedMassage 5000 (createdMassage 5000) (updatedMassage 5000) := by
  refine ⟨by decide +kernel, by decide +kernel, by decide +kernel, by decide +kernel, ?_⟩
  intro h
  have hne : (createdMassage 5000).totalAmount ≠ (updatedMassage 5000).totalAmount := by decide +kernel
  exact hne h.same

end Booking
