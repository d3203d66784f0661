import UshBookNPay.Core.Flush

/-!
# Rules for the programs of the application

Programs that only read, objects that are in step with the rows they were loaded from, and what the
exception handlers let through.
-/

open Transactions.Prog (query)

/-- The object holds the row of the database with its assignments applied. -/
structure InStep {R : Type} [Table.Keyed R] (o : Orm R) (rows : List R) : Prop where
  row : ∃ r, Table.get rows (Table.Keyed.key o.row) = some r ∧ o.changes r = o.row
  key : ∀ r, Table.Keyed.key (o.changes r) = Table.Keyed.key r

theorem InStep.set {R : Type} [Table.Keyed R] {o : Orm R} {rows : List R} (h : InStep o rows)
    {f : R → R} (hf : ∀ r, Table.Keyed.key (f r) = Table.Keyed.key r) : InStep (o.set f) rows := by
  obtain ⟨r, hr, hc⟩ := h.row
  refine ⟨⟨r, ?_, ?_⟩, fun r => ?_⟩
  · simpa [hf] using hr
  · simp [hc]
  · simp [hf, h.key]

theorem inStep_ofRow {R : Type} [Table.Keyed R] {rows : List R} {k : Uuid} {r : R}
    (h : Table.get rows k = some r) : InStep (Orm.ofRow r) rows :=
  ⟨⟨r, by rw [Orm.ofRow_row, (Table.get_some h).2, h], rfl⟩, fun _ => rfl⟩

theorem InStep.replaces {R : Type} [Table.Keyed R] {o : Orm R} {rows : List R}
    (h : InStep o rows) :
    Table.Replaces rows (Table.Keyed.key o.row) o.row
      (Table.modify rows (Table.Keyed.key o.row) o.changes) := by
  obtain ⟨r, hr, hc⟩ := h.row
  have := Table.replaces_modify hr h.key
  rwa [hc] at this

namespace Transactions

variable {mid : List Emission → Prop} {d : Db} {es : List Emission}

/-- The program returns without a change. -/
def Reads {α : Type} (d : Db) (es : List Emission) (Q : α → Prop) :
    Except Error α → Db → List Emission → Prop :=
  fun r d' es' => d' = d ∧ es' = es ∧ ∀ a, r = .ok a → Q a

theorem ensures_load {R : Type} {message : String} {get : Db → Option R} (hmid : mid es) :
    Ensures mid (Reads d es fun r => get d = some r) (load message get) d es := by
  unfold load
  rw [ensures_bind_query]
  refine ⟨hmid, ?_⟩
  cases hr : get d with
  | none => exact ⟨rfl, rfl, fun _ h => nomatch h⟩
  | some r => exact ⟨rfl, rfl, fun r' h => by cases h; rfl⟩

/-- Sequencing after a program that only reads. -/
theorem Ensures.bind_reads {α β : Type} {Q : α → Prop} {post : Except Error β → Db → List Emission → Prop}
    {p : Tx α} {f : α → Tx β} (hp : Ensures mid (Reads d es Q) p d es)
    (hok : ∀ a, Q a → Ensures mid post (f a) d es) (herr : ∀ e, post (.error e) d es) :
    Ensures mid post (p >>= f) d es := by
  refine hp.bind ?_ ?_
  · rintro a d' es' ⟨rfl, rfl, h⟩
    exact hok a (h a rfl)
  · rintro e d' es' ⟨rfl, rfl, -⟩
    exact herr e

theorem ensures_scalarOneOrNone {R : Type} (rows : List R) :
    Ensures mid (Reads d es fun r => r = rows.head?) (scalarOneOrNone rows) d es := by
  rcases rows with _ | ⟨r, _ | ⟨r', rows⟩⟩
  · exact ⟨rfl, rfl, fun a h => (Except.ok.inj h).symm⟩
  · exact ⟨rfl, rfl, fun a h => (Except.ok.inj h).symm⟩
  · exact ⟨rfl, rfl, fun _ h => nomatch h⟩

/-- What a handler catches it returns, and the rest goes through. -/
theorem Ensures.attempt {α : Type} {Q : Except Error α → Db → List Emission → Prop}
    {post : Except Error (Except Error α) → Db → List Emission → Prop} {caught : Error → Bool}
    {p : Tx α} (hp : Ensures mid Q p d es)
    (hok : ∀ a d' es', Q (.ok a) d' es' → post (.ok (.ok a)) d' es')
    (hcaught : ∀ e d' es', caught e → Q (.error e) d' es' → post (.ok (.error e)) d' es')
    (hraised : ∀ e d' es', ¬ caught e → Q (.error e) d' es' → post (.error e) d' es') :
    Ensures mid post (attempt caught p) d es := by
  show Ensures mid post (tryCatchThe Error (Except.ok <$> p) _) d es
  rw [ensures_tryCatch, ensures_map]
  refine hp.mono (fun _ h => h) ?_
  intro r d' es' hr
  cases r with
  | ok a => exact hok a d' es' hr
  | error e =>
    by_cases hc : caught e
    · simpa [hc] using hcaught e d' es' hc hr
    · simpa [hc] using hraised e d' es' hc hr

theorem EnsuresUnder.attempt {α : Type} {ans : Env → Prop}
    {Q : Except Error α → Db → List Emission → Prop}
    {post : Except Error (Except Error α) → Db → List Emission → Prop} {caught : Error → Bool}
    {p : Tx α} (hp : EnsuresUnder ans Q p d es)
    (hok : ∀ a d' es', Q (.ok a) d' es' → post (.ok (.ok a)) d' es')
    (hcaught : ∀ e d' es', caught e → Q (.error e) d' es' → post (.ok (.error e)) d' es')
    (hraised : ∀ e d' es', ¬ caught e → Q (.error e) d' es' → post (.error e) d' es') :
    EnsuresUnder ans post (attempt caught p) d es := by
  have hmap : EnsuresUnder ans (fun r d' es' => (∀ a, r = .ok a → post (.ok a) d' es') ∧
      ∀ e, r = .error e → Q (.error e) d' es') (Except.ok <$> p) d es := by
    refine hp.bind ?_ ?_
    · exact fun a d' es' h => ⟨fun _ ha => by cases ha; exact hok a d' es' h, fun _ he => nomatch he⟩
    · exact fun e d' es' h => ⟨fun _ ha => (nomatch ha), fun _ he => by cases he; exact h⟩
  refine hmap.tryCatch (fun a d' es' h => h.1 a rfl) ?_
  intro e d' es' h
  by_cases hc : caught e
  · rw [if_pos hc]
    exact hcaught e d' es' hc (h.2 e rfl)
  · rw [if_neg hc]
    exact hraised e d' es' hc (h.2 e rfl)

theorem keeps_attempt {α O : Type} {g : Db → O} {caught : Error → Bool} {p : Tx α} (hp : Keeps g p) :
    Keeps g (attempt caught p) := by
  refine (hp.map Except.ok).tryCatch fun e => ?_
  split_ifs
  · exact keeps_pure _
  · exact keeps_throw _

/-! ## Writing an object -/

section Writes

variable {mid : List Emission → Prop} {d : Db} {es : List Emission}

/-- A changed payment is written with its attribution, unless its refunded amount does not fit. -/
theorem ensures_writePayment {o : Orm PaymentRow} (hmid : mid es) :
    Ensures mid (fun r d' es' => es' = es ∧ (∀ e, r = .error e → e = .numericOverflow) ∧
        ∀ q, r = .ok q → q.row = o.row.setAttribution o.row.attribution ∧
          d' = { d with payments := Table.modify d.payments o.row.id fun p =>
            (o.changes p).setAttribution o.row.attribution })
      (flushPayment o) d es := by
  unfold flushPayment
  rw [ensures_bind, ensures_checkedUpdate]
  refine ⟨hmid, ?_⟩
  by_cases hf : fitsNumeric o.row.amountRefunded
  · rw [if_pos hf]
    refine ⟨rfl, ?_, ?_⟩
    · rintro _ ⟨⟩
    · rintro _ ⟨rfl⟩
      exact ⟨rfl, rfl⟩
  · rw [if_neg hf]
    refine ⟨rfl, ?_, ?_⟩
    · rintro _ ⟨rfl⟩
      rfl
    · rintro _ ⟨⟩

/-- The write of a payment goes through where its refunded amount fits its column. -/
theorem ensures_payment_fits {o : Orm PaymentRow} (hmid : mid es) :
    Ensures mid (fun r _ _ => r.isOk = fitsNumeric o.row.amountRefunded) (flushPayment o) d es := by
  unfold flushPayment
  rw [ensures_bind, ensures_checkedUpdate]
  refine ⟨hmid, ?_⟩
  by_cases hf : fitsNumeric o.row.amountRefunded = true
  · rw [if_pos hf]
    exact hf.symm
  · rw [if_neg hf]
    exact (Bool.eq_false_iff.mpr hf).symm

/-- A changed booking is written with its attribution. -/
theorem ensures_writeBooking {o : Orm BookingRow} (hmid : mid es) :
    Ensures mid (Returns fun b d' es' => es' = es ∧
        b.row = o.row.setAttribution o.row.attribution ∧
        d' = { d with bookings := Table.modify d.bookings o.row.id fun b =>
          (o.changes b).setAttribution o.row.attribution })
      (flushBooking o) d es := by
  unfold flushBooking
  rw [ensures_bind, ensures_update]
  exact ⟨hmid, rfl, rfl, rfl⟩

/-! ### Inserts -/

theorem ensures_generatePaymentNumber (hmid : mid es) :
    Ensures mid (Returns fun _ d' es' => d' = d ∧ es' = es) generatePaymentNumber d es := by
  unfold generatePaymentNumber
  rw [ensures_bind_ask]
  refine ⟨hmid, fun a => ?_⟩
  rw [ensures_bind_queryForUpdate, ensures_query]
  exact ⟨hmid, hmid, rfl, rfl⟩

theorem paymentConflict_none {p : PaymentRow} (h : paymentConflict d p = none) :
    Table.get d.payments p.id = none := by
  unfold paymentConflict at h
  split_ifs at h with h1
  simpa using h1

theorem ensures_insertPayment {p : PaymentRow} (hmid : mid es) :
    Ensures mid (fun r d' es' => es' = es ∧
        (∀ e, r = .error e → paymentConflict d p.beforeWrite = some e ∧ d' = d) ∧
        ∀ q, r = .ok q → q = p.beforeWrite ∧ Table.get d.payments q.id = none ∧
          d' = { d with payments := d.payments ++ [q] })
      (insertPayment p) d es := by
  unfold insertPayment
  rw [ensures_bind, ensures_checkedUpdate]
  refine ⟨hmid, ?_⟩
  cases hc : paymentConflict d p.beforeWrite with
  | some e =>
    refine ⟨rfl, ?_, ?_⟩
    · rintro _ ⟨rfl⟩
      exact ⟨rfl, rfl⟩
    · rintro _ ⟨⟩
  | none =>
    refine ⟨rfl, ?_, ?_⟩
    · rintro _ ⟨⟩
    · rintro _ ⟨rfl⟩
      exact ⟨rfl, paymentConflict_none hc, rfl⟩

end Writes

end Transactions
