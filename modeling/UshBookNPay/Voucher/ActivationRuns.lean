import UshBookNPay.Lib.RowLocks
import UshBookNPay.Voucher.ScheduledDelivery

/-!
# Interleaved activations

Transactions that reschedule, cancel, reconcile and activate one gift voucher, interleaved in any order.
A message of the scheduler may come at any time and more than once.
-/

open Transactions (System Session Event Protected)

namespace Voucher

inductive DeliveryOp where
  | reschedule (newScheduledDeliveryAt : DateTimeArg)
  | cancel (args : StatusArgs)
  | reconcile (limit : ℕ)
  /-- a message of the scheduler -/
  | activate (result : Option Json)

def deliveryCode (voucherId : Uuid) : DeliveryOp → Tx Unit
  | .reschedule newScheduledDeliveryAt => discard (rescheduleVoucher voucherId newScheduledDeliveryAt)
  | .cancel args => discard (updateStatus none voucherId .cancelled args)
  | .reconcile limit => discard (reconcileOverdueScheduledVouchers limit)
  | .activate result => discard (activateScheduledVoucher none voucherId result)

/-- The operation may activate the voucher. -/
def DeliveryOp.activates : DeliveryOp → Bool
  | .reschedule _ => false
  | .cancel _ => false
  | .reconcile _ => true
  | .activate _ => true

abbrev DeliverySystem := System Db LockKey Emission Env Error Unit DeliveryOp

abbrev DeliverySession := Session Db LockKey Emission Env Error Unit DeliveryOp

/-- The row of the voucher, and the event that goes with its activation. -/
def voucherRow (voucherId : Uuid) : Protected Db LockKey Emission (Option GiftVoucherRow) where
  lock := .row "gift_vouchers" voucherId
  part d := Table.get d.giftVouchers voucherId
  loud := .voucherStatus voucherId .active
  valid d := Table.Unique d.giftVouchers

/-- A committed activation: the time it has recorded, the time that was scheduled for the delivery then,
and whether a cancellation had been committed before. -/
structure Activation where
  deliveredAt : Option Instant
  due : Option Instant
  cancelled : Bool
  deriving DecidableEq

/-- The system with what its runs are judged by: the activations and the cancellation that have been
committed. -/
structure Watch where
  system : DeliverySystem
  activations : List Activation := []
  cancelled : Bool := false

/-- The session commits an activation of the voucher: it has written the row. -/
def commitsActivation (voucherId : Uuid) (t : DeliverySession) : Bool :=
  t.op.activates ∧ t.committing ∧ (voucherRow voucherId).lock ∈ t.locks

def activationOf (voucherId : Uuid) (w : Watch) (t : DeliverySession) : Activation :=
  { deliveredAt := (Table.get (t.writes w.system.db).giftVouchers voucherId).bind (·.deliveredAt)
    due := (Table.get w.system.db.giftVouchers voucherId).bind (·.scheduledDeliveryAt)
    cancelled := w.cancelled }

/-- What an event adds to the activations. -/
def activations (voucherId : Uuid) (w : Watch) : Event DeliveryOp Env → List Activation
  | .finish sid => ((Table.get w.system.sessions sid).filter (commitsActivation voucherId)).toList.map
      (activationOf voucherId w)
  | _ => []

/-- The committed voucher is cancelled. -/
def isCancelled (voucherId : Uuid) (d : Db) : Bool :=
  (Table.get d.giftVouchers voucherId).any (·.status = .cancelled)

/-- One event of a run. -/
def deliveryStep (voucherId : Uuid) (w : Watch) (ev : Event DeliveryOp Env) : Watch :=
  let s := w.system.step (deliveryCode voucherId) ev
  { system := s
    activations := w.activations ++ activations voucherId w ev
    cancelled := w.cancelled || isCancelled voucherId s.db }

/-! ## What is to hold of the runs -/

/-- The voucher is activated at most once, not before the time scheduled for it then and not after a
cancellation, and one event says so at most. -/
structure ActivatedOnce (voucherId : Uuid) (w : Watch) : Prop where
  once : w.activations.length ≤ 1
  due : ∀ a ∈ w.activations, ∀ due ∈ a.due, ∃ at' ∈ a.deliveredAt, due ≤ at'
  notCancelled : ∀ a ∈ w.activations, a.cancelled = false
  event : w.system.log.count (.voucherStatus voucherId .active) ≤ 1

instance (voucherId : Uuid) (w : Watch) : Decidable (ActivatedOnce voucherId w) :=
  decidable_of_iff
    (w.activations.length ≤ 1 ∧
      (∀ a ∈ w.activations, ∀ due ∈ a.due, ∃ at' ∈ a.deliveredAt, due ≤ at') ∧
      (∀ a ∈ w.activations, a.cancelled = false) ∧
      w.system.log.count (.voucherStatus voucherId .active) ≤ 1)
    ⟨fun ⟨h1, h2, h3, h4⟩ => ⟨h1, h2, h3, h4⟩, fun h => ⟨h.1, h.2, h.3, h.4⟩⟩

/-- The effect of the statement a session runs next. -/
def nextEffect (s : DeliverySystem) (t : DeliverySession) (answer : Env) :
    Option (Transactions.Effect Db LockKey Emission) :=
  match t.prog with
  | .stmt eff _ => some (eff answer (t.writes s.db))
  | _ => none

/-- The voucher that `e` is about to deliver is still scheduled, for no later than the time that `e`
records. -/
def StillDue (voucherId : Uuid) (s : DeliverySystem) (t : DeliverySession)
    (e : Transactions.Effect Db LockKey Emission) : Prop :=
  ∃ v ∈ Table.get s.db.giftVouchers voucherId, v.status = .scheduled ∧
    ∀ due ∈ v.scheduledDeliveryAt,
      ∃ at' ∈ (Table.get (e.write (t.writes s.db)).giftVouchers voucherId).bind (·.deliveredAt),
        due ≤ at'

def raised (t : DeliverySession) : Bool :=
  match t.prog with
  | .raise _ => true
  | _ => false

/-- An activation updates a voucher that is still due, and none is rolled back that has sent its
event. -/
def OnTime (voucherId : Uuid) (w : Watch) : Event DeliveryOp Env → Prop
  | .start _ _ => True
  | .exec sid answer => ∀ t ∈ Table.get w.system.sessions sid, t.op.activates →
      ∀ e ∈ nextEffect w.system t answer, (voucherRow voucherId).lock ∈ e.locks →
        w.system.blocked sid e.locks = false → StillDue voucherId w.system t e
  | .finish sid => ∀ t ∈ Table.get w.system.sessions sid, raised t →
      (voucherRow voucherId).loud ∉ t.emitted
  | .crash sid => ∀ t ∈ Table.get w.system.sessions sid, (voucherRow voucherId).loud ∉ t.emitted

instance (voucherId : Uuid) (s : DeliverySystem) (t : DeliverySession)
    (e : Transactions.Effect Db LockKey Emission) : Decidable (StillDue voucherId s t e) :=
  inferInstanceAs (Decidable (∃ v ∈ Table.get s.db.giftVouchers voucherId, _ ∧
    ∀ due ∈ v.scheduledDeliveryAt, ∃ at' ∈ Option.bind _ _, due ≤ at'))

instance (voucherId : Uuid) (w : Watch) : ∀ ev, Decidable (OnTime voucherId w ev)
  | .start _ _ => .isTrue trivial
  | .exec sid answer => inferInstanceAs (Decidable (∀ t ∈ Table.get w.system.sessions sid,
      t.op.activates → ∀ e ∈ nextEffect w.system t answer, _ → _ → StillDue voucherId w.system t e))
  | .finish sid => inferInstanceAs (Decidable (∀ t ∈ Table.get w.system.sessions sid, _ → _))
  | .crash sid => inferInstanceAs (Decidable (∀ t ∈ Table.get w.system.sessions sid, _))

end Voucher
