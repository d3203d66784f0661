import UshBookNPay.Lib.RowLocks
import UshBookNPay.Shop.ShopOrderService

/-!
# Interleaved orders

Transactions that create, pay and deliver orders, interleaved statement by statement. A use case that
has committed refreshes its order and enqueues the event; its process may die before.
-/

open Transactions (System Session Event Protected)

namespace Shop

inductive ShopOp where
  | create (body : CreateShopOrderRequest) (args : CreateOrderArgs)
  | pay (orderId : Uuid) (newPaymentStatus : OrderPaymentStatus) (args : PaymentArgs)
  | deliver (orderId : Uuid) (newStatus : DeliveryStatus) (changedBy : String) (note : Option String)
  | confirm (publicToken trackingCode : String)

def shopCode : ShopOp → ShopTx Done
  | .create body args => createOrder body args
  | .pay orderId newPaymentStatus args => updatePaymentStatus orderId newPaymentStatus args
  | .deliver orderId newStatus changedBy note => updateDeliveryStatus orderId newStatus changedBy note
  | .confirm publicToken trackingCode => confirmReceived publicToken trackingCode

abbrev ShopSystem := System ShopDb LockKey Unit ShopEnv ShopError Done ShopOp

abbrev ShopSession := Session ShopDb LockKey Unit ShopEnv ShopError Done ShopOp

/-- What a run does. -/
inductive ShopEvent where
  | database (ev : Event ShopOp ShopEnv)
  /-- a use case that has committed refreshes its order and enqueues the event -/
  | announce (done : Done)
  /-- its process dies before -/
  | lose (done : Done)

/-- The system with the use cases that have committed and not come to their end, the events that have
been enqueued, and how often the payment of the order has changed into success. -/
structure ShopWatch where
  system : ShopSystem := { db := {} }
  committed : List Done := []
  events : List ShopOrderCreatedEvent := []
  paid : ℕ := 0

/-- What the session is about to commit. -/
def outcome (t : ShopSession) : List Done :=
  match t.prog with
  | .ret done => [done]
  | _ => []

/-- The use cases that an event commits. -/
def commits (s : ShopSystem) : Event ShopOp ShopEnv → List Done
  | .finish sid => (Table.get s.sessions sid).toList.flatMap outcome
  | _ => []

/-- The order is paid. -/
def isPaid (orderId : Uuid) (d : ShopDb) : Bool :=
  (Table.get d.orders orderId).any (·.paymentStatus = .success)

/-- One event of a run, watched for one order. -/
def shopStep (orderId : Uuid) (w : ShopWatch) : ShopEvent → ShopWatch
  | .database ev =>
    let s := w.system.step shopCode ev
    { w with
      system := s
      committed := w.committed ++ commits w.system ev
      paid := w.paid + (if isPaid orderId s.db ∧ ¬ isPaid orderId w.system.db then 1 else 0) }
  | .announce done =>
    if done ∈ w.committed then
      { w with
        committed := w.committed.erase done
        events := w.events ++ enqueued w.system.db done }
    else w
  | .lose done => { w with committed := w.committed.erase done }

/-! ## What is to hold of the runs -/

/-- The use case is about to enqueue an event of the order. -/
def Done.owes (orderId : Uuid) : Done → Bool
  | .created id paymentStatus => id = orderId ∧ paymentStatus = .success
  | .paid id newPaymentStatus => id = orderId ∧ newPaymentStatus = .success
  | .moved _ => false

/-- The steps make one path of the transitions from a status to another. -/
def Path : DeliveryStatus → List (DeliveryStatus × DeliveryStatus) → DeliveryStatus → Prop
  | start, [], current => start = current
  | start, (source, target) :: rest, current =>
    source = start ∧ canTransition start target ∧ Path target rest current

instance decidablePath : ∀ start steps current, Decidable (Path start steps current)
  | _, [], _ => inferInstanceAs (Decidable (_ = _))
  | _, (_, target) :: rest, current =>
    haveI := decidablePath target rest current
    inferInstanceAs (Decidable (_ ∧ _ ∧ _))

/-- The steps of the status history of an order. -/
def stepsOf (d : ShopDb) (orderId : Uuid) : List (DeliveryStatus × DeliveryStatus) :=
  (historyOf d orderId).map fun h => (h.fromStatus, h.toStatus)

/-- The history of an order begins when it is placed; what follows is one path to its status, with each
step once. -/
def Recorded (orderId : Uuid) (d : ShopDb) : Prop :=
  ((Table.get d.orders orderId).isNone → stepsOf d orderId = []) ∧
    ∀ order ∈ Table.get d.orders orderId, (stepsOf d orderId).head? = some (.ordered, .ordered) ∧
      Path .ordered (stepsOf d orderId).tail order.deliveryStatus ∧ (stepsOf d orderId).tail.Nodup

instance (orderId : Uuid) (d : ShopDb) : Decidable (Recorded orderId d) :=
  inferInstanceAs (Decidable ((_ → _ = _) ∧ ∀ order ∈ Table.get d.orders orderId, _ = _ ∧ _ ∧ _))

/-- Each change of the payment into success has enqueued one event or is about to, and the status history
tells how the order has come to its status. -/
structure Told (orderId : Uuid) (w : ShopWatch) : Prop where
  announced : (w.events.filter (·.order.id = orderId)).length +
    (w.committed.filter (Done.owes orderId)).length = w.paid
  recorded : Recorded orderId w.system.db

instance (orderId : Uuid) (w : ShopWatch) : Decidable (Told orderId w) :=
  decidable_of_iff
    ((w.events.filter (·.order.id = orderId)).length +
      (w.committed.filter (Done.owes orderId)).length = w.paid ∧ Recorded orderId w.system.db)
    ⟨fun ⟨h1, h2⟩ => ⟨h1, h2⟩, fun h => ⟨h.1, h.2⟩⟩

/-- The delivery status the operation sets. -/
def ShopOp.target : ShopOp → Option DeliveryStatus
  | .deliver _ newStatus _ _ => some newStatus
  | .confirm _ _ => some .received
  | .create _ _ => none
  | .pay _ _ _ => none

/-- The operation marks the order as paid. -/
def ShopOp.pays (orderId : Uuid) : ShopOp → Bool
  | .pay id newPaymentStatus _ => id = orderId ∧ newPaymentStatus = .success
  | .deliver _ _ _ _ => false
  | .confirm _ _ => false
  | .create _ _ => false

/-- A statement with the locks `locks` on the database `d`: who marks the order as paid finds that it is
not, and who moves it finds it where the transition begins. -/
def Finds (orderId : Uuid) (op : ShopOp) (locks : List LockKey) (d : ShopDb) : Prop :=
  (op.pays orderId → ¬ isPaid orderId d) ∧
    ∀ newStatus ∈ op.target, .row "shop_orders" orderId ∈ locks →
      ∀ order ∈ Table.get d.orders orderId, canTransition order.deliveryStatus newStatus

instance (orderId : Uuid) (op : ShopOp) (locks : List LockKey) (d : ShopDb) :
    Decidable (Finds orderId op locks d) :=
  inferInstanceAs (Decidable (_ ∧ ∀ newStatus ∈ op.target, _ →
    ∀ order ∈ Table.get d.orders orderId, canTransition order.deliveryStatus newStatus = true))

/-- The locks of the statement a session runs next. -/
def nextLocks (s : ShopSystem) (t : ShopSession) (answer : ShopEnv) : Option (List LockKey) :=
  match t.prog with
  | .stmt eff _ => some (eff answer (t.writes s.db)).locks
  | _ => none

/-- Each statement that is run finds the order as it has to, a new order is still paid, or not, when it is
refreshed, and no process dies that is about to enqueue an event. -/
def Undisturbed (orderId : Uuid) (w : ShopWatch) : ShopEvent → Prop
  | .database (.exec sid answer) => ∀ t ∈ Table.get w.system.sessions sid,
      ∀ locks ∈ nextLocks w.system t answer, w.system.blocked sid locks = false →
        Finds orderId t.op locks w.system.db
  | .database _ => True
  | .announce (.created id paymentStatus) => id = orderId → .created id paymentStatus ∈ w.committed →
      (isPaid orderId w.system.db ↔ paymentStatus = .success)
  | .announce _ => True
  | .lose done => done ∈ w.committed → ¬ done.owes orderId

instance (orderId : Uuid) (w : ShopWatch) : ∀ ev, Decidable (Undisturbed orderId w ev)
  | .database (.exec sid answer) => inferInstanceAs (Decidable (∀ t ∈ Table.get w.system.sessions sid,
      ∀ locks ∈ nextLocks w.system t answer, _ → Finds orderId t.op locks w.system.db))
  | .database (.start _ _) => .isTrue trivial
  | .database (.finish _) => .isTrue trivial
  | .database (.crash _) => .isTrue trivial
  | .announce (.created _ _) => inferInstanceAs (Decidable (_ → _ ∈ w.committed → (_ ↔ _)))
  | .announce (.paid _ _) => .isTrue trivial
  | .announce (.moved _) => .isTrue trivial
  | .lose done => inferInstanceAs (Decidable (done ∈ w.committed → ¬ _))

end Shop
