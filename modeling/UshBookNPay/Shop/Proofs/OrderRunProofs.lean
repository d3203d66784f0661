import UshBookNPay.Shop.Proofs.OrderProofs

/-!
# Orders that are changed at once

At most one transaction in flight has changed an order. Where each statement finds the order as it has to,
what has been committed, enqueued and recorded fits together in every state of a run.
-/

open Transactions (System Session Event Effect Effect.Quiet UntilUnder Protected Exclusive)

namespace Shop

variable {orderId : Uuid} {w w' : ShopWatch} {t : ShopSession} {d : ShopDb}

/-! ## The invariant -/

/-- A session that does not hold the row lock has left the order alone; one that does has changed it, and
commits what is good. -/
inductive Stage (orderId : Uuid) (d : ShopDb) (t : ShopSession) : Prop
  | away : (orderRow orderId).lock ∉ t.locks →
      (∀ d, orderPart orderId (t.writes d) = orderPart orderId d) → Obeys orderId t.op t.prog →
      Stage orderId d t
  | changed (g : OrderPart → OrderPart) : (orderRow orderId).lock ∈ t.locks →
      (∀ d, orderPart orderId (t.writes d) = g (orderPart orderId d)) →
      Completes orderId (orderPart orderId d) g t.prog → Stage orderId d t

/-- A commit that leaves the order as it was. -/
theorem Stage.congr {d' : ShopDb} (h : Stage orderId d t)
    (heq : orderPart orderId d' = orderPart orderId d) : Stage orderId d' t := by
  cases h with
  | away h1 h2 h3 => exact .away h1 h2 h3
  | changed g h1 h2 h3 => exact .changed g h1 h2 (heq ▸ h3)

/-- A session that does not hold the lock, whatever becomes of the order. -/
theorem Stage.of_unlocked {d' : ShopDb} (h : Stage orderId d t)
    (hlock : (orderRow orderId).lock ∉ t.locks) : Stage orderId d' t := by
  cases h with
  | away h1 h2 h3 => exact .away h1 h2 h3
  | changed _ h _ _ => exact (hlock h).elim

structure Fits (orderId : Uuid) (w : ShopWatch) : Prop where
  exclusive : Exclusive (orderRow orderId).lock w.system
  sessions : ∀ sid t, Table.get w.system.sessions sid = some t → Stage orderId w.system.db t
  kept : ∀ done ∈ w.committed, done.owes orderId → (Table.get w.system.db.orders orderId).isSome
  told : Told orderId w

theorem isPaid_eq (d : ShopDb) : isPaid orderId d = (orderPart orderId d).isPaid := rfl

/-- What an event of the database makes of the watch. -/
def ShopWatch.after (orderId : Uuid) (w : ShopWatch) (s : ShopSystem) (dones : List Done) : ShopWatch :=
  { w with
    system := s
    committed := w.committed ++ dones
    paid := w.paid + if isPaid orderId s.db ∧ ¬ isPaid orderId w.system.db then 1 else 0 }

/-- An event that commits nothing. -/
theorem Fits.uncommitted (h : Fits orderId w) {s : ShopSystem} (hdb : s.db = w.system.db)
    (hexclusive : Exclusive (orderRow orderId).lock s)
    (hsessions : ∀ sid t, Table.get s.sessions sid = some t → Stage orderId w.system.db t) :
    Fits orderId (w.after orderId s []) := by
  have hnot : ¬ (isPaid orderId s.db ∧ ¬ isPaid orderId w.system.db) := by
    rw [hdb]
    exact fun hboth => hboth.2 hboth.1
  constructor
  · exact hexclusive
  · show ∀ sid t, _ → Stage orderId s.db t
    rw [hdb]
    exact hsessions
  · show ∀ done ∈ w.committed ++ [], _ → (Table.get s.db.orders orderId).isSome
    rw [hdb, List.append_nil]
    exact h.kept
  · constructor
    · show _ + ((w.committed ++ []).filter _).length = w.paid + _
      rw [List.append_nil, if_neg hnot]
      exact h.told.announced
    · show Recorded orderId s.db
      rw [hdb]
      exact h.told.recorded

/-- A session goes without a commit. -/
theorem Fits.gone (h : Fits orderId w) (sid : ℕ) : Fits orderId (w.after orderId
    { w.system with sessions := Table.erase w.system.sessions sid } []) := by
  refine h.uncommitted rfl (h.exclusive.erase _ sid) ?_
  exact fun i t ht => h.sessions i t (Table.get_of_get_erase ht).2

theorem Fits.start (h : Fits orderId w) (sid : ℕ) (op : ShopOp) :
    Fits orderId (shopStep orderId w (.database (.start sid op))) := by
  by_cases hthere : (Table.get w.system.sessions sid).isSome
  · have hsystem : w.system.step shopCode (.start sid op) = w.system := if_pos hthere
    show Fits orderId (w.after orderId (w.system.step shopCode (.start sid op)) [])
    rw [hsystem]
    exact h.uncommitted rfl h.exclusive h.sessions
  · have hsystem : w.system.step shopCode (.start sid op) = { w.system with
        sessions := w.system.sessions ++ [{ sid := sid, op := op, prog := shopCode op }] } :=
      if_neg hthere
    show Fits orderId (w.after orderId (w.system.step shopCode (.start sid op)) [])
    rw [hsystem]
    refine h.uncommitted rfl (h.exclusive.start rfl) fun i t ht => ?_
    rcases System.get_started ht with rfl | ht
    · exact .away List.not_mem_nil (fun _ => rfl) (obeys_shopCode op)
    · exact h.sessions i t ht

/-! ## Statements -/

theorem Finds.congr {op : ShopOp} {locks : List LockKey} {d' : ShopDb} (h : Finds orderId op locks d)
    (heq : orderPart orderId d' = orderPart orderId d) : Finds orderId op locks d' := by
  have hget : Table.get d'.orders orderId = Table.get d.orders orderId := congrArg Prod.fst heq
  unfold Finds isPaid at h ⊢
  rw [hget]
  exact h

/-- A statement of a session that finds the order as it has to. -/
theorem Stage.advance (h : Stage orderId d t) {answer : ShopEnv}
    {eff : ShopEnv → ShopDb → Effect ShopDb LockKey Unit} {next : ShopEnv → ShopDb → ShopTx Done}
    (hprog : t.prog = .stmt eff next)
    (hfinds : Finds orderId t.op (eff answer (t.writes d)).locks d) :
    Stage orderId d (t.advance (eff answer (t.writes d)) (next answer (t.writes d))) := by
  cases h with
  | away hlock hwrites hobeys =>
    rw [hprog] at hobeys
    rcases hobeys answer (t.writes d) trivial (hfinds.congr (hwrites d)) with ⟨hquiet, hnext⟩ | hchange
    · refine .away ?_ (fun d' => ?_) hnext
      · intro hmem
        rcases List.mem_append.mp hmem with hold | hnew
        · exact hlock hold
        · exact hquiet.unlocked hnew
      · exact (hquiet.part (t.writes d')).trans (hwrites d')
    · obtain ⟨g, hg, hcompletes⟩ := hchange.completes
      rw [hwrites d] at hcompletes
      refine .changed g (List.mem_append_right _ hchange.locked) (fun d' => ?_) hcompletes
      exact (hg (t.writes d')).trans (congrArg g (hwrites d'))
  | changed g hlock hwrites hcompletes =>
    rw [hprog] at hcompletes
    obtain ⟨g', -, hg', hnext⟩ := hcompletes answer (t.writes d)
    refine .changed (g' ∘ g) (List.mem_append_left _ hlock) (fun d' => ?_) hnext
    exact (hg' (t.writes d')).trans (congrArg g' (hwrites d'))

theorem Fits.exec (h : Fits orderId w) {sid : ℕ} {answer : ShopEnv}
    (hev : Undisturbed orderId w (.database (.exec sid answer))) :
    Fits orderId (shopStep orderId w (.database (.exec sid answer))) := by
  show Fits orderId (w.after orderId (w.system.step shopCode (.exec sid answer)) [])
  cases hget : Table.get w.system.sessions sid with
  | none =>
    have hsystem : w.system.step shopCode (.exec sid answer) = w.system :=
      System.withSession_none hget _
    rw [hsystem]
    exact h.uncommitted rfl h.exclusive h.sessions
  | some t =>
    have hsid : t.sid = sid := (Table.get_some hget).2
    subst hsid
    rcases System.exec_advanced shopCode hget answer with hsame | ⟨eff, next, hprog, hfree, hstep⟩
    · rw [hsame]
      exact h.uncommitted rfl h.exclusive h.sessions
    · have hlocks : nextLocks w.system t answer = some (eff answer (t.writes w.system.db)).locks := by
        unfold nextLocks
        rw [hprog]
      have hfinds := hev t hget _ hlocks hfree
      rw [hstep]
      refine h.uncommitted rfl (h.exclusive.advanced hget hfree _) fun i u hu => ?_
      rcases System.get_advanced hget _ _ hu with ⟨rfl, rfl⟩ | ⟨-, hu⟩
      · exact (h.sessions _ t hget).advance hprog hfinds
      · exact h.sessions i u hu

/-! ## Commits -/

/-- The database of a commit, in which the order has become what it tells. -/
theorem Fits.committed (h : Fits orderId w) {done : Done}
    (hothers : ∀ sid u, sid ≠ t.sid → Table.get w.system.sessions sid = some u →
      Stage orderId (t.writes w.system.db) u)
    (hgood : Good orderId (orderPart orderId w.system.db)
      (orderPart orderId (t.writes w.system.db)) done) :
    Fits orderId (w.after orderId { w.system with
      db := t.writes w.system.db
      sessions := Table.erase w.system.sessions t.sid } [done]) := by
  constructor
  · exact h.exclusive.erase _ _
  · intro i u hu
    obtain ⟨hne, hu⟩ := Table.get_of_get_erase hu
    exact hothers i u hne hu
  · intro done' hmem howes
    show (orderPart orderId (t.writes w.system.db)).1.isSome
    rcases List.mem_append.mp hmem with hold | hnew
    · exact hgood.kept (h.kept done' hold howes)
    · rw [List.mem_singleton.mp hnew] at howes
      have hpaid := (hgood.paid.mpr howes).1
      unfold OrderPart.isPaid at hpaid
      cases hrow : (orderPart orderId (t.writes w.system.db)).1 with
      | none =>
        rw [hrow] at hpaid
        cases hpaid
      | some row => rfl
  · constructor
    · show (w.events.filter _).length + ((w.committed ++ [done]).filter _).length = w.paid +
        if isPaid orderId (t.writes w.system.db) ∧ ¬ isPaid orderId w.system.db then 1 else 0
      rw [isPaid_eq, isPaid_eq, List.filter_append, List.length_append, ← add_assoc,
        h.told.announced]
      by_cases howes : done.owes orderId
      · rw [if_pos (hgood.paid.mpr howes)]
        simp [howes]
      · rw [if_neg fun hpaid => howes (hgood.paid.mp hpaid)]
        simp [howes]
    · exact hgood.recorded h.told.recorded

/-- A commit of a session that has left the order alone. -/
theorem good_unchanged {p : OrderPart} {done : Done} (h : ¬ done.owes orderId) :
    Good orderId p p done := by
  constructor
  · exact ⟨fun hboth => (hboth.2 hboth.1).elim, fun howes => (h howes).elim⟩
  · exact fun h => h
  · exact fun h => h

theorem Fits.commit (h : Fits orderId w) (ht : Table.get w.system.sessions t.sid = some t)
    {done : Done} (hprog : t.prog = .ret done) :
    Fits orderId (w.after orderId { w.system with
      db := t.writes w.system.db
      sessions := Table.erase w.system.sessions t.sid } [done]) := by
  cases h.sessions t.sid t ht with
  | away _ hwrites hobeys =>
    rw [hprog] at hobeys
    have hpart := hwrites w.system.db
    refine h.committed (fun sid u _ hu => (h.sessions sid u hu).congr hpart) ?_
    rw [hpart]
    exact good_unchanged hobeys
  | changed g hlock hwrites hcompletes =>
    rw [hprog] at hcompletes
    refine h.committed (fun sid u hne hu => ?_) ?_
    · refine (h.sessions sid u hu).of_unlocked fun hmem => ?_
      exact hne (h.exclusive sid u t.sid t hu ht hmem hlock)
    · rw [hwrites w.system.db]
      exact hcompletes

theorem Fits.finish (h : Fits orderId w) (sid : ℕ) :
    Fits orderId (shopStep orderId w (.database (.finish sid))) := by
  show Fits orderId (w.after orderId (w.system.step shopCode (.finish sid))
    ((Table.get w.system.sessions sid).toList.flatMap outcome))
  cases hget : Table.get w.system.sessions sid with
  | none =>
    have hsystem : w.system.step shopCode (.finish sid) = w.system := System.withSession_none hget _
    rw [hsystem]
    exact h.uncommitted rfl h.exclusive h.sessions
  | some t =>
    have hsid : t.sid = sid := (Table.get_some hget).2
    subst hsid
    cases hprog : t.prog with
    | ret done =>
      have houtcome : (some t).toList.flatMap outcome = [done] := by
        show outcome t ++ [] = [done]
        unfold outcome
        rw [hprog]
        rfl
      rw [System.step_commit shopCode hget hprog, houtcome]
      exact h.commit hget hprog
    | raise e =>
      have houtcome : (some t).toList.flatMap outcome = [] := by
        show outcome t ++ [] = []
        unfold outcome
        rw [hprog]
        rfl
      rw [System.step_rollback shopCode hget hprog, houtcome]
      exact h.gone t.sid
    | stmt eff next =>
      have houtcome : (some t).toList.flatMap outcome = [] := by
        show outcome t ++ [] = []
        unfold outcome
        rw [hprog]
        rfl
      have hsystem : w.system.step shopCode (.finish t.sid) = w.system := by
        rw [System.step, System.withSession_some hget, System.finish, hprog]
      rw [hsystem, houtcome]
      exact h.uncommitted rfl h.exclusive h.sessions

/-! ## Events -/

theorem length_filter_erase {α : Type} [DecidableEq α] {l : List α} {x : α} (hx : x ∈ l)
    (p : α → Bool) : ((l.erase x).filter p).length + (if p x then 1 else 0) = (l.filter p).length := by
  have hperm : (l.filter p).Perm ((x :: l.erase x).filter p) := (List.perm_cons_erase hx).filter p
  rw [hperm.length_eq, List.filter_cons]
  split_ifs
  · rfl
  · rfl

theorem orderId_of_owes {done : Done} (h : done.owes orderId) : done.orderId = orderId := by
  cases done with
  | created id paymentStatus =>
    unfold Done.owes at h
    exact (of_decide_eq_true h).1
  | paid id newPaymentStatus =>
    unfold Done.owes at h
    exact (of_decide_eq_true h).1
  | moved id => cases h

/-- The events of another order, or of none, are no events of this one. -/
theorem length_enqueued (d : ShopDb) (done : Done) (hsome : done.owes orderId →
      (Table.get d.orders orderId).isSome)
    (hcreated : ∀ paymentStatus, done = .created orderId paymentStatus →
      (isPaid orderId d ↔ paymentStatus = .success)) :
    ((enqueued d done).filter (·.order.id = orderId)).length = if done.owes orderId then 1 else 0 := by
  unfold enqueued
  by_cases hid : done.orderId = orderId
  · cases hget : Table.get d.orders done.orderId with
    | none =>
      have hnot : ¬ done.owes orderId := by
        intro howes
        have hthere := hsome howes
        rw [← hid, hget] at hthere
        cases hthere
      rw [if_neg hnot]
      rfl
    | some order =>
      have horder : order.id = orderId := (Table.get_some hget).2.trans hid
      rw [hid] at hget
      cases done with
      | created id paymentStatus =>
        have hid' : id = orderId := hid
        subst hid'
        have hiff : order.paymentStatus = .success ↔ paymentStatus = .success :=
          (isPaid_of_get hget).symm.trans (hcreated paymentStatus rfl)
        by_cases hsuccess : order.paymentStatus = .success
        · simp [hsuccess, Done.owes, hiff.mp hsuccess, horder]
        · have hnot : paymentStatus ≠ .success := fun h => hsuccess (hiff.mpr h)
          simp [hsuccess, Done.owes, hnot]
      | paid id newPaymentStatus =>
        have hid' : id = orderId := hid
        by_cases hsuccess : newPaymentStatus = .success
        · simp [hsuccess, Done.owes, hid', horder]
        · simp [hsuccess, Done.owes]
      | moved id => rfl
  · have hnot : ¬ done.owes orderId := fun h => hid (orderId_of_owes h)
    rw [if_neg hnot, List.length_eq_zero_iff, List.filter_eq_nil_iff]
    intro event hevent
    cases hget : Table.get d.orders done.orderId with
    | none =>
      rw [hget] at hevent
      cases hevent
    | some order =>
      have hkey : order.id = done.orderId := (Table.get_some hget).2
      have horder : order.id ≠ orderId := by
        rw [hkey]
        exact hid
      rw [hget] at hevent
      have hevent' : event.order = order := by
        cases done with
        | created id paymentStatus =>
          dsimp only at hevent
          split_ifs at hevent
          · rw [List.mem_singleton.mp hevent]
          · cases hevent
        | paid id newPaymentStatus =>
          dsimp only at hevent
          split_ifs at hevent
          · rw [List.mem_singleton.mp hevent]
          · cases hevent
        | moved id => cases hevent
      rw [hevent']
      simpa using horder

theorem Fits.announce (h : Fits orderId w) {done : Done}
    (hev : Undisturbed orderId w (.announce done)) :
    Fits orderId (shopStep orderId w (.announce done)) := by
  show Fits orderId (if done ∈ w.committed then _ else w)
  by_cases hmem : done ∈ w.committed
  · rw [if_pos hmem]
    refine ⟨h.exclusive, h.sessions, fun other hother => h.kept other (List.mem_of_mem_erase hother), ?_,
      h.told.recorded⟩
    have hcreated : ∀ paymentStatus, done = .created orderId paymentStatus →
        (isPaid orderId w.system.db ↔ paymentStatus = .success) := by
      rintro paymentStatus rfl
      exact hev rfl hmem
    show ((w.events ++ enqueued w.system.db done).filter _).length +
      ((w.committed.erase done).filter _).length = w.paid
    rw [List.filter_append, List.length_append, length_enqueued _ _ (h.kept done hmem) hcreated,
      ← h.told.announced, ← length_filter_erase hmem (Done.owes orderId)]
    omega
  · rw [if_neg hmem]
    exact h

theorem Fits.lose (h : Fits orderId w) {done : Done} (hev : Undisturbed orderId w (.lose done)) :
    Fits orderId (shopStep orderId w (.lose done)) := by
  refine ⟨h.exclusive, h.sessions, fun other hother => h.kept other (List.mem_of_mem_erase hother), ?_,
    h.told.recorded⟩
  show _ + ((w.committed.erase done).filter _).length = w.paid
  by_cases hmem : done ∈ w.committed
  · have hlength := length_filter_erase hmem (Done.owes orderId)
    rw [if_neg (hev hmem), Nat.add_zero] at hlength
    rw [hlength]
    exact h.told.announced
  · rw [List.erase_of_not_mem hmem]
    exact h.told.announced

/-! ## Runs -/

theorem Fits.step (h : Fits orderId w) {ev : ShopEvent} (hev : Undisturbed orderId w ev) :
    Fits orderId (shopStep orderId w ev) := by
  cases ev with
  | database ev =>
    cases ev with
    | start sid op => exact h.start sid op
    | exec sid answer => exact h.exec hev
    | finish sid => exact h.finish sid
    | crash sid => exact h.gone sid
  | announce done => exact h.announce hev
  | lose done => exact h.lose hev

theorem fits_empty (orderId : Uuid) : Fits orderId {} := by
  constructor
  · intro sid t sid' t' ht
    cases ht
  · intro sid t ht
    cases ht
  · intro done hdone
    cases hdone
  · exact ⟨rfl, fun _ => rfl, fun order horder => by cases horder⟩

/-- In every run whose statements find the order as they have to, each change of its payment into success
enqueues one event, and its history is the path to its status. -/
theorem order_told (orderId : Uuid) (evs : List ShopEvent)
    (h : Runs.AllSteps (shopStep orderId) (Undisturbed orderId) {} evs) :
    Runs.Always (shopStep orderId) (Told orderId) {} evs := by
  have hrun : Runs.Always (shopStep orderId) (Fits orderId) {} evs :=
    Runs.always_of_allSteps (P := Fits orderId) (fun w ev hw hev => hw.step hev) (fits_empty orderId) h
  exact hrun.mono fun w hw => hw.told

/-- A customer places the order 1. -/
def placed : List ShopEvent :=
  [.database (.start 1 (.create { items := [{ productId := 7, quantity := 2 }] } { customerId := 3 })),
    .database (.exec 1 { product := .ok [("price", .str "4.500")] }),
    .database (.exec 1 { uuid := 20 }), .database (.exec 1 {}), .database (.exec 1 {}),
    .database (.exec 1 { trackingCode := "123456" }), .database (.exec 1 { publicToken := "token" }),
    .database (.exec 1 {}), .database (.exec 1 { uuid := 1 }), .database (.exec 1 {}),
    .database (.exec 1 {}), .database (.finish 1), .announce (.created 1 .notInitiated)]

/-- It is paid, and ready to go. -/
def paidAndReady : List ShopEvent :=
  placed ++
    [.database (.start 2 (.pay 1 .success {})), .database (.exec 2 {}), .database (.exec 2 {}),
      .database (.start 3 (.deliver 1 .readyToGo "staff:9" none)), .database (.finish 2),
      .announce (.paid 1 .success), .database (.exec 3 {}), .database (.exec 3 {}),
      .database (.exec 3 {}), .database (.finish 3), .announce (.moved 1)]

theorem order_told_example :
    Runs.Always (shopStep 1) (Told 1) {} paidAndReady ∧
      (Runs.run (shopStep 1) {} paidAndReady).paid = 1 ∧
      (Runs.run (shopStep 1) {} paidAndReady).events.length = 1 ∧
      stepsOf (Runs.run (shopStep 1) {} paidAndReady).system.db 1 =
        [(.ordered, .ordered), (.ordered, .readyToGo)] :=
  ⟨order_told 1 paidAndReady (by decide +kernel), by decide +kernel, by decide +kernel,
    by decide +kernel⟩

/-- The payment is reported twice. -/
def paidTwice : List ShopEvent :=
  placed ++
    [.database (.start 2 (.pay 1 .success {})), .database (.exec 2 {}), .database (.exec 2 {}),
      .database (.finish 2), .announce (.paid 1 .success),
      .database (.start 3 (.pay 1 .success {})), .database (.exec 3 {}), .database (.finish 3),
      .announce (.paid 1 .success)]

/-- Two members of the staff move the order at once. -/
def movedTwice : List ShopEvent :=
  placed ++
    [.database (.start 2 (.deliver 1 .readyToGo "staff:8" none)), .database (.exec 2 {}),
      .database (.start 3 (.deliver 1 .readyToGo "staff:9" none)), .database (.exec 3 {}),
      .database (.exec 2 {}), .database (.exec 2 {}), .database (.finish 2), .announce (.moved 1),
      .database (.exec 3 {}), .database (.exec 3 {}), .database (.finish 3), .announce (.moved 1)]

/-- A payment that is reported twice enqueues two events, and two requests at once record a step
twice. -/
theorem order_told_twice :
    (Runs.run (shopStep 1) {} paidTwice).paid = 1 ∧
      (Runs.run (shopStep 1) {} paidTwice).events.length = 2 ∧
      ¬ Told 1 (Runs.run (shopStep 1) {} paidTwice) ∧
      stepsOf (Runs.run (shopStep 1) {} movedTwice).system.db 1 =
        [(.ordered, .ordered), (.ordered, .readyToGo), (.ordered, .readyToGo)] ∧
      ¬ Told 1 (Runs.run (shopStep 1) {} movedTwice) := by
  decide +kernel

end Shop
