import UshBookNPay.Lib.Runs
import UshBookNPay.Lib.Transactions

/-!
# Interleaved sessions

Any number of sessions run transaction programs against one database, a statement at a time, under
READ COMMITTED. The events of a run say which session goes on and what the environment answers; a
session whose next statement waits for a lock another session holds does not move.
-/

namespace Transactions

open Prog

/-- A transaction in flight: what is left of its program, its writes, what it has emitted and the
locks it holds. -/
structure Session (D K E A ε α O : Type) where
  sid : ℕ
  op : O
  prog : Prog D K E A ε α
  writes : D → D := id
  emitted : List E := []
  locks : List K := []

instance {D K E A ε α O : Type} : Table.Keyed (Session D K E A ε α O) := ⟨Session.sid⟩

/-- The committed database, what has been emitted so far and the transactions in flight. -/
structure System (D K E A ε α O : Type) where
  db : D
  log : List E := []
  sessions : List (Session D K E A ε α O) := []

inductive Event (O A : Type) where
  /-- a transaction for the operation `op` begins -/
  | start (sid : ℕ) (op : O)
  /-- the session runs its next statement -/
  | exec (sid : ℕ) (answer : A)
  /-- a session at its end commits, or rolls back if it has raised -/
  | finish (sid : ℕ)
  /-- the session is rolled back where it stands -/
  | crash (sid : ℕ)

variable {D K E A ε α O : Type}

/-- What `f` makes of the session `sid`, where there is one. -/
def System.withSession (s : System D K E A ε α O) (sid : ℕ)
    (f : Session D K E A ε α O → System D K E A ε α O) : System D K E A ε α O :=
  match Table.get s.sessions sid with
  | some t => f t
  | none => s

/-- The session `t` comes to its end. -/
def System.finish (s : System D K E A ε α O) (t : Session D K E A ε α O) : System D K E A ε α O :=
  match t.prog with
  | .ret _ => { s with db := t.writes s.db, sessions := Table.erase s.sessions t.sid }
  | .raise _ => { s with sessions := Table.erase s.sessions t.sid }
  | .stmt _ _ => s

theorem System.withSession_some {s : System D K E A ε α O} {sid : ℕ} {t : Session D K E A ε α O}
    (h : Table.get s.sessions sid = some t)
    (f : Session D K E A ε α O → System D K E A ε α O) : s.withSession sid f = f t := by
  simp [System.withSession, h]

theorem System.withSession_none {s : System D K E A ε α O} {sid : ℕ}
    (h : Table.get s.sessions sid = none)
    (f : Session D K E A ε α O → System D K E A ε α O) : s.withSession sid f = s := by
  simp [System.withSession, h]

variable [DecidableEq K]

/-- A lock the statement needs is held by another session. -/
def System.blocked (s : System D K E A ε α O) (sid : ℕ) (locks : List K) : Bool :=
  s.sessions.any fun t => t.sid ≠ sid ∧ locks.any fun k => k ∈ t.locks

/-- A statement of the session, with what it does to the system. -/
def System.stmt (s : System D K E A ε α O) (t : Session D K E A ε α O)
    (eff : A → D → Effect D K E) (next : A → D → Prog D K E A ε α) (answer : A) :
    System D K E A ε α O :=
  let d := t.writes s.db
  let e := eff answer d
  if s.blocked t.sid e.locks then s
  else
    { s with
      log := s.log ++ e.emits
      sessions := Table.modify s.sessions t.sid fun t =>
        { t with
          prog := next answer d
          writes := e.write ∘ t.writes
          emitted := t.emitted ++ e.emits
          locks := t.locks ++ e.locks } }

/-- The session `t` runs its next statement. -/
def System.next (s : System D K E A ε α O) (t : Session D K E A ε α O) (answer : A) :
    System D K E A ε α O :=
  match t.prog with
  | .stmt eff next => s.stmt t eff next answer
  | .ret _ => s
  | .raise _ => s

/-- One step of the system; `code` is the program of each operation. -/
def System.step (code : O → Prog D K E A ε α) (s : System D K E A ε α O) :
    Event O A → System D K E A ε α O
  | .start sid op =>
    if (Table.get s.sessions sid).isSome then s
    else { s with sessions := s.sessions ++ [{ sid := sid, op := op, prog := code op }] }
  | .exec sid answer => s.withSession sid fun t => s.next t answer
  | .finish sid => s.withSession sid s.finish
  | .crash sid => { s with sessions := Table.erase s.sessions sid }

/-- What a statement leaves of its session; `d` is the database it reads. -/
def Session.advance (t : Session D K E A ε α O) (e : Effect D K E) (rest : Prog D K E A ε α) :
    Session D K E A ε α O :=
  { t with
    prog := rest
    writes := e.write ∘ t.writes
    emitted := t.emitted ++ e.emits
    locks := t.locks ++ e.locks }

/-- A statement that does not wait for a lock. -/
theorem System.step_stmt (code : O → Prog D K E A ε α) {s : System D K E A ε α O}
    {t : Session D K E A ε α O} (ht : Table.get s.sessions t.sid = some t)
    {eff : A → D → Effect D K E} {next : A → D → Prog D K E A ε α} (hprog : t.prog = .stmt eff next)
    (answer : A) (hfree : s.blocked t.sid (eff answer (t.writes s.db)).locks = false) :
    s.step code (.exec t.sid answer) =
      { s with
        log := s.log ++ (eff answer (t.writes s.db)).emits
        sessions := Table.modify s.sessions t.sid fun u =>
          u.advance (eff answer (t.writes s.db)) (next answer (t.writes s.db)) } := by
  rw [System.step, System.withSession_some ht, System.next, hprog]
  show System.stmt s t eff next answer = _
  unfold System.stmt
  dsimp only
  rw [hfree, if_neg Bool.false_ne_true]
  rfl

/-- A session at its end, or one that waits for a lock, does not go on; any other runs a statement. -/
theorem System.step_exec_cases (code : O → Prog D K E A ε α) {s : System D K E A ε α O}
    {t : Session D K E A ε α O} (ht : Table.get s.sessions t.sid = some t) (answer : A) :
    s.step code (.exec t.sid answer) = s ∨ ∃ eff next, t.prog = .stmt eff next ∧
      s.step code (.exec t.sid answer) =
        { s with
          log := s.log ++ (eff answer (t.writes s.db)).emits
          sessions := Table.modify s.sessions t.sid fun u =>
            u.advance (eff answer (t.writes s.db)) (next answer (t.writes s.db)) } := by
  cases hprog : t.prog with
  | ret a =>
    left
    rw [System.step, System.withSession_some ht, System.next, hprog]
  | raise e =>
    left
    rw [System.step, System.withSession_some ht, System.next, hprog]
  | stmt eff next =>
    cases hfree : s.blocked t.sid (eff answer (t.writes s.db)).locks with
    | true =>
      left
      rw [System.step, System.withSession_some ht, System.next, hprog]
      show System.stmt s t eff next answer = _
      unfold System.stmt
      dsimp only
      rw [hfree, if_pos rfl]
    | false => exact .inr ⟨eff, next, rfl, System.step_stmt code ht hprog answer hfree⟩

/-- A session that has returned commits. -/
theorem System.step_commit (code : O → Prog D K E A ε α) {s : System D K E A ε α O}
    {t : Session D K E A ε α O} (ht : Table.get s.sessions t.sid = some t) {a : α}
    (hprog : t.prog = .ret a) : s.step code (.finish t.sid) =
      { s with db := t.writes s.db, sessions := Table.erase s.sessions t.sid } := by
  rw [System.step, System.withSession_some ht, System.finish, hprog]

/-- A session that has raised is rolled back. -/
theorem System.step_rollback (code : O → Prog D K E A ε α) {s : System D K E A ε α O}
    {t : Session D K E A ε α O} (ht : Table.get s.sessions t.sid = some t) {e : ε}
    (hprog : t.prog = .raise e) : s.step code (.finish t.sid) =
      { s with sessions := Table.erase s.sessions t.sid } := by
  rw [System.step, System.withSession_some ht, System.finish, hprog]

/-! ## Serial runs -/

/-- The session is about to commit. -/
def Session.committing (t : Session D K E A ε α O) : Bool :=
  match t.prog with
  | .ret _ => true
  | _ => false

/-- A step of a serial run: a transaction begins when no other is in flight and `Ok` holds of it, and
none is rolled back that has emitted something not `void`. -/
def Serial (Ok : D → O → Prop) (void : E → Bool) (s : System D K E A ε α O) : Event O A → Prop
  | .start _ op => s.sessions.length = 0 ∧ Ok s.db op
  | .exec _ _ => True
  | .finish sid => ∀ t, Table.get s.sessions sid = some t → t.committing ∨ t.emitted.all void
  | .crash sid => ∀ t, Table.get s.sessions sid = some t → t.emitted.all void

instance (Ok : D → O → Prop) [∀ d op, Decidable (Ok d op)] (void : E → Bool)
    (s : System D K E A ε α O) : ∀ ev : Event O A, Decidable (Serial Ok void s ev)
  | .start _ _ => inferInstanceAs (Decidable (_ ∧ _))
  | .exec _ _ => .isTrue trivial
  | .finish sid => decidable_of_iff
      (∀ t ∈ Table.get s.sessions sid, t.committing ∨ t.emitted.all void) (by simp [Serial])
  | .crash sid => decidable_of_iff
      (∀ t ∈ Table.get s.sessions sid, t.emitted.all void) (by simp [Serial])

section SerialRule

variable {code : O → Prog D K E A ε α} {Inv : D → List E → Prop} {Good : D → List E → Prop}
  {Ok : D → O → Prop} {void : E → Bool}

/-- What is required of a program under the serial rule: committed, it restores the invariant. -/
def Restores (Inv : D → List E → Prop) : Except ε α → D → List E → Prop
  | .ok _, d, es => Inv d es
  | .error _, _, _ => True

/-- No transaction is in flight and the invariant holds, or one is, and it will restore it. -/
inductive SerialInv (Inv Good : D → List E → Prop) (void : E → Bool) :
    System D K E A ε α O → Prop
  | idle (d : D) (es : List E) : Inv d es → SerialInv Inv Good void { db := d, log := es }
  | busy (d : D) (es : List E) (t : Session D K E A ε α O) : Good d es →
      (t.emitted.all void → Inv d es) →
      Ensures (Good d) (Restores Inv) t.prog (t.writes d) es →
      SerialInv Inv Good void { db := d, log := es, sessions := [t] }

omit [DecidableEq K] in
theorem SerialInv.good (hgood : ∀ d es, Inv d es → Good d es) {s : System D K E A ε α O}
    (h : SerialInv Inv Good void s) : Good s.db s.log := by
  cases h with
  | idle d es hI => exact hgood d es hI
  | busy d es t hG _ _ => exact hG

/-- A statement of the only session in flight. -/
theorem SerialInv.next
    (hvoid : ∀ d es es', Inv d es → es'.all void → Inv d (es ++ es'))
    {d : D} {es : List E} {t : Session D K E A ε α O} (hG : Good d es)
    (hI : t.emitted.all void → Inv d es)
    (hE : Ensures (Good d) (Restores Inv) t.prog (t.writes d) es) (answer : A) :
    SerialInv Inv Good void
      (System.next { db := d, log := es, sessions := [t] } t answer) := by
  unfold System.next
  cases hp : t.prog with
  | ret a => exact .busy d es t hG hI hE
  | raise e => exact .busy d es t hG hI hE
  | stmt eff next =>
    rw [hp] at hE
    obtain ⟨hgood, hnext⟩ := hE answer
    -- alone, no session waits for a lock
    have hfree : ∀ locks : List K, System.blocked
        ({ db := d, log := es, sessions := [t] } : System D K E A ε α O) t.sid locks = false := by
      intro locks
      simp [System.blocked]
    have hmod : ∀ f : Session D K E A ε α O → Session D K E A ε α O,
        Table.modify [t] t.sid f = [f t] := by
      intro f
      simp [Table.modify, Table.Keyed.key]
    simp only [System.stmt, hfree, Bool.false_eq_true, if_false, hmod]
    refine .busy d _ _ hgood (fun hv => ?_) hnext
    simp only [List.all_append, Bool.and_eq_true] at hv
    exact hvoid _ _ _ (hI hv.1) hv.2

omit [DecidableEq K] in
/-- The only session in flight comes to its end. -/
theorem SerialInv.finish {d : D} {es : List E} {t : Session D K E A ε α O} (hG : Good d es)
    (hI : t.emitted.all void → Inv d es)
    (hE : Ensures (Good d) (Restores Inv) t.prog (t.writes d) es)
    (hv : t.committing ∨ t.emitted.all void) :
    SerialInv Inv Good void (System.finish { db := d, log := es, sessions := [t] } t) := by
  have herase : Table.erase [t] t.sid = [] := by simp [Table.erase, Table.Keyed.key]
  unfold System.finish
  cases hp : t.prog with
  | ret a =>
    rw [hp] at hE
    simp only [herase]
    exact .idle (t.writes d) es hE
  | raise e =>
    have hI' : Inv d es := hI (by simpa [Session.committing, hp] using hv)
    simp only [herase]
    exact .idle d es hI'
  | stmt eff next => exact .busy d es t hG hI hE

theorem SerialInv.step (hgood : ∀ d es, Inv d es → Good d es)
    (hvoid : ∀ d es es', Inv d es → es'.all void → Inv d (es ++ es'))
    (hcode : ∀ d es op, Inv d es → Ok d op → Ensures (Good d) (Restores Inv) (code op) d es)
    {s : System D K E A ε α O} {ev : Event O A} (h : SerialInv Inv Good void s)
    (hev : Serial Ok void s ev) : SerialInv Inv Good void (s.step code ev) := by
  cases h with
  | idle d es hI =>
    cases ev with
    | start sid op => exact .busy d es _ (hgood d es hI) (fun _ => hI) (hcode d es op hI hev.2)
    | exec sid answer => exact .idle d es hI
    | finish sid => exact .idle d es hI
    | crash sid => exact .idle d es hI
  | busy d es t hG hI hE =>
    have hself : Table.get [t] t.sid = some t := by simp [Table.get, Table.Keyed.key]
    have hother : ∀ sid, t.sid ≠ sid → Table.get [t] sid = none := by
      intro sid hid
      simp [Table.get, Table.Keyed.key, hid]
    cases ev with
    | start sid op => simp [Serial] at hev
    | exec sid answer =>
      by_cases hid : t.sid = sid
      · subst hid
        rw [System.step, System.withSession_some hself]
        exact SerialInv.next hvoid hG hI hE answer
      · rw [System.step, System.withSession_none (hother sid hid)]
        exact .busy d es t hG hI hE
    | finish sid =>
      by_cases hid : t.sid = sid
      · subst hid
        rw [System.step, System.withSession_some hself]
        exact SerialInv.finish hG hI hE (hev t hself)
      · rw [System.step, System.withSession_none (hother sid hid)]
        exact .busy d es t hG hI hE
    | crash sid =>
      by_cases hid : t.sid = sid
      · subst hid
        have herase : Table.erase [t] t.sid = [] := by simp [Table.erase, Table.Keyed.key]
        rw [System.step, herase]
        exact .idle d es (hI (hev t hself))
      · have herase : Table.erase [t] sid = [t] := by simp [Table.erase, Table.Keyed.key, hid]
        rw [System.step, herase]
        exact .busy d es t hG hI hE

/-- The serial rule: where each operation, run alone, keeps `Good` throughout and restores the
invariant, `Good` holds in every state of a serial run. -/
theorem always_of_serial (hgood : ∀ d es, Inv d es → Good d es)
    (hvoid : ∀ d es es', Inv d es → es'.all void → Inv d (es ++ es'))
    (hcode : ∀ d es op, Inv d es → Ok d op → Ensures (Good d) (Restores Inv) (code op) d es)
    {d : D} {es : List E} (hI : Inv d es) {evs : List (Event O A)}
    (h : Runs.AllSteps (System.step code) (Serial Ok void) { db := d, log := es } evs) :
    Runs.Always (System.step code) (fun s => Good s.db s.log) { db := d, log := es } evs := by
  have hrun := Runs.always_of_allSteps (P := SerialInv Inv Good void)
    (fun s ev hs hev => SerialInv.step hgood hvoid hcode hs hev) (.idle d es hI) h
  exact hrun.mono fun s hs => hs.good hgood

end SerialRule

/-! ## Programs among others -/

/-- Whatever the statements of the program read and the environment answers, what the program returns
and what its transaction has written by then satisfy `Q`. -/
def Leaves (Q : α → (D → D) → Prop) : Prog D K E A ε α → (D → D) → Prop
  | .ret a, w => Q a w
  | .raise _, _ => True
  | .stmt eff next, w => ∀ a d, Leaves Q (next a d) ((eff a d).write ∘ w)

section LeavesRules

omit [DecidableEq K]

variable {β : Type} {Q : α → (D → D) → Prop} {w : D → D}

theorem Leaves.mono {Q' : α → (D → D) → Prop} (hQ : ∀ a w, Q a w → Q' a w)
    {p : Prog D K E A ε α} (h : Leaves Q p w) : Leaves Q' p w := by
  induction p generalizing w with
  | ret a => exact hQ a w h
  | raise e => trivial
  | stmt eff next ih => exact fun a d => ih a d (h a d)

theorem leaves_throw (e : ε) : Leaves Q (throw e : Prog D K E A ε α) w := trivial

theorem leaves_bind_ask {Q : β → (D → D) → Prop} (g : A → α) {f : α → Prog D K E A ε β}
    (h : ∀ a, Leaves Q (f a) w) : Leaves Q (ask g >>= f) w := fun a _ => h (g a)

theorem leaves_bind_call {Q : β → (D → D) → Prop} (emits : A → List E) (g : A → α)
    {f : α → Prog D K E A ε β} (h : ∀ a, Leaves Q (f a) w) : Leaves Q (call emits g >>= f) w :=
  fun a _ => h (g a)

theorem leaves_bind_update {Q : β → (D → D) → Prop} (locks : List K) (g : D → D)
    {f : Unit → Prog D K E A ε β} (h : Leaves Q (f ()) (g ∘ w)) :
    Leaves Q (update locks g >>= f) w := fun _ _ => h

/-- The program begins with a query without locks, and `Q` holds of what follows on its answer. -/
def Queries (Q : D → Prog D K E A ε α → Prop) : Prog D K E A ε α → Prop
  | .stmt eff next => ∀ a d, eff a d = {} ∧ Q d (next a d)
  | .ret _ => False
  | .raise _ => False

theorem queries_bind_query {Q : D → Prog D K E A ε β → Prop} (q : D → α)
    {f : α → Prog D K E A ε β} (h : ∀ d, Q d (f (q d))) : Queries Q (query q >>= f) :=
  fun _ d => ⟨rfl, h d⟩

/-- What is left after a statement. -/
theorem Leaves.next {eff : A → D → Effect D K E} {next : A → D → Prog D K E A ε α}
    (h : Leaves Q (.stmt eff next) w) (a : A) (d : D) :
    Leaves Q (next a d) ((eff a d).write ∘ w) := h a d

end LeavesRules

end Transactions
