import UshBookNPay.Lib.Table
import Mathlib.Tactic.Cases

/-!
# Database transactions at statement granularity

A transaction program is a tree of statements over a database `D`. Each statement runs atomically:
it waits for row or advisory locks `K`, reads the database as the transaction sees it, queues a write
and may act on the world outside (`E`). `A` is what the environment answers to a statement and `ε`
the exceptions.

Two semantics are given: `exec` runs a program alone, and `System.step` interleaves the statements of
any number of sessions under READ COMMITTED. A session sees the committed rows and its own writes,
its writes become visible when it commits, a lock is held to the end of the transaction, and what a
statement emitted stays emitted when the transaction is rolled back.
-/

namespace Transactions

/-- What one statement does. -/
structure Effect (D K E : Type) where
  locks : List K := []
  write : D → D := id
  emits : List E := []

/-- A transaction program. -/
inductive Prog (D K E A ε : Type) (α : Type) where
  | ret (a : α)
  | raise (e : ε)
  | stmt (eff : A → D → Effect D K E) (next : A → D → Prog D K E A ε α)

namespace Prog

variable {D K E A ε α β : Type}

def bind : Prog D K E A ε α → (α → Prog D K E A ε β) → Prog D K E A ε β
  | .ret a, f => f a
  | .raise e, _ => .raise e
  | .stmt eff next, f => .stmt eff fun a d => (next a d).bind f

/-- Python's `try … except`: the writes made before the exception stay in the transaction. -/
def tryCatch : Prog D K E A ε α → (ε → Prog D K E A ε α) → Prog D K E A ε α
  | .ret a, _ => .ret a
  | .raise e, h => h e
  | .stmt eff next, h => .stmt eff fun a d => (next a d).tryCatch h

instance : Monad (Prog D K E A ε) where
  pure := .ret
  bind := bind

instance : MonadExceptOf ε (Prog D K E A ε) where
  throw := .raise
  tryCatch := tryCatch

/-- A query that takes no lock. -/
def query (q : D → α) : Prog D K E A ε α := .stmt (fun _ _ => {}) fun _ d => .ret (q d)

/-- A query that locks what it selects. -/
def queryForUpdate (locks : D → List K) (q : D → α) : Prog D K E A ε α :=
  .stmt (fun _ d => { locks := locks d }) fun _ d => .ret (q d)

/-- A write, with the locks it takes. -/
def update (locks : List K) (w : D → D) : Prog D K E A ε Unit :=
  .stmt (fun _ _ => { locks := locks, write := w }) fun _ _ => .ret ()

/-- A write the database may refuse. -/
def checkedUpdate (check : D → Option ε) (locks : List K) (w : D → D) : Prog D K E A ε Unit :=
  .stmt (fun _ d => if (check d).isSome then {} else { locks := locks, write := w })
    fun _ d => match check d with
      | some e => .raise e
      | none => .ret ()

/-- `if c: raise e` -/
def raiseIf (c : Prop) [Decidable c] (e : ε) : Prog D K E A ε Unit :=
  if c then .raise e else .ret ()

/-- Run `f` on a value that is there. -/
def forSome (o : Option α) (f : α → Prog D K E A ε Unit) : Prog D K E A ε Unit :=
  match o with
  | some a => f a
  | none => .ret ()

/-- Ask the environment. -/
def ask (g : A → α) : Prog D K E A ε α := .stmt (fun _ _ => {}) fun a _ => .ret (g a)

/-- Ask the environment and act on the world outside according to the answer. -/
def call (emits : A → List E) (g : A → α) : Prog D K E A ε α :=
  .stmt (fun a _ => { emits := emits a }) fun a _ => .ret (g a)

/-- Act on the world outside. -/
def emit (e : E) : Prog D K E A ε Unit := call (fun _ => [e]) fun _ => ()

end Prog

open Prog

variable {D K E A ε α β O : Type}

/-! ## Running a program alone -/

/-- The result of a program that runs alone, the database it leaves and what it emitted. The `n`-th
statement is answered by `env n`. -/
def exec (env : ℕ → A) : Prog D K E A ε α → D → Except ε α × D × List E
  | .ret a, d => (.ok a, d, [])
  | .raise e, d => (.error e, d, [])
  | .stmt eff next, d =>
    let e := eff (env 0) d
    let r := exec (fun n => env (n + 1)) (next (env 0) d) (e.write d)
    (r.1, r.2.1, e.emits ++ r.2.2)

theorem exec_bind_query (env : ℕ → A) (q : D → α) (f : α → Prog D K E A ε β) (d : D) :
    exec env (query q >>= f) d = exec (fun n => env (n + 1)) (f (q d)) d := rfl

theorem exec_bind_ask (env : ℕ → A) (g : A → α) (f : α → Prog D K E A ε β) (d : D) :
    exec env (ask g >>= f) d = exec (fun n => env (n + 1)) (f (g (env 0))) d := rfl

theorem exec_bind_update (env : ℕ → A) (locks : List K) (w : D → D) (f : Unit → Prog D K E A ε β)
    (d : D) : exec env (update locks w >>= f) d = exec (fun n => env (n + 1)) (f ()) (w d) := rfl

theorem exec_bind_checkedUpdate (env : ℕ → A) {check : D → Option ε} (locks : List K) (w : D → D)
    (f : Unit → Prog D K E A ε β) {d : D} (h : check d = none) :
    exec env (checkedUpdate check locks w >>= f) d = exec (fun n => env (n + 1)) (f ()) (w d) := by
  show exec env (.stmt _ fun _ _ => Prog.bind _ f) d = _
  conv_lhs => unfold exec
  dsimp only
  rw [h]
  rfl

/-- A program run alone as one transaction: committed on success, rolled back on an exception. -/
def atomically (env : ℕ → A) (p : Prog D K E A ε α) (d : D) : D :=
  match exec env p d with
  | (.ok _, d', _) => d'
  | (.error _, _, _) => d

theorem exec_discard (env : ℕ → A) (p : Prog D K E A ε α) (d : D) :
    exec env (discard p) d = ((exec env p d).1.map fun _ => (), (exec env p d).2) := by
  induction p generalizing env d with
  | ret a => rfl
  | raise e => rfl
  | stmt eff next ih =>
    let r := exec (fun n => env (n + 1)) (discard (next (env 0) d)) ((eff (env 0) d).write d)
    show (r.1, r.2.1, (eff (env 0) d).emits ++ r.2.2) = _
    have hrest : r = _ := ih (env 0) d (fun n => env (n + 1)) ((eff (env 0) d).write d)
    rw [hrest]
    rfl

/-- Running a program for its effects. -/
theorem atomically_discard (env : ℕ → A) (p : Prog D K E A ε α) (d : D) :
    atomically env (discard p) d = atomically env p d := by
  unfold atomically
  rw [exec_discard]
  rcases exec env p d with ⟨r | r, d', es⟩
  · rfl
  · rfl

/-- A database and what has been emitted so far. -/
structure Ledger (D E : Type) where
  db : D
  log : List E := []

/-- `p` run alone as one transaction: its writes are kept on success only, what it emitted is kept
either way. -/
def transact (env : ℕ → A) (p : Prog D K E A ε α) (s : Ledger D E) : Ledger D E :=
  { db := atomically env p s.db, log := s.log ++ (exec env p s.db).2.2 }

/-- Every run of `p` alone from `d`, with `es` emitted before, ends in `post`, and what has been
emitted satisfies `mid` after each of its statements. -/
def Ensures (mid : List E → Prop) (post : Except ε α → D → List E → Prop) :
    Prog D K E A ε α → D → List E → Prop
  | .ret a, d, es => post (.ok a) d es
  | .raise e, d, es => post (.error e) d es
  | .stmt eff next, d, es =>
    ∀ a, mid (es ++ (eff a d).emits) ∧
      Ensures mid post (next a d) ((eff a d).write d) (es ++ (eff a d).emits)

/-- `Ensures`, for the runs whose answers all satisfy `ans`. -/
def EnsuresUnder (ans : A → Prop) (post : Except ε α → D → List E → Prop) :
    Prog D K E A ε α → D → List E → Prop
  | .ret a, d, es => post (.ok a) d es
  | .raise e, d, es => post (.error e) d es
  | .stmt eff next, d, es =>
    ∀ a, ans a → EnsuresUnder ans post (next a d) ((eff a d).write d) (es ++ (eff a d).emits)

section Rules

variable {mid : List E → Prop} {post : Except ε α → D → List E → Prop} {d : D} {es : List E}

@[simp] theorem ensures_pure (a : α) :
    Ensures mid post (Pure.pure a : Prog D K E A ε α) d es ↔ post (.ok a) d es := Iff.rfl

@[simp] theorem ensures_throw (e : ε) :
    Ensures mid post (throw e : Prog D K E A ε α) d es ↔ post (.error e) d es := Iff.rfl

/-- The continuation of a bind is required of what the first program ends in. -/
@[simp] theorem ensures_bind {post : Except ε β → D → List E → Prop} (p : Prog D K E A ε α)
    (f : α → Prog D K E A ε β) (d : D) (es : List E) :
    Ensures mid post (p >>= f) d es ↔
      Ensures mid (fun r d' es' => match r with
        | .ok a => Ensures mid post (f a) d' es'
        | .error e => post (.error e) d' es') p d es := by
  induction p generalizing d es with
  | ret a => rfl
  | raise e => rfl
  | stmt eff next ih =>
    constructor
    · intro h a
      exact ⟨(h a).1, (ih a d _ _).mp (h a).2⟩
    · intro h a
      exact ⟨(h a).1, (ih a d _ _).mpr (h a).2⟩

@[simp] theorem ensures_map {post : Except ε β → D → List E → Prop} (p : Prog D K E A ε α)
    (f : α → β) (d : D) (es : List E) :
    Ensures mid post (f <$> p) d es ↔
      Ensures mid (fun r d' es' => match r with
        | .ok a => post (.ok (f a)) d' es'
        | .error e => post (.error e) d' es') p d es :=
  ensures_bind p (fun a => .ret (f a)) d es

theorem ensures_discard {post : Except ε PUnit → D → List E → Prop} (p : Prog D K E A ε α) (d : D)
    (es : List E) :
    Ensures mid post (discard p) d es ↔
      Ensures mid (fun r d' es' => match r with
        | .ok _ => post (.ok ()) d' es'
        | .error e => post (.error e) d' es') p d es :=
  ensures_bind p (fun _ => .ret ()) d es

@[simp] theorem ensures_tryCatch (p : Prog D K E A ε α) (f : ε → Prog D K E A ε α) (d : D)
    (es : List E) :
    Ensures mid post (tryCatchThe ε p f) d es ↔
      Ensures mid (fun r d' es' => match r with
        | .ok a => post (.ok a) d' es'
        | .error e => Ensures mid post (f e) d' es') p d es := by
  induction p generalizing d es with
  | ret a => rfl
  | raise e => rfl
  | stmt eff next ih =>
    constructor
    · intro h a
      exact ⟨(h a).1, (ih a d _ _).mp (h a).2⟩
    · intro h a
      exact ⟨(h a).1, (ih a d _ _).mpr (h a).2⟩

@[simp] theorem ensures_query [Nonempty A] (q : D → α) :
    Ensures mid post (query q : Prog D K E A ε α) d es ↔ mid es ∧ post (.ok (q d)) d es := by
  simp [query, Ensures]

@[simp] theorem ensures_queryForUpdate [Nonempty A] (locks : D → List K) (q : D → α) :
    Ensures mid post (queryForUpdate locks q : Prog D K E A ε α) d es ↔
      mid es ∧ post (.ok (q d)) d es := by
  simp [queryForUpdate, Ensures]

@[simp] theorem ensures_update [Nonempty A] {post : Except ε Unit → D → List E → Prop}
    (locks : List K) (w : D → D) :
    Ensures mid post (update locks w : Prog D K E A ε Unit) d es ↔
      mid es ∧ post (.ok ()) (w d) es := by
  simp [update, Ensures]

@[simp] theorem ensures_checkedUpdate [Nonempty A] {post : Except ε Unit → D → List E → Prop}
    (check : D → Option ε) (locks : List K) (w : D → D) :
    Ensures mid post (checkedUpdate check locks w : Prog D K E A ε Unit) d es ↔
      mid es ∧ match check d with
        | some e => post (.error e) d es
        | none => post (.ok ()) (w d) es := by
  cases h : check d <;> simp [checkedUpdate, Ensures, h]

@[simp] theorem ensures_ask [Nonempty A] (g : A → α) :
    Ensures mid post (ask g : Prog D K E A ε α) d es ↔ mid es ∧ ∀ a, post (.ok (g a)) d es := by
  simp [ask, Ensures, forall_and]

@[simp] theorem ensures_call (emits : A → List E) (g : A → α) :
    Ensures mid post (call emits g : Prog D K E A ε α) d es ↔
      ∀ a, mid (es ++ emits a) ∧ post (.ok (g a)) d (es ++ emits a) := Iff.rfl

@[simp] theorem ensures_emit [Nonempty A] {post : Except ε Unit → D → List E → Prop} (e : E) :
    Ensures mid post (emit e : Prog D K E A ε Unit) d es ↔
      mid (es ++ [e]) ∧ post (.ok ()) d (es ++ [e]) := by
  simp [emit]

@[simp] theorem ensures_raiseIf {post : Except ε Unit → D → List E → Prop} (c : Prop) [Decidable c]
    (e : ε) :
    Ensures mid post (raiseIf c e : Prog D K E A ε Unit) d es ↔
      (c → post (.error e) d es) ∧ (¬ c → post (.ok ()) d es) := by
  unfold raiseIf
  by_cases h : c <;> simp [h, Ensures]

@[simp] theorem ensures_forSome {post : Except ε Unit → D → List E → Prop} (o : Option α)
    (f : α → Prog D K E A ε Unit) :
    Ensures mid post (forSome o f) d es ↔
      (o = none → post (.ok ()) d es) ∧ (∀ a, o = some a → Ensures mid post (f a) d es) := by
  cases o <;> simp [forSome, Ensures]

/-- The consequence rule. -/
theorem Ensures.mono {mid' : List E → Prop} {post' : Except ε α → D → List E → Prop}
    (hmid : ∀ es, mid es → mid' es) (hpost : ∀ r d es, post r d es → post' r d es)
    {p : Prog D K E A ε α} {d : D} {es : List E} (h : Ensures mid post p d es) :
    Ensures mid' post' p d es := by
  induction p generalizing d es with
  | ret a => exact hpost _ _ _ h
  | raise e => exact hpost _ _ _ h
  | stmt eff next ih => exact fun a => ⟨hmid _ (h a).1, ih a d (h a).2⟩

/-- The sequence rule, with an intermediate assertion. -/
theorem Ensures.bind {Q : Except ε α → D → List E → Prop} {post : Except ε β → D → List E → Prop}
    {p : Prog D K E A ε α} {f : α → Prog D K E A ε β} {d : D} {es : List E}
    (hp : Ensures mid Q p d es)
    (hok : ∀ a d' es', Q (.ok a) d' es' → Ensures mid post (f a) d' es')
    (herr : ∀ e d' es', Q (.error e) d' es' → post (.error e) d' es') :
    Ensures mid post (p >>= f) d es := by
  rw [ensures_bind]
  refine hp.mono (fun _ h => h) ?_
  intro r d' es' hq
  cases r with
  | ok a => exact hok a d' es' hq
  | error e => exact herr e d' es' hq

/-- The program does not raise, and `Q` holds of what it returns. -/
def Returns (Q : α → D → List E → Prop) : Except ε α → D → List E → Prop
  | .ok a, d, es => Q a d es
  | .error _, _, _ => False

/-- The sequence rule for a first program that does not raise. -/
theorem Ensures.bind_returns {Q : α → D → List E → Prop} {post : Except ε β → D → List E → Prop}
    {p : Prog D K E A ε α} {f : α → Prog D K E A ε β} {d : D} {es : List E}
    (hp : Ensures mid (Returns Q) p d es)
    (hok : ∀ a d' es', Q a d' es' → Ensures mid post (f a) d' es') :
    Ensures mid post (p >>= f) d es :=
  hp.bind hok fun _ _ _ h => h.elim

/-- Where a value is there or not, what holds without it and of `f` on it holds. -/
theorem Ensures.forSome {Q : Unit → D → List E → Prop} {o : Option α}
    {f : α → Prog D K E A ε Unit} {d : D} {es : List E} (hnone : Q () d es)
    (hsome : ∀ a, o = some a → Ensures mid (Returns Q) (f a) d es) :
    Ensures mid (Returns Q) (Prog.forSome o f) d es :=
  (ensures_forSome o f).mpr ⟨fun _ => hnone, hsome⟩

theorem ensures_bind_raiseIf {post : Except ε β → D → List E → Prop} (c : Prop) [Decidable c] (e : ε)
    (f : Unit → Prog D K E A ε β) :
    Ensures mid post (raiseIf c e >>= f) d es ↔
      (c → post (.error e) d es) ∧ (¬ c → Ensures mid post (f ()) d es) := by
  rw [ensures_bind, ensures_raiseIf]

theorem ensures_bind_ask [Nonempty A] {post : Except ε β → D → List E → Prop} (g : A → α)
    (f : α → Prog D K E A ε β) :
    Ensures mid post (ask g >>= f) d es ↔ mid es ∧ ∀ a, Ensures mid post (f (g a)) d es := by
  rw [ensures_bind, ensures_ask]

theorem ensures_bind_query [Nonempty A] {post : Except ε β → D → List E → Prop} (q : D → α)
    (f : α → Prog D K E A ε β) :
    Ensures mid post (query q >>= f) d es ↔ mid es ∧ Ensures mid post (f (q d)) d es := by
  rw [ensures_bind, ensures_query]

theorem ensures_bind_queryForUpdate [Nonempty A] {post : Except ε β → D → List E → Prop}
    (locks : D → List K) (q : D → α) (f : α → Prog D K E A ε β) :
    Ensures mid post (queryForUpdate locks q >>= f) d es ↔
      mid es ∧ Ensures mid post (f (q d)) d es := by
  rw [ensures_bind, ensures_queryForUpdate]

/-- What a program ensures holds of its run. -/
theorem Ensures.exec {p : Prog D K E A ε α} {d : D} {es : List E} (h : Ensures mid post p d es)
    (env : ℕ → A) :
    post (exec env p d).1 (exec env p d).2.1 (es ++ (exec env p d).2.2) := by
  induction p generalizing d es env with
  | ret a => simpa [Transactions.exec, Ensures] using h
  | raise e => simpa [Transactions.exec, Ensures] using h
  | stmt eff next ih =>
    have := ih (env 0) d (h (env 0)).2 (fun n => env (n + 1))
    simpa [Transactions.exec] using this

/-- `Q` holds of the database a transaction leaves: the new one when it commits, `d` when an exception
rolls it back. -/
def OnCommit (Q : D → Prop) (d : D) : Except ε α → D → List E → Prop
  | .ok _, d', _ => Q d'
  | .error _, _, _ => Q d

theorem Ensures.atomically {Q : D → Prop} {p : Prog D K E A ε α} {d : D}
    (h : Ensures (fun _ => True) (OnCommit Q d) p d []) (env : ℕ → A) :
    Q (atomically env p d) := by
  have := h.exec env
  unfold Transactions.atomically
  rcases hr : Transactions.exec env p d with ⟨r | a, d', es⟩
  · simpa [hr, OnCommit] using this
  · simpa [hr, OnCommit] using this

/-- A transaction raises and is rolled back, or it leaves what its program ensures of a return. -/
theorem Ensures.raised_or {Q : D → Prop} {p : Prog D K E A ε α} {d : D}
    (h : Ensures (fun _ => True) (fun r d' _ => ∀ a, r = .ok a → Q d') p d []) (env : ℕ → A) :
    (¬ (Transactions.exec env p d).1.isOk ∧ Transactions.atomically env p d = d) ∨
      Q (Transactions.atomically env p d) := by
  have := h.exec env
  unfold Transactions.atomically
  rcases hr : Transactions.exec env p d with ⟨e | a, d', es⟩
  · exact .inl ⟨by simp [Except.isOk, Except.toBool], rfl⟩
  · rw [hr] at this
    exact .inr (this a rfl)

/-- `Q` holds of the ledger a transaction leaves. -/
def AtEnd (Q : D → List E → Prop) (d : D) : Except ε α → D → List E → Prop
  | .ok _, d', es => Q d' es
  | .error _, _, es => Q d es

/-- The conjunction rule. -/
theorem Ensures.and {mid' : List E → Prop} {post' : Except ε α → D → List E → Prop}
    {p : Prog D K E A ε α} {d : D} {es : List E} (h : Ensures mid post p d es)
    (h' : Ensures mid' post' p d es) :
    Ensures mid (fun r d es => post r d es ∧ post' r d es) p d es := by
  induction p generalizing d es with
  | ret a => exact ⟨h, h'⟩
  | raise e => exact ⟨h, h'⟩
  | stmt eff next ih => exact fun a => ⟨(h a).1, ih a d (h a).2 (h' a).2⟩

/-! ### Frames -/

/-- The program leaves the part `g` of the database alone. -/
def Keeps (g : D → O) (p : Prog D K E A ε α) : Prop :=
  ∀ d es, Ensures (fun _ => True) (fun _ d' _ => g d' = g d) p d es

section Keeps

variable {g : D → O}

theorem keeps_pure (a : α) : Keeps g (Pure.pure a : Prog D K E A ε α) := fun _ _ => rfl

theorem keeps_throw (e : ε) : Keeps g (throw e : Prog D K E A ε α) := fun _ _ => rfl

theorem Keeps.bind {p : Prog D K E A ε α} {f : α → Prog D K E A ε β} (hp : Keeps g p)
    (hf : ∀ a, Keeps g (f a)) : Keeps g (p >>= f) := by
  intro d es
  refine (hp d es).bind ?_ ?_
  · intro a d' es' h
    refine (hf a d' es').mono (fun _ h => h) ?_
    exact fun _ _ _ h' => h'.trans h
  · exact fun _ _ _ h => h

theorem Keeps.map {p : Prog D K E A ε α} (hp : Keeps g p) (f : α → β) : Keeps g (f <$> p) :=
  hp.bind fun a => keeps_pure (f a)

/-- What depends on a part that is left alone is left alone. -/
theorem Keeps.comp {O' : Type} {p : Prog D K E A ε α} (hp : Keeps g p) (f : O → O') :
    Keeps (fun d => f (g d)) p :=
  fun d es => (hp d es).mono (fun _ h => h) fun _ _ _ h => congrArg f h

theorem keeps_query (q : D → α) : Keeps g (query q : Prog D K E A ε α) :=
  fun _ _ _ => ⟨trivial, rfl⟩

theorem keeps_queryForUpdate (locks : D → List K) (q : D → α) :
    Keeps g (queryForUpdate locks q : Prog D K E A ε α) := fun _ _ _ => ⟨trivial, rfl⟩

theorem keeps_ask (f : A → α) : Keeps g (ask f : Prog D K E A ε α) := fun _ _ _ => ⟨trivial, rfl⟩

theorem keeps_call (emits : A → List E) (f : A → α) : Keeps g (call emits f : Prog D K E A ε α) :=
  fun _ _ _ => ⟨trivial, rfl⟩

theorem keeps_update (locks : List K) {w : D → D} (hw : ∀ d, g (w d) = g d) :
    Keeps g (update locks w : Prog D K E A ε Unit) := fun d _ _ => ⟨trivial, hw d⟩

theorem keeps_checkedUpdate (check : D → Option ε) (locks : List K) {w : D → D}
    (hw : ∀ d, g (w d) = g d) :
    Keeps g (checkedUpdate check locks w : Prog D K E A ε Unit) := by
  intro d es a
  cases h : check d with
  | none => simpa [h, Ensures] using hw d
  | some e => simp [h, Ensures]

theorem keeps_raiseIf (c : Prop) [Decidable c] (e : ε) :
    Keeps g (raiseIf c e : Prog D K E A ε Unit) := by
  intro d es
  unfold raiseIf
  split_ifs
  · rfl
  · rfl

theorem keeps_forSome (o : Option α) {f : α → Prog D K E A ε Unit} (hf : ∀ a, Keeps g (f a)) :
    Keeps g (forSome o f) := by
  cases o with
  | none => exact fun _ _ => rfl
  | some a => exact hf a

theorem Keeps.ite {c : Prop} [Decidable c] {p q : Prog D K E A ε α} (hp : Keeps g p)
    (hq : Keeps g q) : Keeps g (if c then p else q) := by
  split_ifs
  · exact hp
  · exact hq

theorem Keeps.tryCatch {p : Prog D K E A ε α} {f : ε → Prog D K E A ε α} (hp : Keeps g p)
    (hf : ∀ e, Keeps g (f e)) : Keeps g (tryCatchThe ε p f) := by
  intro d es
  rw [ensures_tryCatch]
  refine (hp d es).mono (fun _ h => h) ?_
  intro r d' es' h
  cases r with
  | ok a => exact h
  | error e =>
    refine (hf e d' es').mono (fun _ h => h) ?_
    exact fun _ _ _ h' => h'.trans h

theorem Keeps.atomically {p : Prog D K E A ε α} (h : Keeps g p) (env : ℕ → A) (d : D) :
    g (atomically env p d) = g d := by
  refine Ensures.atomically (Q := fun d' => g d' = g d) ?_ env
  refine (h d []).mono (fun _ h => h) ?_
  intro r d' es hd
  cases r with
  | ok a => exact hd
  | error e => exact rfl

/-- A program that leaves `g` alone, for what a result entails. -/
theorem ensures_keeps {p : Prog D K E A ε α} {d : D} {es : List E} {Q : D → Prop} (hp : Keeps g p)
    (hQ : ∀ d', g d' = g d → Q d') :
    Ensures (fun _ => True) (fun r d' _ => ∀ x, r = .ok x → Q d') p d es :=
  (hp d es).mono (fun _ h => h) fun _ _ _ h _ _ => hQ _ h

/-- Sequencing after a program that leaves `g` alone, for what a result entails. -/
theorem ensures_bind_keeps {p : Prog D K E A ε α} {f : α → Prog D K E A ε β} {d : D} {es : List E}
    {Q : D → Prop} (hp : Keeps g p)
    (hf : ∀ a d' es', g d' = g d →
      Ensures (fun _ => True) (fun r d'' _ => ∀ x, r = .ok x → Q d'') (f a) d' es') :
    Ensures (fun _ => True) (fun r d'' _ => ∀ x, r = .ok x → Q d'') (p >>= f) d es := by
  refine (hp d es).bind ?_ ?_
  · exact fun a d' es' h => hf a d' es' h
  · exact fun _ _ _ _ _ h => (by cases h)

end Keeps

/-! ### Relations -/

/-- Wherever a run of the program begins, it ends in a database that `R` relates to the first one. -/
structure Leads (R : D → D → Prop) (p : Prog D K E A ε α) : Prop where
  ensures : ∀ d es, Ensures (fun _ => True) (fun _ d' _ => R d d') p d es

section Leads

variable {R : D → D → Prop}

/-- A program that leaves alone what `R` depends on. -/
theorem Keeps.leads {g : D → O} {p : Prog D K E A ε α} (h : Keeps g p)
    (hR : ∀ d d', g d' = g d → R d d') : Leads R p :=
  ⟨fun d es => (h d es).mono (fun _ h => h) fun _ _ _ h => hR _ _ h⟩

/-- Sequencing, for a relation that may be composed. -/
theorem Leads.bind (trans : ∀ d d' d'', R d d' → R d' d'' → R d d'') {p : Prog D K E A ε α}
    {f : α → Prog D K E A ε β} (hp : Leads R p) (hf : ∀ a, Leads R (f a)) : Leads R (p >>= f) := by
  constructor
  intro d es
  refine (hp.ensures d es).bind ?_ ?_
  · intro a d' es' h
    refine ((hf a).ensures d' es').mono (fun _ h => h) ?_
    exact fun _ _ _ h' => trans _ _ _ h h'
  · exact fun _ _ _ h => h

theorem Leads.atomically (refl : ∀ d, R d d) {p : Prog D K E A ε α} (h : Leads R p) (env : ℕ → A)
    (d : D) : R d (atomically env p d) := by
  refine Ensures.atomically (Q := R d) ?_ env
  refine (h.ensures d []).mono (fun _ h => h) ?_
  intro r d' es hd
  cases r with
  | ok a => exact hd
  | error e => exact refl d

end Leads

/-! ### Emissions -/

/-- Everything the program emits satisfies `P`. -/
def Emits (P : E → Prop) (p : Prog D K E A ε α) : Prop :=
  ∀ d es, Ensures (fun _ => True) (fun _ _ es' => ∃ new, es' = es ++ new ∧ ∀ e ∈ new, P e) p d es

section Emits

variable {P : E → Prop}

theorem emits_nothing (es : List E) : ∃ new, es = es ++ new ∧ ∀ e ∈ new, P e :=
  ⟨[], (List.append_nil es).symm, fun _ h => nomatch h⟩

theorem emits_pure (a : α) : Emits P (Pure.pure a : Prog D K E A ε α) := fun _ es => emits_nothing es

theorem emits_throw (e : ε) : Emits P (throw e : Prog D K E A ε α) := fun _ es => emits_nothing es

theorem Emits.bind {p : Prog D K E A ε α} {f : α → Prog D K E A ε β} (hp : Emits P p)
    (hf : ∀ a, Emits P (f a)) : Emits P (p >>= f) := by
  intro d es
  refine (hp d es).bind ?_ ?_
  · rintro a d' _ ⟨new, rfl, hnew⟩
    refine (hf a d' _).mono (fun _ h => h) ?_
    rintro r d'' _ ⟨more, rfl, hmore⟩
    refine ⟨new ++ more, List.append_assoc _ _ _, fun e he => ?_⟩
    exact (List.mem_append.mp he).elim (hnew e) (hmore e)
  · exact fun _ _ _ h => h

theorem Emits.map {p : Prog D K E A ε α} (hp : Emits P p) (f : α → β) : Emits P (f <$> p) :=
  hp.bind fun a => emits_pure (f a)

theorem emits_query (q : D → α) : Emits P (query q : Prog D K E A ε α) :=
  fun _ _ _ => ⟨trivial, [], rfl, fun _ h => nomatch h⟩

theorem emits_queryForUpdate (locks : D → List K) (q : D → α) :
    Emits P (queryForUpdate locks q : Prog D K E A ε α) :=
  fun _ _ _ => ⟨trivial, [], rfl, fun _ h => nomatch h⟩

theorem emits_ask (f : A → α) : Emits P (ask f : Prog D K E A ε α) :=
  fun _ _ _ => ⟨trivial, [], rfl, fun _ h => nomatch h⟩

theorem emits_update (locks : List K) (w : D → D) :
    Emits P (update locks w : Prog D K E A ε Unit) :=
  fun _ _ _ => ⟨trivial, [], rfl, fun _ h => nomatch h⟩

theorem emits_checkedUpdate (check : D → Option ε) (locks : List K) (w : D → D) :
    Emits P (checkedUpdate check locks w : Prog D K E A ε Unit) := by
  intro d es a
  cases h : check d with
  | none => simp [h, Ensures]
  | some e => simp [h, Ensures]

theorem emits_call {emits : A → List E} (h : ∀ a, ∀ e ∈ emits a, P e) (f : A → α) :
    Emits P (call emits f : Prog D K E A ε α) := fun _ _ a => ⟨trivial, _, rfl, h a⟩

theorem emits_raiseIf (c : Prop) [Decidable c] (e : ε) :
    Emits P (raiseIf c e : Prog D K E A ε Unit) := by
  intro d es
  unfold raiseIf
  split_ifs
  · exact emits_nothing es
  · exact emits_nothing es

theorem emits_forSome (o : Option α) {f : α → Prog D K E A ε Unit} (hf : ∀ a, Emits P (f a)) :
    Emits P (forSome o f) := by
  cases o with
  | none => exact fun _ es => emits_nothing es
  | some a => exact hf a

theorem Emits.tryCatch {p : Prog D K E A ε α} {f : ε → Prog D K E A ε α} (hp : Emits P p)
    (hf : ∀ e, Emits P (f e)) : Emits P (tryCatchThe ε p f) := by
  intro d es
  rw [ensures_tryCatch]
  refine (hp d es).mono (fun _ h => h) ?_
  rintro r d' _ ⟨new, rfl, hnew⟩
  cases r with
  | ok a => exact ⟨new, rfl, hnew⟩
  | error e =>
    refine (hf e d' _).mono (fun _ h => h) ?_
    rintro r d'' _ ⟨more, rfl, hmore⟩
    refine ⟨new ++ more, List.append_assoc _ _ _, fun e he => ?_⟩
    exact (List.mem_append.mp he).elim (hnew e) (hmore e)

end Emits

/-! ### Rules for restricted answers -/

variable {ans : A → Prop}

theorem Ensures.under {p : Prog D K E A ε α} {d : D} {es : List E} (h : Ensures mid post p d es) :
    EnsuresUnder ans post p d es := by
  induction p generalizing d es with
  | ret a => exact h
  | raise e => exact h
  | stmt eff next ih => exact fun a _ => ih a d (h a).2

theorem EnsuresUnder.ensures {p : Prog D K E A ε α} {d : D} {es : List E} (hans : ∀ a, ans a)
    (h : EnsuresUnder ans post p d es) : Ensures (fun _ => True) post p d es := by
  induction p generalizing d es with
  | ret a => exact h
  | raise e => exact h
  | stmt eff next ih => exact fun a => ⟨trivial, ih a d (h a (hans a))⟩

theorem EnsuresUnder.mono {post' : Except ε α → D → List E → Prop} {p : Prog D K E A ε α} {d : D}
    {es : List E} (h : EnsuresUnder ans post p d es) (hpost : ∀ r d es, post r d es → post' r d es) :
    EnsuresUnder ans post' p d es := by
  induction p generalizing d es with
  | ret a => exact hpost _ _ _ h
  | raise e => exact hpost _ _ _ h
  | stmt eff next ih => exact fun a ha => ih a d (h a ha)

/-- The sequence rule. -/
theorem EnsuresUnder.bind {Q : Except ε α → D → List E → Prop}
    {post : Except ε β → D → List E → Prop} {p : Prog D K E A ε α} {f : α → Prog D K E A ε β}
    {d : D} {es : List E} (hp : EnsuresUnder ans Q p d es)
    (hok : ∀ a d' es', Q (.ok a) d' es' → EnsuresUnder ans post (f a) d' es')
    (herr : ∀ e d' es', Q (.error e) d' es' → post (.error e) d' es') :
    EnsuresUnder ans post (p >>= f) d es := by
  induction p generalizing d es with
  | ret a => exact hok a d es hp
  | raise e => exact herr e d es hp
  | stmt eff next ih => exact fun a ha => ih a d (hp a ha)

/-- The sequence rule for a first program that does not raise. -/
theorem EnsuresUnder.bind_returns {Q : α → D → List E → Prop}
    {post : Except ε β → D → List E → Prop} {p : Prog D K E A ε α} {f : α → Prog D K E A ε β}
    {d : D} {es : List E} (hp : EnsuresUnder ans (Returns Q) p d es)
    (hok : ∀ a d' es', Q a d' es' → EnsuresUnder ans post (f a) d' es') :
    EnsuresUnder ans post (p >>= f) d es :=
  hp.bind hok fun _ _ _ h => h.elim

/-- The rule of an exception handler. -/
theorem EnsuresUnder.tryCatch {Q post : Except ε α → D → List E → Prop} {p : Prog D K E A ε α}
    {f : ε → Prog D K E A ε α} {d : D} {es : List E} (hp : EnsuresUnder ans Q p d es)
    (hok : ∀ a d' es', Q (.ok a) d' es' → post (.ok a) d' es')
    (herr : ∀ e d' es', Q (.error e) d' es' → EnsuresUnder ans post (f e) d' es') :
    EnsuresUnder ans post (tryCatchThe ε p f) d es := by
  induction p generalizing d es with
  | ret a => exact hok a d es hp
  | raise e => exact herr e d es hp
  | stmt eff next ih => exact fun a ha => ih a d (hp a ha)

/-- The conjunction rule. -/
theorem EnsuresUnder.and {post post' : Except ε α → D → List E → Prop} {p : Prog D K E A ε α}
    {d : D} {es : List E} (h : EnsuresUnder ans post p d es) (h' : EnsuresUnder ans post' p d es) :
    EnsuresUnder ans (fun r d es => post r d es ∧ post' r d es) p d es := by
  induction p generalizing d es with
  | ret a => exact ⟨h, h'⟩
  | raise e => exact ⟨h, h'⟩
  | stmt eff next ih => exact fun a ha => ih a d (h a ha) (h' a ha)

theorem ensuresUnder_call (emits : A → List E) (g : A → α) :
    EnsuresUnder ans post (call emits g : Prog D K E A ε α) d es ↔
      ∀ a, ans a → post (.ok (g a)) d (es ++ emits a) := Iff.rfl

theorem ensuresUnder_bind_call {post : Except ε β → D → List E → Prop} (emits : A → List E)
    (g : A → α) (f : α → Prog D K E A ε β) :
    EnsuresUnder ans post (call emits g >>= f) d es ↔
      ∀ a, ans a → EnsuresUnder ans post (f (g a)) d (es ++ emits a) := Iff.rfl

theorem ensuresUnder_bind_ask {post : Except ε β → D → List E → Prop} (g : A → α)
    (f : α → Prog D K E A ε β) :
    EnsuresUnder ans post (ask g >>= f) d es ↔
      ∀ a, ans a → EnsuresUnder ans post (f (g a)) d es := by
  show (∀ a, ans a → EnsuresUnder ans post (f (g a)) d (es ++ [])) ↔ _
  rw [List.append_nil]

theorem ensuresUnder_bind_queryForUpdate {post : Except ε β → D → List E → Prop}
    (locks : D → List K) (q : D → α) (f : α → Prog D K E A ε β)
    (h : EnsuresUnder ans post (f (q d)) d es) :
    EnsuresUnder ans post (queryForUpdate locks q >>= f) d es := by
  intro a _
  show EnsuresUnder ans post (f (q d)) d (es ++ [])
  rwa [List.append_nil]

theorem ensuresUnder_bind_query {post : Except ε β → D → List E → Prop} (q : D → α)
    (f : α → Prog D K E A ε β) (h : EnsuresUnder ans post (f (q d)) d es) :
    EnsuresUnder ans post (query q >>= f) d es := by
  intro a _
  show EnsuresUnder ans post (f (q d)) d (es ++ [])
  rwa [List.append_nil]

theorem ensuresUnder_bind_raiseIf {post : Except ε β → D → List E → Prop} (c : Prop) [Decidable c]
    (e : ε) (f : Unit → Prog D K E A ε β) :
    EnsuresUnder ans post (raiseIf c e >>= f) d es ↔
      (c → post (.error e) d es) ∧ (¬ c → EnsuresUnder ans post (f ()) d es) := by
  unfold raiseIf
  by_cases h : c
  · rw [if_pos h]
    exact ⟨fun hp => ⟨fun _ => hp, fun hn => absurd h hn⟩, fun hp => hp.1 h⟩
  · rw [if_neg h]
    exact ⟨fun hp => ⟨fun hc => absurd hc h, fun _ => hp⟩, fun hp => hp.2 h⟩

/-- What a program ensures under `ans` holds of a run whose answers satisfy `ans`. -/
theorem EnsuresUnder.exec {p : Prog D K E A ε α} {d : D} {es : List E}
    (h : EnsuresUnder ans post p d es) {env : ℕ → A} (henv : ∀ n, ans (env n)) :
    post (exec env p d).1 (exec env p d).2.1 (es ++ (exec env p d).2.2) := by
  induction p generalizing d es env with
  | ret a => simpa [Transactions.exec, EnsuresUnder] using h
  | raise e => simpa [Transactions.exec, EnsuresUnder] using h
  | stmt eff next ih =>
    have := ih (env 0) d (h (env 0) (henv 0)) fun n => henv (n + 1)
    simpa [Transactions.exec] using this

/-- Running a program for its effects. -/
theorem EnsuresUnder.discard {Q : D → List E → Prop} {p : Prog D K E A ε α} {d₀ d : D}
    {es : List E} (h : EnsuresUnder ans (AtEnd Q d₀) p d es) :
    EnsuresUnder ans (AtEnd Q d₀) (discard p) d es :=
  h.bind (fun _ _ _ hq => hq) fun _ _ _ hq => hq

theorem EnsuresUnder.transact {Q : D → List E → Prop} {p : Prog D K E A ε α} {s : Ledger D E}
    (h : EnsuresUnder ans (AtEnd Q s.db) p s.db s.log) (env : ℕ → A) (henv : ∀ n, ans (env n)) :
    Q (transact env p s).db (transact env p s).log := by
  have := h.exec henv
  unfold Transactions.transact Transactions.atomically
  rcases hr : Transactions.exec env p s.db with ⟨r | a, d', es⟩
  · simpa [hr, AtEnd] using this
  · simpa [hr, AtEnd] using this

theorem Ensures.transact {Q : D → List E → Prop} {p : Prog D K E A ε α} {s : Ledger D E}
    (h : Ensures mid (AtEnd Q s.db) p s.db s.log) (env : ℕ → A) :
    Q (transact env p s).db (transact env p s).log := by
  have hunder : EnsuresUnder (fun _ => True) (AtEnd Q s.db) p s.db s.log := h.under
  exact hunder.transact env fun _ => trivial

end Rules

end Transactions
