import UshBookNPay.Lib.RowLocks

/-!
# What a session relies on

A session of an interleaved run reads what others have committed in the meantime. Where every commit
of theirs is in a relation the session relies on, what it has read goes on to hold until it commits
itself.
-/

namespace Transactions

open Prog

variable {D K E A ε α β O P : Type}

/-- From the committed database `d` on, with the writes `w` made so far: as long as what others commit
changes the database in the relation `R`, the program ends where `Q` holds of the committed database,
of what it returns and of its writes. -/
def Relies (R : D → D → Prop) (Q : D → α → (D → D) → Prop) :
    Prog D K E A ε α → (D → D) → D → Prop
  | .ret a, w, d => ∀ d', R d d' → Q d' a w
  | .raise _, _, _ => True
  | .stmt eff next, w, d => ∀ d', R d d' → ∀ a,
      Relies R Q (next a (w d')) ((eff a (w d')).write ∘ w) d'

/-- The writes of the program leave the part `g` of the database alone. -/
def Spares (g : D → P) : Prog D K E A ε α → Prop
  | .ret _ => True
  | .raise _ => True
  | .stmt eff next => ∀ a d, (∀ d', g ((eff a d).write d') = g d') ∧ Spares g (next a d)

theorem Prog.bind_assoc {γ : Type} (p : Prog D K E A ε α) (f : α → Prog D K E A ε β)
    (g : β → Prog D K E A ε γ) : p >>= f >>= g = p >>= fun a => f a >>= g := by
  induction p with
  | ret a => rfl
  | raise e => rfl
  | stmt eff next ih =>
    show Prog.stmt eff _ = Prog.stmt eff _
    congr 1
    funext a d
    exact ih a d

/-! ## Programs that leave a part alone -/

section Spares

variable {g : D → P}

theorem spares_pure (a : α) : Spares g (pure a : Prog D K E A ε α) := trivial

theorem spares_query (q : D → α) : Spares g (query q : Prog D K E A ε α) :=
  fun _ _ => ⟨fun _ => rfl, trivial⟩

theorem spares_queryForUpdate (locks : D → List K) (q : D → α) :
    Spares g (queryForUpdate locks q : Prog D K E A ε α) :=
  fun _ _ => ⟨fun _ => rfl, trivial⟩

theorem spares_ask (f : A → α) : Spares g (ask f : Prog D K E A ε α) :=
  fun _ _ => ⟨fun _ => rfl, trivial⟩

theorem spares_call (emits : A → List E) (f : A → α) :
    Spares g (call emits f : Prog D K E A ε α) :=
  fun _ _ => ⟨fun _ => rfl, trivial⟩

theorem spares_update {locks : List K} {w : D → D} (h : ∀ d, g (w d) = g d) :
    Spares g (update locks w : Prog D K E A ε Unit) :=
  fun _ _ => ⟨h, trivial⟩

theorem spares_checkedUpdate {check : D → Option ε} {locks : List K} {w : D → D}
    (h : ∀ d, g (w d) = g d) : Spares g (checkedUpdate check locks w : Prog D K E A ε Unit) := by
  intro a d
  cases hcheck : check d with
  | some e =>
    dsimp only
    rw [hcheck]
    exact ⟨fun _ => rfl, trivial⟩
  | none =>
    dsimp only
    rw [hcheck]
    exact ⟨h, trivial⟩

theorem spares_forSome {o : Option α} {f : α → Prog D K E A ε Unit} (h : ∀ a, Spares g (f a)) :
    Spares g (forSome o f) := by
  cases o with
  | none => trivial
  | some a => exact h a

theorem spares_throw (e : ε) : Spares g (throw e : Prog D K E A ε α) := trivial

theorem spares_raiseIf (c : Prop) [Decidable c] (e : ε) :
    Spares g (raiseIf c e : Prog D K E A ε Unit) := by
  unfold raiseIf
  split_ifs
  · trivial
  · trivial

theorem Spares.bind {p : Prog D K E A ε α} {f : α → Prog D K E A ε β} (hp : Spares g p)
    (hf : ∀ a, Spares g (f a)) : Spares g (p >>= f) := by
  induction p with
  | ret a => exact hf a
  | raise e => trivial
  | stmt eff next ih => exact fun a d => ⟨(hp a d).1, ih a d (hp a d).2⟩

theorem Spares.map {p : Prog D K E A ε α} (hp : Spares g p) (f : α → β) : Spares g (f <$> p) :=
  hp.bind fun a => spares_pure (f a)

theorem Spares.discard {p : Prog D K E A ε α} (hp : Spares g p) : Spares g (discard p) :=
  hp.map fun _ => PUnit.unit

theorem Spares.ite {c : Prop} [Decidable c] {p q : Prog D K E A ε α} (hp : Spares g p)
    (hq : Spares g q) : Spares g (if c then p else q) := by
  split_ifs
  · exact hp
  · exact hq

theorem Spares.tryCatch {p : Prog D K E A ε α} {h : ε → Prog D K E A ε α} (hp : Spares g p)
    (hh : ∀ e, Spares g (h e)) : Spares g (tryCatchThe ε p h) := by
  induction p with
  | ret a => trivial
  | raise e => exact hh e
  | stmt eff next ih => exact fun a d => ⟨(hp a d).1, ih a d (hp a d).2⟩

/-- What depends on a part that is left alone is left alone. -/
theorem Spares.comp {P' : Type} {p : Prog D K E A ε α} (hp : Spares g p) (f : P → P') :
    Spares (fun d => f (g d)) p := by
  induction p with
  | ret a => trivial
  | raise e => trivial
  | stmt eff next ih =>
    exact fun a d => ⟨fun d' => congrArg f ((hp a d).1 d'), ih a d (hp a d).2⟩

theorem Spares.keeps {p : Prog D K E A ε α} (h : Spares g p) : Keeps g p := by
  induction p with
  | ret a => exact fun _ _ => rfl
  | raise e => exact fun _ _ => rfl
  | stmt eff next ih =>
    intro d es a
    refine ⟨trivial, (ih a d (h a d).2 _ _).mono (fun _ h => h) ?_⟩
    exact fun _ _ _ h' => h'.trans ((h a d).1 d)

end Spares

/-! ## Rules -/

section Rules

variable {R : D → D → Prop} {w : D → D} {d : D}

theorem Relies.mono {Q Q' : D → α → (D → D) → Prop} (hQ : ∀ d a w, Q d a w → Q' d a w)
    {p : Prog D K E A ε α} (h : Relies R Q p w d) : Relies R Q' p w d := by
  induction p generalizing w d with
  | ret a => exact fun d' hd' => hQ d' a w (h d' hd')
  | raise e => trivial
  | stmt eff next ih => exact fun d' hd' a => ih a (w d') (h d' hd' a)

/-- Others commit what is relied on. -/
theorem Relies.rely {Q : D → α → (D → D) → Prop} (htrans : ∀ d d' d'', R d d' → R d' d'' → R d d'')
    {p : Prog D K E A ε α} (h : Relies R Q p w d) {d' : D} (hd' : R d d') : Relies R Q p w d' := by
  cases p with
  | ret a => exact fun d'' hd'' => h d'' (htrans d d' d'' hd' hd'')
  | raise e => trivial
  | stmt eff next => exact fun d'' hd'' => h d'' (htrans d d' d'' hd' hd'')

/-- The sequence rule, with an intermediate assertion. -/
theorem Relies.bind (hrefl : ∀ d, R d d) {Q : D → α → (D → D) → Prop} {Q' : D → β → (D → D) → Prop}
    {p : Prog D K E A ε α} {f : α → Prog D K E A ε β} (h : Relies R Q p w d)
    (hf : ∀ d a w, Q d a w → Relies R Q' (f a) w d) : Relies R Q' (p >>= f) w d := by
  induction p generalizing w d with
  | ret a => exact hf d a w (h d (hrefl d))
  | raise e => trivial
  | stmt eff next ih => exact fun d' hd' a => ih a (w d') (h d' hd' a)

theorem relies_bind_raiseIf {Q : D → β → (D → D) → Prop} {c : Prop} [Decidable c] {e : ε}
    {f : Unit → Prog D K E A ε β} (h : ¬ c → Relies R Q (f ()) w d) :
    Relies R Q (raiseIf c e >>= f) w d := by
  unfold raiseIf
  split_ifs with hc
  · trivial
  · exact h hc

theorem relies_bind_query {Q : D → β → (D → D) → Prop} {q : D → α} {f : α → Prog D K E A ε β}
    (h : ∀ d', R d d' → Relies R Q (f (q (w d'))) w d') : Relies R Q (query q >>= f) w d :=
  fun d' hd' _ => h d' hd'

/-- A write that the database does not refuse. -/
theorem relies_bind_checkedUpdate {Q : D → β → (D → D) → Prop} {check : D → Option ε} {locks : List K}
    {u : D → D} {f : Unit → Prog D K E A ε β}
    (h : ∀ d', R d d' → check (w d') = none → Relies R Q (f ()) (u ∘ w) d') :
    Relies R Q (checkedUpdate check locks u >>= f) w d := by
  intro d' hd' a
  cases hcheck : check (w d') with
  | some e =>
    show Relies R Q (Prog.bind _ f) _ d'
    dsimp only
    rw [hcheck]
    trivial
  | none =>
    show Relies R Q (Prog.bind _ f) _ d'
    dsimp only
    rw [hcheck]
    exact h d' hd' hcheck

/-- A program that leaves a part alone adds nothing to the writes in it. -/
theorem Spares.relies {g : D → P} (hrefl : ∀ d, R d d)
    (htrans : ∀ d d' d'', R d d' → R d' d'' → R d d'') {p : Prog D K E A ε α} (h : Spares g p) :
    Relies R (fun d' _ w' => R d d' ∧ ∀ d₁, g (w' d₁) = g (w d₁)) p w d := by
  have hmain : ∀ (w' : D → D) (d' : D), R d d' → (∀ d₁, g (w' d₁) = g (w d₁)) →
      Relies R (fun d' _ w' => R d d' ∧ ∀ d₁, g (w' d₁) = g (w d₁)) p w' d' := by
    induction p with
    | ret a => exact fun w' d' hd' hw d'' hd'' => ⟨htrans d d' d'' hd' hd'', hw⟩
    | raise e => exact fun _ _ _ _ => trivial
    | stmt eff next ih =>
      intro w' d' hd' hw d'' hd'' a
      refine ih a (w' d'') (h a (w' d'')).2 _ d'' (htrans d d' d'' hd' hd'') fun d₁ => ?_
      exact ((h a (w' d'')).1 (w' d₁)).trans (hw d₁)
  exact hmain w d (hrefl d) fun _ => rfl

/-- A program that runs alone is one that no other comes between. -/
theorem Relies.exec (hrefl : ∀ d, R d d) {Q : D → α → (D → D) → Prop} {p : Prog D K E A ε α}
    (h : Relies R Q p w d) (env : ℕ → A) {a : α} (ha : (exec env p (w d)).1 = .ok a) :
    ∃ w', Q d a w' ∧ (exec env p (w d)).2.1 = w' d := by
  induction p generalizing w env with
  | ret b =>
    cases ha
    exact ⟨w, h d (hrefl d), rfl⟩
  | raise e => cases ha
  | stmt eff next ih => exact ih (env 0) (w d) (h d (hrefl d) (env 0)) (fun n => env (n + 1)) ha

/-- What a transaction guarantees when it commits holds of one that runs alone. -/
theorem Relies.atomically (hrefl : ∀ d, R d d) {Q : D → α → (D → D) → Prop} {Inv : D → Prop}
    {p : Prog D K E A ε α} (h : Relies R Q p id d) (hd : Inv d) (hcommit : ∀ a w, Q d a w → Inv (w d))
    (env : ℕ → A) : Inv (atomically env p d) := by
  have hrun : ∀ a, (Transactions.exec env p d).1 = .ok a → _ := fun a => h.exec hrefl env
  unfold Transactions.atomically
  rcases hexec : Transactions.exec env p d with ⟨e | a, d', es⟩
  · exact hd
  · obtain ⟨w, hQ, hw⟩ := hrun a (congrArg Prod.fst hexec)
    have hw' : d' = w d := (congrArg (·.2.1) hexec).symm.trans hw
    show Inv d'
    rw [hw']
    exact hcommit a w hQ

end Rules

/-! ## Runs -/

section Runs

variable [DecidableEq K] {code : O → Prog D K E A ε α} {Inv : D → Prop} {R : O → D → D → Prop}
  {Q : O → D → α → (D → D) → Prop}

/-- The invariant holds of what is committed, and every session in flight has what it relies on. -/
structure Guaranteed (Inv : D → Prop) (R : O → D → D → Prop) (Q : O → D → α → (D → D) → Prop)
    (s : System D K E A ε α O) : Prop where
  inv : Inv s.db
  sessions : ∀ sid t, Table.get s.sessions sid = some t →
    Relies (R t.op) (Q t.op) t.prog t.writes s.db

/-- The rule for a step: what a session that commits guarantees keeps the invariant, and what the others
need of the database they have after its commit. -/
theorem Guaranteed.step (hrefl : ∀ op d, R op d d)
    (hcode : ∀ d op, Inv d → Relies (R op) (Q op) (code op) id d)
    (hcommit : ∀ d op a w, Inv d → Q op d a w → Inv (w d))
    {s : System D K E A ε α O} (h : Guaranteed Inv R Q s) (ev : Event O A)
    (hothers : ∀ t a sid u, ev = .finish t.sid → Table.get s.sessions t.sid = some t →
      t.prog = .ret a → Q t.op s.db a t.writes → sid ≠ t.sid → Table.get s.sessions sid = some u →
      Relies (R u.op) (Q u.op) u.prog u.writes (t.writes s.db)) :
    Guaranteed Inv R Q (s.step code ev) := by
  have herase : ∀ sid, Guaranteed Inv R Q
      ({ s with sessions := Table.erase s.sessions sid } : System D K E A ε α O) := fun sid =>
    ⟨h.inv, fun sid' u hu => h.sessions sid' u (Table.get_of_get_erase hu).2⟩
  cases ev with
  | start sid op =>
    rw [System.step]
    split_ifs with hsid
    · exact h
    · refine ⟨h.inv, fun sid' u hu => ?_⟩
      rcases System.get_started hu with rfl | hu
      · exact hcode s.db op h.inv
      · exact h.sessions sid' u hu
  | exec sid answer =>
    cases hget : Table.get s.sessions sid with
    | none =>
      rw [System.step, System.withSession_none hget]
      exact h
    | some t =>
      obtain rfl : t.sid = sid := (Table.get_some hget).2
      rcases System.exec_advanced code hget answer with hsame | ⟨eff, next, hprog, -, hstep⟩
      · rw [hsame]
        exact h
      rw [hstep]
      refine ⟨h.inv, fun sid' u hu => ?_⟩
      rcases System.get_advanced hget _ _ hu with ⟨-, rfl⟩ | ⟨-, hu⟩
      · have hrelies := h.sessions t.sid t hget
        rw [hprog] at hrelies
        exact hrelies s.db (hrefl t.op s.db) answer
      · exact h.sessions sid' u hu
  | finish sid =>
    cases hget : Table.get s.sessions sid with
    | none =>
      rw [System.step, System.withSession_none hget]
      exact h
    | some t =>
      obtain rfl : t.sid = sid := (Table.get_some hget).2
      cases hprog : t.prog with
      | stmt eff next =>
        rw [System.step, System.withSession_some hget, System.finish, hprog]
        exact h
      | raise e =>
        rw [System.step_rollback code hget hprog]
        exact herase t.sid
      | ret a =>
        rw [System.step_commit code hget hprog]
        have hrelies := h.sessions t.sid t hget
        rw [hprog] at hrelies
        have hQ := hrelies s.db (hrefl t.op s.db)
        refine ⟨hcommit s.db t.op a t.writes h.inv hQ, fun sid' u hu => ?_⟩
        obtain ⟨hne, hu⟩ := Table.get_of_get_erase hu
        exact hothers t a sid' u rfl hget hprog hQ hne hu
  | crash sid => exact herase sid

end Runs

end Transactions
