import UshBookNPay.Lib.Sessions

/-!
# What a lock protects

A lock is held to the end of a transaction. While every statement that changes a part of the database
takes the lock of that part, at most one session in flight has changed it.
-/

namespace Transactions

open Prog

variable {D K E A ε α β O P : Type}

/-- A lock, the part of the database it protects, an event that only goes with a change of that part,
and what holds of every database. -/
structure Protected (D K E P : Type) where
  lock : K
  part : D → P
  loud : E
  valid : D → Prop

variable {p : Protected D K E P}

/-- The statement has nothing to do with the protected part. -/
structure Effect.Quiet (p : Protected D K E P) (e : Effect D K E) : Prop where
  unlocked : p.lock ∉ e.locks
  part : ∀ d, p.part (e.write d) = p.part d
  silent : p.loud ∉ e.emits
  valid : ∀ d, p.valid d → p.valid (e.write d)

theorem quiet_empty : Effect.Quiet p ({} : Effect D K E) := by
  constructor
  · simp
  · exact fun _ => rfl
  · simp
  · exact fun _ h => h

/-- Every statement of the program is quiet. -/
def Calm (p : Protected D K E P) : Prog D K E A ε α → Prop
  | .ret _ => True
  | .raise _ => True
  | .stmt eff next => ∀ a d, p.valid d → (eff a d).Quiet p ∧ Calm p (next a d)

/-- The statements of the program are quiet, up to one that `F` holds of, with what follows it. -/
def Until (p : Protected D K E P) (F : Effect D K E → Prog D K E A ε α → Prop) :
    Prog D K E A ε α → Prop
  | .ret _ => True
  | .raise _ => True
  | .stmt eff next => ∀ a d, p.valid d →
      (eff a d).Quiet p ∧ Until p F (next a d) ∨ F (eff a d) (next a d)

/-- As `Until`, of the runs in which `G` holds of each statement. What is returned without the change
satisfies `Q`. -/
def UntilUnder (p : Protected D K E P) (G : Effect D K E → D → Prop)
    (F : D → Effect D K E → Prog D K E A ε α → Prop) (Q : α → Prop) : Prog D K E A ε α → Prop
  | .ret a => Q a
  | .raise _ => True
  | .stmt eff next => ∀ a d, p.valid d → G (eff a d) d →
      (eff a d).Quiet p ∧ UntilUnder p G F Q (next a d) ∨ F d (eff a d) (next a d)

/-- The program sends the event first, and is quiet then. -/
def Sends (p : Protected D K E P) : Prog D K E A ε α → Prop
  | .ret _ => False
  | .raise _ => False
  | .stmt eff next => ∀ a d, eff a d = { emits := [p.loud] } ∧ Calm p (next a d)

/-! ## Rules -/

theorem calm_pure (a : α) : Calm p (pure a : Prog D K E A ε α) := trivial

theorem calm_throw (e : ε) : Calm p (throw e : Prog D K E A ε α) := trivial

theorem calm_raiseIf (c : Prop) [Decidable c] (e : ε) :
    Calm p (raiseIf c e : Prog D K E A ε Unit) := by
  unfold raiseIf
  split_ifs
  · trivial
  · trivial

theorem calm_bind_query {q : D → α} {f : α → Prog D K E A ε β} (hf : ∀ d, Calm p (f (q d))) :
    Calm p (query q >>= f) := fun _ d _ => ⟨quiet_empty, hf d⟩

theorem calm_ask (g : A → α) : Calm p (ask g : Prog D K E A ε α) :=
  fun _ _ _ => ⟨quiet_empty, trivial⟩

theorem calm_call {emits : A → List E} (h : ∀ a, p.loud ∉ emits a) (g : A → α) :
    Calm p (call emits g : Prog D K E A ε α) :=
  fun a _ _ => ⟨{ quiet_empty with silent := h a }, trivial⟩

theorem calm_update {locks : List K} {w : D → D} (hlock : p.lock ∉ locks)
    (hpart : ∀ d, p.part (w d) = p.part d) (hvalid : ∀ d, p.valid d → p.valid (w d)) :
    Calm p (update locks w : Prog D K E A ε Unit) :=
  fun _ _ _ => ⟨{ quiet_empty with unlocked := hlock, part := hpart, valid := hvalid }, trivial⟩

theorem calm_checkedUpdate {check : D → Option ε} {locks : List K} {w : D → D}
    (hlock : p.lock ∉ locks) (hpart : ∀ d, p.part (w d) = p.part d)
    (hvalid : ∀ d, p.valid d → p.valid (w d)) :
    Calm p (checkedUpdate check locks w : Prog D K E A ε Unit) := by
  intro a d _
  cases hcheck : check d with
  | some e =>
    dsimp only
    rw [hcheck]
    exact ⟨quiet_empty, trivial⟩
  | none =>
    dsimp only
    rw [hcheck]
    exact ⟨{ quiet_empty with unlocked := hlock, part := hpart, valid := hvalid }, trivial⟩

theorem Calm.bind {q : Prog D K E A ε α} {f : α → Prog D K E A ε β} (hq : Calm p q)
    (hf : ∀ a, Calm p (f a)) : Calm p (q >>= f) := by
  induction q with
  | ret a => exact hf a
  | raise e => trivial
  | stmt eff next ih => exact fun a d hd => ⟨(hq a d hd).1, ih a d (hq a d hd).2⟩

theorem Calm.tryCatch {q : Prog D K E A ε α} {h : ε → Prog D K E A ε α} (hq : Calm p q)
    (hh : ∀ e, Calm p (h e)) : Calm p (tryCatchThe ε q h) := by
  induction q with
  | ret a => trivial
  | raise e => exact hh e
  | stmt eff next ih => exact fun a d hd => ⟨(hq a d hd).1, ih a d (hq a d hd).2⟩

section Until

variable {F : Effect D K E → Prog D K E A ε α → Prop} {F' : Effect D K E → Prog D K E A ε β → Prop}

theorem until_pure (a : α) : Until p F (pure a : Prog D K E A ε α) := trivial

theorem until_throw (e : ε) : Until p F (throw e : Prog D K E A ε α) := trivial

theorem Calm.until {q : Prog D K E A ε α} (hq : Calm p q) : Until p F q := by
  induction q with
  | ret a => trivial
  | raise e => trivial
  | stmt eff next ih => exact fun a d hd => .inl ⟨(hq a d hd).1, ih a d (hq a d hd).2⟩

/-- A quiet program first. -/
theorem Calm.bind_until {q : Prog D K E A ε α} {f : α → Prog D K E A ε β} (hq : Calm p q)
    (hf : ∀ a, Until p F' (f a)) : Until p F' (q >>= f) := by
  induction q with
  | ret a => exact hf a
  | raise e => trivial
  | stmt eff next ih => exact fun a d hd => .inl ⟨(hq a d hd).1, ih a d (hq a d hd).2⟩

/-- A query first, of whose answer nothing else is known. -/
theorem until_bind_query {q : D → α} {f : α → Prog D K E A ε β}
    (hf : ∀ d, p.valid d → Until p F' (f (q d))) : Until p F' (query q >>= f) :=
  fun _ d hd => .inl ⟨quiet_empty, hf d hd⟩

/-- The change first. -/
theorem until_bind_update {locks : List K} {w : D → D} {f : Unit → Prog D K E A ε β}
    (h : F' { locks := locks, write := w } (f ())) : Until p F' (update locks w >>= f) :=
  fun _ _ _ => .inr h

theorem Until.bind {q : Prog D K E A ε α} {f : α → Prog D K E A ε β} (hq : Until p F q)
    (hF : ∀ e rest, F e rest → F' e (rest >>= f)) (hf : ∀ a, Until p F' (f a)) :
    Until p F' (q >>= f) := by
  induction q with
  | ret a => exact hf a
  | raise e => trivial
  | stmt eff next ih =>
    intro a d hd
    rcases hq a d hd with ⟨hquiet, hnext⟩ | hchange
    · exact .inl ⟨hquiet, ih a d hnext⟩
    · exact .inr (hF _ _ hchange)

theorem Until.tryCatch {q : Prog D K E A ε α} {h : ε → Prog D K E A ε α} (hq : Until p F q)
    (hF : ∀ e rest, F e rest → F e (tryCatchThe ε rest h)) (hh : ∀ e, Until p F (h e)) :
    Until p F (tryCatchThe ε q h) := by
  induction q with
  | ret a => trivial
  | raise e => exact hh e
  | stmt eff next ih =>
    intro a d hd
    rcases hq a d hd with ⟨hquiet, hnext⟩ | hchange
    · exact .inl ⟨hquiet, ih a d hnext⟩
    · exact .inr (hF _ _ hchange)

end Until

section UntilUnder

variable {G : Effect D K E → D → Prop} {F : D → Effect D K E → Prog D K E A ε β → Prop}
  {Q : β → Prop}

/-- A quiet program first. -/
theorem Calm.bind_untilUnder {q : Prog D K E A ε α} {f : α → Prog D K E A ε β} (hq : Calm p q)
    (hf : ∀ a, UntilUnder p G F Q (f a)) : UntilUnder p G F Q (q >>= f) := by
  induction q with
  | ret a => exact hf a
  | raise e => trivial
  | stmt eff next ih => exact fun a d hd _ => .inl ⟨(hq a d hd).1, ih a d (hq a d hd).2⟩

theorem untilUnder_bind_query {q : D → α} {f : α → Prog D K E A ε β}
    (hf : ∀ d, p.valid d → G {} d → UntilUnder p G F Q (f (q d))) :
    UntilUnder p G F Q (query q >>= f) :=
  fun _ d hd hG => .inl ⟨quiet_empty, hf d hd hG⟩

/-- A write that the database may refuse, which is the change. -/
theorem untilUnder_bind_checkedUpdate {check : D → Option ε} {locks : List K} {w : D → D}
    {f : Unit → Prog D K E A ε β}
    (hf : ∀ d, p.valid d → check d = none → G { locks := locks, write := w } d →
      F d { locks := locks, write := w } (f ())) :
    UntilUnder p G F Q (checkedUpdate check locks w >>= f) := by
  intro a d hd hG
  cases hcheck : check d with
  | some e =>
    left
    dsimp only
    rw [hcheck]
    exact ⟨quiet_empty, trivial⟩
  | none =>
    right
    dsimp only at hG ⊢
    rw [hcheck] at hG ⊢
    exact hf d hd hcheck hG

end UntilUnder

theorem sends_bind_call {emits : A → List E} (h : ∀ a, emits a = [p.loud]) {g : A → α}
    {f : α → Prog D K E A ε β} (hf : ∀ a, Calm p (f a)) : Sends p (call emits g >>= f) :=
  fun a _ => ⟨congrArg (fun es => ({ emits := es } : Effect D K E)) (h a), hf _⟩

theorem Sends.bind {q : Prog D K E A ε α} {f : α → Prog D K E A ε β} (hq : Sends p q)
    (hf : ∀ a, Calm p (f a)) : Sends p (q >>= f) := by
  cases q with
  | ret a => exact hq.elim
  | raise e => exact hq.elim
  | stmt eff next => exact fun a d => ⟨(hq a d).1, (hq a d).2.bind hf⟩

theorem Sends.tryCatch {q : Prog D K E A ε α} {h : ε → Prog D K E A ε α} (hq : Sends p q)
    (hh : ∀ e, Calm p (h e)) : Sends p (tryCatchThe ε q h) := by
  cases q with
  | ret a => exact hq.elim
  | raise e => exact hq.elim
  | stmt eff next => exact fun a d => ⟨(hq a d).1, (hq a d).2.tryCatch hh⟩

/-! ## The session that holds the lock -/

variable [DecidableEq K]

/-- At most one session in flight holds the lock. -/
def Exclusive (k : K) (s : System D K E A ε α O) : Prop :=
  ∀ sid t sid' t', Table.get s.sessions sid = some t → Table.get s.sessions sid' = some t' →
    k ∈ t.locks → k ∈ t'.locks → sid = sid'

/-- The system after a statement of `t` with the effect `e`. -/
def System.advanced (s : System D K E A ε α O) (t : Session D K E A ε α O) (e : Effect D K E)
    (rest : Prog D K E A ε α) : System D K E A ε α O :=
  { s with
    log := s.log ++ e.emits
    sessions := Table.modify s.sessions t.sid fun u => u.advance e rest }

omit [DecidableEq K] in
/-- The sessions after a statement: the one that has run it, and the others as they were. -/
theorem System.get_advanced {s : System D K E A ε α O} {t : Session D K E A ε α O}
    (ht : Table.get s.sessions t.sid = some t) (e : Effect D K E) (rest : Prog D K E A ε α) {sid : ℕ}
    {u : Session D K E A ε α O} (hu : Table.get (s.advanced t e rest).sessions sid = some u) :
    sid = t.sid ∧ u = t.advance e rest ∨ sid ≠ t.sid ∧ Table.get s.sessions sid = some u := by
  have hkey : ∀ u : Session D K E A ε α O, Table.Keyed.key (u.advance e rest) = Table.Keyed.key u :=
    fun _ => rfl
  by_cases h : sid = t.sid
  · left
    refine ⟨h, ?_⟩
    rw [System.advanced, h, Table.get_modify_self hkey, ht] at hu
    exact (Option.some.inj hu).symm
  · right
    rw [System.advanced, Table.get_modify_of_ne hkey h] at hu
    exact ⟨h, hu⟩

/-- A step of a session: it does not go on, or it runs a statement whose locks are free. -/
theorem System.exec_advanced (code : O → Prog D K E A ε α) {s : System D K E A ε α O}
    {t : Session D K E A ε α O} (ht : Table.get s.sessions t.sid = some t) (answer : A) :
    s.step code (.exec t.sid answer) = s ∨ ∃ eff next, t.prog = .stmt eff next ∧
      s.blocked t.sid (eff answer (t.writes s.db)).locks = false ∧
      s.step code (.exec t.sid answer) =
        s.advanced t (eff answer (t.writes s.db)) (next answer (t.writes s.db)) := by
  rcases System.step_exec_cases code ht answer with hsame | ⟨eff, next, hprog, hstep⟩
  · exact .inl hsame
  cases hfree : s.blocked t.sid (eff answer (t.writes s.db)).locks with
  | false => exact .inr ⟨eff, next, hprog, hfree, hstep⟩
  | true =>
    left
    rw [System.step, System.withSession_some ht, System.next, hprog]
    exact if_pos hfree

/-- A lock that is free is held by no other session. -/
theorem System.not_mem_of_free {s : System D K E A ε α O} {sid sid' : ℕ} {locks : List K} {k : K}
    (hfree : s.blocked sid locks = false) (hk : k ∈ locks) {t : Session D K E A ε α O}
    (ht : Table.get s.sessions sid' = some t) (hne : sid' ≠ sid) : k ∉ t.locks := by
  intro hmem
  obtain ⟨hin, hsid⟩ := Table.get_some ht
  have hblocked : s.blocked sid locks = true := by
    unfold System.blocked
    rw [List.any_eq_true]
    refine ⟨t, hin, ?_⟩
    have hne' : t.sid ≠ sid := fun h => hne (hsid.symm.trans h)
    simp only [decide_eq_true_eq, List.any_eq_true]
    exact ⟨hne', k, hk, by simpa using hmem⟩
  rw [hfree] at hblocked
  cases hblocked

/-- A statement keeps the lock exclusive. -/
theorem Exclusive.advanced {k : K} {s : System D K E A ε α O} (h : Exclusive k s)
    {t : Session D K E A ε α O} (ht : Table.get s.sessions t.sid = some t) {e : Effect D K E}
    (hfree : s.blocked t.sid e.locks = false) (rest : Prog D K E A ε α) :
    Exclusive k (s.advanced t e rest) := by
  have hself : ∀ sid u, sid ≠ t.sid → Table.get s.sessions sid = some u → k ∈ u.locks →
      k ∉ (t.advance e rest).locks := by
    intro sid u hne hu hmem hadv
    rcases List.mem_append.mp hadv with hold | hnew
    · exact hne (h sid u t.sid t hu ht hmem hold)
    · exact System.not_mem_of_free hfree hnew hu hne hmem
  intro sid u sid' u' hu hu' hk hk'
  rcases System.get_advanced ht e rest hu with ⟨rfl, rfl⟩ | ⟨hne, hu⟩
  · rcases System.get_advanced ht e rest hu' with ⟨rfl, -⟩ | ⟨hne', hu'⟩
    · rfl
    · exact (hself sid' u' hne' hu' hk' hk).elim
  · rcases System.get_advanced ht e rest hu' with ⟨rfl, rfl⟩ | ⟨-, hu'⟩
    · exact (hself sid u hne hu hk hk').elim
    · exact h sid u sid' u' hu hu' hk hk'

omit [DecidableEq K] in
/-- The sessions once another one has begun. -/
theorem System.get_started {s : System D K E A ε α O} {t : Session D K E A ε α O} {sid : ℕ}
    {u : Session D K E A ε α O} (hu : Table.get (s.sessions ++ [t]) sid = some u) :
    u = t ∨ Table.get s.sessions sid = some u := by
  rw [Table.get_append] at hu
  cases hs : Table.get s.sessions sid with
  | some v =>
    rw [hs] at hu
    exact .inr hu
  | none =>
    rw [hs] at hu
    exact .inl (List.mem_singleton.mp (Table.get_some hu).1)

omit [DecidableEq K] in
theorem Exclusive.erase {k : K} {s : System D K E A ε α O} (h : Exclusive k s) (d : D) (sid : ℕ) :
    Exclusive k { s with db := d, sessions := Table.erase s.sessions sid } :=
  fun i t j t' ht ht' => h i t j t' (Table.get_of_get_erase ht).2 (Table.get_of_get_erase ht').2

omit [DecidableEq K] in
/-- A session that begins holds no lock. -/
theorem Exclusive.start {k : K} {s : System D K E A ε α O} (h : Exclusive k s)
    {t : Session D K E A ε α O} (hlocks : t.locks = []) :
    Exclusive k { s with sessions := s.sessions ++ [t] } := by
  have hold : ∀ sid u, Table.get (s.sessions ++ [t]) sid = some u → k ∈ u.locks →
      Table.get s.sessions sid = some u := by
    intro sid u hu hmem
    rcases System.get_started hu with rfl | hu
    · rw [hlocks] at hmem
      cases hmem
    · exact hu
  exact fun i u j u' hu hu' hk hk' => h i u j u' (hold i u hu hk) (hold j u' hu' hk') hk hk'

end Transactions
