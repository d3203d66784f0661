import UshBookNPay.Lib.RelyGuarantee

/-!
# A lock for each part

A database of many parts, each protected by a lock of its own. A transaction that changes one part, and
holds its lock from the statement on that reads or changes it, works on the part as if it were alone: what
it leaves of the part depends on what the part was when the lock was taken, and on nothing that others
commit in the meantime. A transaction that changes several parts blindly, each under its lock, changes
them as its writes do whatever they are.
-/

namespace Transactions

open Prog

variable {D K E A ε α β O ι P : Type}

/-- The parts of a database and their locks. -/
structure Parts (D K ι P : Type) where
  lock : ι → K
  part : ι → D → P

/-- All parts of a database. -/
def Parts.all (ps : Parts D K ι P) (d : D) : ι → P := fun i => ps.part i d

/-- The rows of one key once those of another, or of the same, are changed. -/
theorem filter_modify {R : Type} [Table.Keyed R] {f : R → R}
    (hf : ∀ r, Table.Keyed.key (f r) = Table.Keyed.key r) (k j : ℕ) (rows : List R) :
    (Table.modify rows k f).filter (Table.Keyed.key · = j) =
      (rows.filter (Table.Keyed.key · = j)).map fun r => if j = k then f r else r := by
  unfold Table.modify
  rw [List.filter_map]
  have hkey : ∀ r : R, Table.Keyed.key (if Table.Keyed.key r = k then f r else r) =
      Table.Keyed.key r := by
    intro r
    split_ifs
    · exact hf r
    · rfl
  have hfilter : ((fun r : R => decide (Table.Keyed.key r = j)) ∘
      fun r => if Table.Keyed.key r = k then f r else r) = fun r => decide (Table.Keyed.key r = j) := by
    funext r
    simp only [Function.comp_apply, hkey]
  rw [hfilter]
  refine List.map_congr_left fun r hr => ?_
  have hj : Table.Keyed.key r = j := by simpa using (List.mem_filter.mp hr).2
  subst hj
  rfl

variable {ps : Parts D K ι P}

/-- The write makes `v'` of the part `i` where it is `v`, and leaves the other parts alone. -/
structure Rewrites (ps : Parts D K ι P) (i : ι) (v v' : P) (w : D → D) : Prop where
  here : ∀ d, ps.part i d = v → ps.part i (w d) = v'
  elsewhere : ∀ j, j ≠ i → ∀ d, ps.part j (w d) = ps.part j d

theorem Rewrites.comp {i : ι} {v v' v'' : P} {w w' : D → D} (h : Rewrites ps i v v' w)
    (h' : Rewrites ps i v' v'' w') : Rewrites ps i v v'' (w' ∘ w) := by
  constructor
  · exact fun d hd => h'.here (w d) (h.here d hd)
  · exact fun j hj d => (h'.elsewhere j hj (w d)).trans (h.elsewhere j hj d)

theorem rewrites_of_spared {w : D → D} (h : ∀ d, ps.all (w d) = ps.all d) (i : ι) (v : P) :
    Rewrites ps i v v w := by
  constructor
  · exact fun d hd => (congrFun (h d) i).trans hd
  · exact fun j _ d => congrFun (h d) j

/-- A program that holds the lock of the part `i`, which is `v` now, and that has emitted `es` ends where
`Q` holds of what it has emitted, the result and the part. -/
def Holding (ps : Parts D K ι P) (i : ι) (Q : List E → Except ε α → P → Prop) :
    Prog D K E A ε α → List E → P → Prop
  | .ret a, es, v => Q es (.ok a) v
  | .raise e, es, v => Q es (.error e) v
  | .stmt eff next, es, v => ∀ a d, ps.part i d = v → ∃ v', Rewrites ps i v v' (eff a d).write ∧
      Holding ps i Q (next a d) (es ++ (eff a d).emits) v'

/-- What is required of the part at a commit. -/
def AtCommit (G : List E → P → Prop) (es : List E) : Except ε α → P → Prop
  | .ok _, v => G es v
  | .error _, _ => True

/-- The program, which has emitted `es`, leaves the parts alone until it takes the lock of one. Where it
ends before that, `Q` holds of what it has emitted and the result; else `R` holds of the part, of what that
was when its lock was taken, of what it has emitted, the result and what the part is in the end. -/
def Locking (ps : Parts D K ι P) (Q : List E → Except ε α → Prop)
    (R : ι → P → List E → Except ε α → P → Prop) : Prog D K E A ε α → List E → Prop
  | .ret a, es => Q es (.ok a)
  | .raise e, es => Q es (.error e)
  | .stmt eff next, es => ∀ a d,
      ((∀ d', ps.all ((eff a d).write d') = ps.all d') ∧
        Locking ps Q R (next a d) (es ++ (eff a d).emits)) ∨
      ∃ i v', ps.lock i ∈ (eff a d).locks ∧ Rewrites ps i (ps.part i d) v' (eff a d).write ∧
        Holding ps i (R i (ps.part i d)) (next a d) (es ++ (eff a d).emits) v'

/-- Of the part it locks the program makes what `G` says, given what it has emitted until it commits. -/
abbrev Guards (ps : Parts D K ι P) (G : List E → ι → P → P → Prop) (p : Prog D K E A ε α)
    (es : List E) : Prop :=
  Locking ps (fun _ _ => True) (fun i v => AtCommit fun es' => G es' i v) p es

/-- The write changes only parts whose locks are among `locks`, whatever they are as `F` allows. -/
def Tame (ps : Parts D K ι P) (F : ι → P → P → Prop) (locks : List K) (w : D → D) : Prop :=
  ∀ i, (∀ d, ps.part i (w d) = ps.part i d) ∨
    ps.lock i ∈ locks ∧ ∀ d, F i (ps.part i d) (ps.part i (w d))

/-- Every write of the program is tame. -/
def Tames (ps : Parts D K ι P) (F : ι → P → P → Prop) : Prog D K E A ε α → Prop
  | .ret _ => True
  | .raise _ => True
  | .stmt eff next => ∀ a d, Tame ps F (eff a d).locks (eff a d).write ∧ Tames ps F (next a d)

/-! ## What programs emit -/

/-- Whatever the statements of the program find, all they emit satisfies `φ`. -/
def EmitsOnly (φ : E → Prop) : Prog D K E A ε α → Prop
  | .ret _ => True
  | .raise _ => True
  | .stmt eff next => ∀ a d, (∀ e ∈ (eff a d).emits, φ e) ∧ EmitsOnly φ (next a d)

section EmitsOnly

variable {φ : E → Prop}

theorem emitsOnly_pure (a : α) : EmitsOnly φ (pure a : Prog D K E A ε α) := trivial

theorem emitsOnly_throw (e : ε) : EmitsOnly φ (throw e : Prog D K E A ε α) := trivial

theorem emitsOnly_query (q : D → α) : EmitsOnly φ (query q : Prog D K E A ε α) :=
  fun _ _ => ⟨fun _ he => (by cases he), trivial⟩

theorem emitsOnly_queryForUpdate (locks : D → List K) (q : D → α) :
    EmitsOnly φ (queryForUpdate locks q : Prog D K E A ε α) :=
  fun _ _ => ⟨fun _ he => (by cases he), trivial⟩

theorem emitsOnly_ask (f : A → α) : EmitsOnly φ (ask f : Prog D K E A ε α) :=
  fun _ _ => ⟨fun _ he => (by cases he), trivial⟩

theorem emitsOnly_call {emits : A → List E} (h : ∀ a, ∀ e ∈ emits a, φ e) (f : A → α) :
    EmitsOnly φ (call emits f : Prog D K E A ε α) :=
  fun a _ => ⟨h a, trivial⟩

theorem emitsOnly_update (locks : List K) (w : D → D) :
    EmitsOnly φ (update locks w : Prog D K E A ε Unit) :=
  fun _ _ => ⟨fun _ he => (by cases he), trivial⟩

theorem emitsOnly_checkedUpdate (check : D → Option ε) (locks : List K) (w : D → D) :
    EmitsOnly φ (checkedUpdate check locks w : Prog D K E A ε Unit) := by
  intro a d
  cases hcheck : check d with
  | some e =>
    dsimp only
    rw [hcheck]
    exact ⟨fun _ he => (by cases he), trivial⟩
  | none =>
    dsimp only
    rw [hcheck]
    exact ⟨fun _ he => (by cases he), trivial⟩

theorem emitsOnly_raiseIf (c : Prop) [Decidable c] (e : ε) :
    EmitsOnly φ (raiseIf c e : Prog D K E A ε Unit) := by
  unfold raiseIf
  split_ifs
  · trivial
  · trivial

theorem emitsOnly_forSome {o : Option α} {f : α → Prog D K E A ε Unit} (h : ∀ a, EmitsOnly φ (f a)) :
    EmitsOnly φ (forSome o f) := by
  cases o with
  | none => trivial
  | some a => exact h a

theorem EmitsOnly.bind {p : Prog D K E A ε α} {f : α → Prog D K E A ε β} (hp : EmitsOnly φ p)
    (hf : ∀ a, EmitsOnly φ (f a)) : EmitsOnly φ (p >>= f) := by
  induction p with
  | ret a => exact hf a
  | raise e => trivial
  | stmt eff next ih => exact fun a d => ⟨(hp a d).1, ih a d (hp a d).2⟩

theorem EmitsOnly.discard {p : Prog D K E A ε α} (hp : EmitsOnly φ p) : EmitsOnly φ (discard p) :=
  hp.bind fun _ => trivial

theorem EmitsOnly.ite {c : Prop} [Decidable c] {p q : Prog D K E A ε α} (hp : EmitsOnly φ p)
    (hq : EmitsOnly φ q) : EmitsOnly φ (if c then p else q) := by
  split_ifs
  · exact hp
  · exact hq

end EmitsOnly

/-! ## Rules under the lock -/

section Holding

variable {i : ι} {Q : List E → Except ε α → P → Prop} {Q' : List E → Except ε β → P → Prop}
  {es : List E} {v : P}

theorem Holding.mono {Q₁ : List E → Except ε α → P → Prop} (hQ : ∀ es r v, Q es r v → Q₁ es r v)
    {p : Prog D K E A ε α} (h : Holding ps i Q p es v) : Holding ps i Q₁ p es v := by
  induction p generalizing es v with
  | ret a => exact hQ _ _ _ h
  | raise e => exact hQ _ _ _ h
  | stmt eff next ih =>
    intro a d hd
    obtain ⟨v', hw, hnext⟩ := h a d hd
    exact ⟨v', hw, ih a d hnext⟩

/-- The sequence rule, with an intermediate assertion. -/
theorem Holding.bind {p : Prog D K E A ε α} {f : α → Prog D K E A ε β} (hp : Holding ps i Q p es v)
    (hok : ∀ a es' v', Q es' (.ok a) v' → Holding ps i Q' (f a) es' v')
    (herr : ∀ e es' v', Q es' (.error e) v' → Q' es' (.error e) v') :
    Holding ps i Q' (p >>= f) es v := by
  induction p generalizing es v with
  | ret a => exact hok a es v hp
  | raise e => exact herr e es v hp
  | stmt eff next ih =>
    intro a d hd
    obtain ⟨v', hw, hnext⟩ := hp a d hd
    exact ⟨v', hw, ih a d hnext⟩

theorem Holding.tryCatch {Q₁ : List E → Except ε α → P → Prop} {p : Prog D K E A ε α}
    {h : ε → Prog D K E A ε α} (hp : Holding ps i Q p es v)
    (hok : ∀ a es' v', Q es' (.ok a) v' → Q₁ es' (.ok a) v')
    (herr : ∀ e es' v', Q es' (.error e) v' → Holding ps i Q₁ (h e) es' v') :
    Holding ps i Q₁ (tryCatchThe ε p h) es v := by
  induction p generalizing es v with
  | ret a => exact hok a es v hp
  | raise e => exact herr e es v hp
  | stmt eff next ih =>
    intro a d hd
    obtain ⟨v', hw, hnext⟩ := hp a d hd
    exact ⟨v', hw, ih a d hnext⟩

/-- A program that leaves the parts alone. -/
theorem Spares.holding {p : Prog D K E A ε α} (h : Spares ps.all p)
    (hQ : ∀ es' r, es <+: es' → Q es' r v) : Holding ps i Q p es v := by
  induction p generalizing es v with
  | ret a => exact hQ es _ (List.prefix_refl es)
  | raise e => exact hQ es _ (List.prefix_refl es)
  | stmt eff next ih =>
    intro a d _
    refine ⟨v, rewrites_of_spared (h a d).1 i v, ih a d (h a d).2 fun es' r hes' => ?_⟩
    exact hQ es' r ((List.prefix_append es _).trans hes')

/-- A program that leaves the parts alone first. -/
theorem Spares.bind_holding {p : Prog D K E A ε α} {f : α → Prog D K E A ε β} (h : Spares ps.all p)
    (hf : ∀ a es', es <+: es' → Holding ps i Q' (f a) es' v)
    (herr : ∀ e es', es <+: es' → Q' es' (.error e) v) : Holding ps i Q' (p >>= f) es v := by
  have hp : Holding ps i (fun es' _ v' => es <+: es' ∧ v' = v) p es v :=
    h.holding fun es' _ hes' => ⟨hes', rfl⟩
  refine hp.bind ?_ ?_
  · rintro a es' _ ⟨hes', rfl⟩
    exact hf a es' hes'
  · rintro e es' _ ⟨hes', rfl⟩
    exact herr e es' hes'

/-- A program that leaves the parts alone and emits only what `φ` allows. -/
theorem Spares.holding_emitsOnly {φ : E → Prop} {p : Prog D K E A ε α} (h : Spares ps.all p)
    (hs : EmitsOnly φ p) (hQ : ∀ new r, (∀ e ∈ new, φ e) → Q (es ++ new) r v) :
    Holding ps i Q p es v := by
  induction p generalizing es with
  | ret a =>
    have hnow := hQ [] (.ok a) fun _ he => (by cases he)
    rwa [List.append_nil] at hnow
  | raise e =>
    have hnow := hQ [] (.error e) fun _ he => (by cases he)
    rwa [List.append_nil] at hnow
  | stmt eff next ih =>
    intro a d _
    refine ⟨v, rewrites_of_spared (h a d).1 i v, ih a d (h a d).2 (hs a d).2 fun new r hnew => ?_⟩
    rw [List.append_assoc]
    refine hQ _ r fun e he => ?_
    rcases List.mem_append.mp he with he | he
    · exact (hs a d).1 e he
    · exact hnew e he

theorem Spares.bind_holding_emitsOnly {φ : E → Prop} {p : Prog D K E A ε α}
    {f : α → Prog D K E A ε β} (h : Spares ps.all p) (hs : EmitsOnly φ p)
    (hf : ∀ a new, (∀ e ∈ new, φ e) → Holding ps i Q' (f a) (es ++ new) v)
    (herr : ∀ e es', Q' es' (.error e) v) : Holding ps i Q' (p >>= f) es v := by
  have hp : Holding ps i (fun es' _ v' => (∃ new, es' = es ++ new ∧ ∀ e ∈ new, φ e) ∧ v' = v)
      p es v :=
    h.holding_emitsOnly hs fun new _ hnew => ⟨⟨new, rfl, hnew⟩, rfl⟩
  refine hp.bind ?_ ?_
  · rintro a _ _ ⟨⟨new, rfl, hnew⟩, rfl⟩
    exact hf a new hnew
  · rintro e es' _ ⟨-, rfl⟩
    exact herr e es'

/-- A locking query first, of the part among others. -/
theorem holding_bind_queryForUpdate {locks : D → List K} {q : D → α} {f : α → Prog D K E A ε β}
    (hf : ∀ d, ps.part i d = v → Holding ps i Q' (f (q d)) es v) :
    Holding ps i Q' (queryForUpdate locks q >>= f) es v := by
  intro _ d hd
  refine ⟨v, rewrites_of_spared (fun _ => rfl) i v, ?_⟩
  rw [List.append_nil]
  exact hf d hd

/-- The environment is asked first. -/
theorem holding_bind_call {emits : A → List E} {g : A → α} {f : α → Prog D K E A ε β}
    (hf : ∀ a, Holding ps i Q' (f (g a)) (es ++ emits a) v) :
    Holding ps i Q' (call emits g >>= f) es v :=
  fun a _ _ => ⟨v, rewrites_of_spared (fun _ => rfl) i v, hf a⟩

/-- A write of the part. -/
theorem holding_bind_update {v' : P} {locks : List K} {w : D → D} {f : Unit → Prog D K E A ε β}
    (hw : Rewrites ps i v v' w) (hf : Holding ps i Q' (f ()) es v') :
    Holding ps i Q' (update locks w >>= f) es v := by
  intro _ _ _
  refine ⟨v', hw, ?_⟩
  rw [List.append_nil]
  exact hf

/-- A write of the part that the database may refuse. -/
theorem holding_bind_checkedUpdate {v' : P} {check : D → Option ε} {locks : List K} {w : D → D}
    {f : Unit → Prog D K E A ε β} (hw : Rewrites ps i v v' w) (hf : Holding ps i Q' (f ()) es v')
    (herr : ∀ e, Q' es (.error e) v) : Holding ps i Q' (checkedUpdate check locks w >>= f) es v := by
  intro a d hd
  cases hcheck : check d with
  | some e =>
    refine ⟨v, ?_, ?_⟩
    · dsimp only
      rw [hcheck]
      exact rewrites_of_spared (fun _ => rfl) i v
    · dsimp only
      rw [hcheck]
      show Q' (es ++ []) (.error e) v
      rw [List.append_nil]
      exact herr e
  | none =>
    refine ⟨v', ?_, ?_⟩
    · dsimp only
      rw [hcheck]
      exact hw
    · dsimp only
      rw [hcheck]
      show Holding ps i Q' (f ()) (es ++ []) v'
      rw [List.append_nil]
      exact hf

theorem holding_bind_raiseIf {c : Prop} [Decidable c] {e : ε} {f : Unit → Prog D K E A ε β}
    (hf : ¬ c → Holding ps i Q' (f ()) es v) (herr : Q' es (.error e) v) :
    Holding ps i Q' (raiseIf c e >>= f) es v := by
  unfold raiseIf
  split_ifs with hc
  · exact herr
  · exact hf hc

end Holding

/-- What a program has emitted before stays emitted. -/
theorem Holding.extends {i : ι} {Q : List E → Except ε α → P → Prop} {es : List E} {v : P}
    {p : Prog D K E A ε α} (h : Holding ps i Q p es v) :
    Holding ps i (fun es' r v' => es <+: es' ∧ Q es' r v') p es v := by
  have hmain : ∀ es₁, es <+: es₁ → Holding ps i Q p es₁ v →
      Holding ps i (fun es' r v' => es <+: es' ∧ Q es' r v') p es₁ v := by
    clear h
    induction p generalizing v with
    | ret a => exact fun es₁ hes h => ⟨hes, h⟩
    | raise e => exact fun es₁ hes h => ⟨hes, h⟩
    | stmt eff next ih =>
      intro es₁ hes h a d hd
      obtain ⟨v', hw, hnext⟩ := h a d hd
      exact ⟨v', hw, ih a d _ (hes.trans (List.prefix_append es₁ _)) hnext⟩
  exact hmain es (List.prefix_refl es) h

/-! ## Rules before the lock -/

section Locking

variable {Q : List E → Except ε α → Prop} {R : ι → P → List E → Except ε α → P → Prop}
  {Q' : List E → Except ε β → Prop} {R' : ι → P → List E → Except ε β → P → Prop} {es : List E}

theorem Locking.mono {Q₁ : List E → Except ε α → Prop} {R₁ : ι → P → List E → Except ε α → P → Prop}
    {p : Prog D K E A ε α} (h : Locking ps Q R p es) (hQ : ∀ es r, Q es r → Q₁ es r)
    (hR : ∀ i v es r v', R i v es r v' → R₁ i v es r v') : Locking ps Q₁ R₁ p es := by
  induction p generalizing es with
  | ret a => exact hQ _ _ h
  | raise e => exact hQ _ _ h
  | stmt eff next ih =>
    intro a d
    rcases h a d with ⟨hspare, hnext⟩ | ⟨i, v, hlock, hre, hnext⟩
    · exact .inl ⟨hspare, ih a d hnext⟩
    · exact .inr ⟨i, v, hlock, hre, hnext.mono (hR i _)⟩

/-- The sequence rule, with intermediate assertions. -/
theorem Locking.bind {p : Prog D K E A ε α} {f : α → Prog D K E A ε β} (hp : Locking ps Q R p es)
    (hok : ∀ a es', Q es' (.ok a) → Locking ps Q' R' (f a) es')
    (herr : ∀ e es', Q es' (.error e) → Q' es' (.error e))
    (hin : ∀ i v a es' v', R i v es' (.ok a) v' → Holding ps i (R' i v) (f a) es' v')
    (hfail : ∀ i v e es' v', R i v es' (.error e) v' → R' i v es' (.error e) v') :
    Locking ps Q' R' (p >>= f) es := by
  induction p generalizing es with
  | ret a => exact hok a es hp
  | raise e => exact herr e es hp
  | stmt eff next ih =>
    intro a d
    rcases hp a d with ⟨hspare, hnext⟩ | ⟨i, v, hlock, hre, hnext⟩
    · exact .inl ⟨hspare, ih a d hnext⟩
    · exact .inr ⟨i, v, hlock, hre, hnext.bind (hin i _) (hfail i _)⟩

theorem Locking.tryCatch {Q₁ : List E → Except ε α → Prop}
    {R₁ : ι → P → List E → Except ε α → P → Prop} {p : Prog D K E A ε α} {h : ε → Prog D K E A ε α}
    (hp : Locking ps Q R p es) (hok : ∀ a es', Q es' (.ok a) → Q₁ es' (.ok a))
    (herr : ∀ e es', Q es' (.error e) → Locking ps Q₁ R₁ (h e) es')
    (hin : ∀ i v a es' v', R i v es' (.ok a) v' → R₁ i v es' (.ok a) v')
    (hfail : ∀ i v e es' v', R i v es' (.error e) v' → Holding ps i (R₁ i v) (h e) es' v') :
    Locking ps Q₁ R₁ (tryCatchThe ε p h) es := by
  induction p generalizing es with
  | ret a => exact hok a es hp
  | raise e => exact herr e es hp
  | stmt eff next ih =>
    intro a d
    rcases hp a d with ⟨hspare, hnext⟩ | ⟨i, v, hlock, hre, hnext⟩
    · exact .inl ⟨hspare, ih a d hnext⟩
    · exact .inr ⟨i, v, hlock, hre, hnext.tryCatch (hin i _) (hfail i _)⟩

/-- A program that leaves the parts alone. -/
theorem Spares.locking {p : Prog D K E A ε α} (h : Spares ps.all p)
    (hQ : ∀ es' r, es <+: es' → Q es' r) : Locking ps Q R p es := by
  induction p generalizing es with
  | ret a => exact hQ es _ (List.prefix_refl es)
  | raise e => exact hQ es _ (List.prefix_refl es)
  | stmt eff next ih =>
    refine fun a d => .inl ⟨(h a d).1, ih a d (h a d).2 fun es' r hes' => ?_⟩
    exact hQ es' r ((List.prefix_append es _).trans hes')

/-- The environment is asked first. -/
theorem locking_bind_call {emits : A → List E} {g : A → α} {f : α → Prog D K E A ε β}
    (hf : ∀ a, Locking ps Q' R' (f (g a)) (es ++ emits a)) :
    Locking ps Q' R' (call emits g >>= f) es :=
  fun a _ => .inl ⟨fun _ => rfl, hf a⟩

/-- What is selected is locked, if anything is. -/
theorem locking_queryForUpdate {locks : D → List K} {q : D → Option α} {lockOf : α → ι}
    (hq : ∀ d a, q d = some a → ps.lock (lockOf a) ∈ locks d) :
    Locking ps (fun es' r => es' = es ∧ r = .ok none)
      (fun i v es' r v' => v' = v ∧ es' = es ∧
        ∃ a d, r = .ok (some a) ∧ lockOf a = i ∧ q d = some a ∧ v = ps.part i d)
      (queryForUpdate locks q : Prog D K E A ε (Option α)) es := by
  intro _ d
  cases hd : q d with
  | none =>
    left
    refine ⟨fun _ => rfl, List.append_nil es, ?_⟩
    rw [hd]
  | some a =>
    right
    refine ⟨lockOf a, ps.part (lockOf a) d, hq d a hd, rewrites_of_spared (fun _ => rfl) _ _, rfl,
      List.append_nil es, a, d, ?_, rfl, hd, rfl⟩
    rw [hd]

end Locking

section Guards

variable {G : List E → ι → P → P → Prop} {es : List E}

theorem Spares.guards {p : Prog D K E A ε α} (h : Spares ps.all p) : Guards ps G p es :=
  h.locking fun _ _ _ => trivial

/-- A program that leaves the parts alone first. -/
theorem Spares.bind_guards {p : Prog D K E A ε α} {f : α → Prog D K E A ε β} (h : Spares ps.all p)
    (hf : ∀ a es', es <+: es' → Guards ps G (f a) es') : Guards ps G (p >>= f) es := by
  have hp : Locking ps (fun es' _ => es <+: es') (fun _ _ _ _ _ => False) p es :=
    h.locking fun _ _ hes' => hes'
  exact hp.bind hf (fun _ _ _ => trivial) (fun _ _ _ _ _ h => h.elim) fun _ _ _ _ _ _ => trivial

/-- A program that leaves the parts alone first, and emits only what `φ` allows. -/
theorem Spares.bind_guards_emitsOnly {φ : E → Prop} {p : Prog D K E A ε α} {f : α → Prog D K E A ε β}
    (h : Spares ps.all p) (hs : EmitsOnly φ p)
    (hf : ∀ a new, (∀ e ∈ new, φ e) → Guards ps G (f a) (es ++ new)) : Guards ps G (p >>= f) es := by
  induction p generalizing es with
  | ret a =>
    have hnow := hf a [] fun _ he => (by cases he)
    rwa [List.append_nil] at hnow
  | raise e => trivial
  | stmt eff next ih =>
    refine fun a d => .inl ⟨(h a d).1, ih a d (h a d).2 (hs a d).2 fun x new hnew => ?_⟩
    rw [List.append_assoc]
    refine hf x _ fun e he => ?_
    rcases List.mem_append.mp he with he | he
    · exact (hs a d).1 e he
    · exact hnew e he

theorem guards_bind_raiseIf {c : Prop} [Decidable c] {e : ε} {f : Unit → Prog D K E A ε β}
    (hf : ¬ c → Guards ps G (f ()) es) : Guards ps G (raiseIf c e >>= f) es := by
  unfold raiseIf
  split_ifs with hc
  · trivial
  · exact hf hc

theorem Guards.discard {p : Prog D K E A ε α} (h : Guards ps G p es) : Guards ps G (discard p) es := by
  refine Locking.bind h (fun _ _ _ => trivial) (fun _ _ _ => trivial) ?_ fun _ _ _ _ _ _ => trivial
  exact fun _ _ _ _ _ hG => hG

/-- The lock of a part is taken to write it, where the database does not refuse. -/
theorem guards_bind_checkedUpdate {i : ι} {check : D → Option ε} {locks : List K} {w : D → D}
    {f : Unit → Prog D K E A ε β} (hlock : ps.lock i ∈ locks)
    (hf : ∀ d, check d = none → ∃ v', Rewrites ps i (ps.part i d) v' w ∧
      Holding ps i (AtCommit fun es' => G es' i (ps.part i d)) (f ()) es v') :
    Guards ps G (checkedUpdate check locks w >>= f) es := by
  intro a d
  cases hcheck : check d with
  | some e =>
    left
    dsimp only
    rw [hcheck]
    exact ⟨fun _ => rfl, trivial⟩
  | none =>
    right
    obtain ⟨v', hw, hnext⟩ := hf d hcheck
    dsimp only
    rw [hcheck]
    refine ⟨i, v', hlock, hw, ?_⟩
    show Holding ps i _ (f ()) (es ++ []) v'
    rw [List.append_nil]
    exact hnext

end Guards

/-! ## Tame programs -/

section Tames

variable {F : ι → P → P → Prop}

theorem tame_of_spared {locks : List K} {w : D → D} (h : ∀ d, ps.all (w d) = ps.all d) :
    Tame ps F locks w :=
  fun i => .inl fun d => congrFun (h d) i

theorem Tame.comp (htrans : ∀ i v v' v'', F i v v' → F i v' v'' → F i v v'') {locks locks' : List K}
    {w w' : D → D} (h : Tame ps F locks w) (h' : Tame ps F locks' w') :
    Tame ps F (locks ++ locks') (w' ∘ w) := by
  intro i
  rcases h i with hsame | ⟨hlock, hF⟩
  · rcases h' i with hsame' | ⟨hlock', hF'⟩
    · exact .inl fun d => (hsame' (w d)).trans (hsame d)
    · refine .inr ⟨List.mem_append_right _ hlock', fun d => ?_⟩
      have hd := hF' (w d)
      rw [hsame d] at hd
      exact hd
  · refine .inr ⟨List.mem_append_left _ hlock, fun d => ?_⟩
    rcases h' i with hsame' | ⟨-, hF'⟩
    · show F i (ps.part i d) (ps.part i (w' (w d)))
      rw [hsame' (w d)]
      exact hF d
    · exact htrans i _ _ _ (hF d) (hF' (w d))

theorem Spares.tames {p : Prog D K E A ε α} (h : Spares ps.all p) : Tames ps F p := by
  induction p with
  | ret a => trivial
  | raise e => trivial
  | stmt eff next ih => exact fun a d => ⟨tame_of_spared (h a d).1, ih a d (h a d).2⟩

theorem tames_update {locks : List K} {w : D → D} (h : Tame ps F locks w) :
    Tames ps F (update locks w : Prog D K E A ε Unit) :=
  fun _ _ => ⟨h, trivial⟩

theorem tames_checkedUpdate {check : D → Option ε} {locks : List K} {w : D → D}
    (h : Tame ps F locks w) : Tames ps F (checkedUpdate check locks w : Prog D K E A ε Unit) := by
  intro a d
  cases hcheck : check d with
  | some e =>
    dsimp only
    rw [hcheck]
    exact ⟨tame_of_spared fun _ => rfl, trivial⟩
  | none =>
    dsimp only
    rw [hcheck]
    exact ⟨h, trivial⟩

theorem Tames.bind {p : Prog D K E A ε α} {f : α → Prog D K E A ε β} (hp : Tames ps F p)
    (hf : ∀ a, Tames ps F (f a)) : Tames ps F (p >>= f) := by
  induction p with
  | ret a => exact hf a
  | raise e => trivial
  | stmt eff next ih => exact fun a d => ⟨(hp a d).1, ih a d (hp a d).2⟩

theorem Tames.discard {p : Prog D K E A ε α} (hp : Tames ps F p) : Tames ps F (discard p) :=
  hp.bind fun _ => trivial

end Tames

/-! ## Runs -/

section Runs

variable {code : O → Prog D K E A ε α} {F : ι → P → P → Prop}
  {G : O → List E → ι → P → P → Prop}

/-- A session has left all parts alone so far, has the lock of the one it works on, or is tame. -/
inductive PartState (ps : Parts D K ι P) (F : ι → P → P → Prop) (G : O → List E → ι → P → P → Prop)
    (d : D) (t : Session D K E A ε α O) : Prop where
  | outside : (∀ d', ps.all (t.writes d') = ps.all d') → Guards ps (G t.op) t.prog t.emitted →
      PartState ps F G d t
  | inside (i : ι) (v : P) : ps.lock i ∈ t.locks → Rewrites ps i (ps.part i d) v t.writes →
      Holding ps i (AtCommit fun es => G t.op es i (ps.part i d)) t.prog t.emitted v →
      PartState ps F G d t
  | tame : Tame ps F t.locks t.writes → Tames ps F t.prog → PartState ps F G d t

/-- No lock of a part is held twice, and every session keeps to its parts. -/
structure PartsKept (ps : Parts D K ι P) (F : ι → P → P → Prop)
    (G : O → List E → ι → P → P → Prop) (s : System D K E A ε α O) : Prop where
  exclusive : ∀ i, Exclusive (ps.lock i) s
  sessions : ∀ sid t, Table.get s.sessions sid = some t → PartState ps F G s.db t

/-- A statement of a session keeps it to its parts. -/
theorem PartState.advance (htrans : ∀ i v v' v'', F i v v' → F i v' v'' → F i v v'')
    {s : System D K E A ε α O} {t : Session D K E A ε α O} (h : PartState ps F G s.db t)
    {eff : A → D → Effect D K E} {next : A → D → Prog D K E A ε α} (hprog : t.prog = .stmt eff next)
    (a : A) :
    PartState ps F G s.db (t.advance (eff a (t.writes s.db)) (next a (t.writes s.db))) := by
  cases h with
  | outside hw hp =>
    rw [hprog] at hp
    rcases hp a (t.writes s.db) with ⟨hspare, hnext⟩ | ⟨i, v', hlock, hre, hnext⟩
    · exact .outside (fun d' => (hspare (t.writes d')).trans (hw d')) hnext
    · have hi : ps.part i (t.writes s.db) = ps.part i s.db := congrFun (hw s.db) i
      rw [hi] at hre hnext
      refine .inside i v' (List.mem_append_right _ hlock) ?_ hnext
      exact (rewrites_of_spared hw i (ps.part i s.db)).comp hre
  | inside i v hlock hre hp =>
    rw [hprog] at hp
    obtain ⟨v', hre', hnext⟩ := hp a (t.writes s.db) (hre.here s.db rfl)
    exact .inside i v' (List.mem_append_left _ hlock) (hre.comp hre') hnext
  | tame hw hp =>
    rw [hprog] at hp
    obtain ⟨hw', hnext⟩ := hp a (t.writes s.db)
    exact .tame (hw.comp htrans hw') hnext

/-- A session keeps to its parts after a commit that leaves the parts it has locked alone. -/
theorem PartState.others {d d' : D} {t : Session D K E A ε α O} (h : PartState ps F G d t)
    (hsame : ∀ i, ps.lock i ∈ t.locks → ps.part i d' = ps.part i d) : PartState ps F G d' t := by
  cases h with
  | outside hw hp => exact .outside hw hp
  | inside i v hlock hre hp =>
    rw [← hsame i hlock] at hre hp
    exact .inside i v hlock hre hp
  | tame hw hp => exact .tame hw hp

/-- What a session commits: of each part it changes it has the lock, and makes what `G` says. -/
theorem PartState.commit (hFG : ∀ op es i v v', F i v v' → G op es i v v') {d : D}
    {t : Session D K E A ε α O} (h : PartState ps F G d t) {a : α} (hprog : t.prog = .ret a) (i : ι) :
    ps.part i (t.writes d) = ps.part i d ∨
      ps.lock i ∈ t.locks ∧ G t.op t.emitted i (ps.part i d) (ps.part i (t.writes d)) := by
  cases h with
  | outside hw _ => exact .inl (congrFun (hw d) i)
  | inside j v hlock hre hp =>
    rw [hprog] at hp
    by_cases hi : i = j
    · subst hi
      rw [hre.here d rfl]
      exact .inr ⟨hlock, hp⟩
    · exact .inl (hre.elsewhere i hi d)
  | tame hw _ =>
    rcases hw i with hsame | ⟨hlock, hF⟩
    · exact .inl (hsame d)
    · exact .inr ⟨hlock, hFG _ _ _ _ _ (hF d)⟩

variable [DecidableEq K]

/-- Every part a step changes is changed by the commit of a session, to what `G` says. -/
def Moves (ps : Parts D K ι P) (G : O → List E → ι → P → P → Prop) (code : O → Prog D K E A ε α)
    (s : System D K E A ε α O) (ev : Event O A) : Prop :=
  ∀ i, ps.part i (s.step code ev).db = ps.part i s.db ∨
    ∃ t, ev = .finish t.sid ∧ Table.get s.sessions t.sid = some t ∧
      G t.op t.emitted i (ps.part i s.db) (ps.part i (s.step code ev).db)

theorem PartsKept.step (htrans : ∀ i v v' v'', F i v v' → F i v' v'' → F i v v'')
    (hFG : ∀ op es i v v', F i v v' → G op es i v v') {s : System D K E A ε α O}
    (h : PartsKept ps F G s) {ev : Event O A}
    (hstart : ∀ sid op, ev = .start sid op → Guards ps (G op) (code op) [] ∨ Tames ps F (code op)) :
    PartsKept ps F G (s.step code ev) ∧ Moves ps G code s ev := by
  have herase : ∀ sid, PartsKept ps F G
      ({ s with sessions := Table.erase s.sessions sid } : System D K E A ε α O) := by
    intro sid
    refine ⟨fun i => (h.exclusive i).erase s.db sid, fun sid' u hu => ?_⟩
    exact h.sessions sid' u (Table.get_of_get_erase hu).2
  cases ev with
  | start sid op =>
    refine ⟨?_, fun i => .inl ?_⟩
    · rw [System.step]
      split_ifs with hsid
      · exact h
      · refine ⟨fun i => (h.exclusive i).start rfl, fun sid' u hu => ?_⟩
        rcases System.get_started hu with rfl | hu
        · rcases hstart sid op rfl with hguards | htames
          · exact .outside (fun _ => rfl) hguards
          · exact .tame (tame_of_spared fun _ => rfl) htames
        · exact h.sessions sid' u hu
    · rw [System.step]
      split_ifs
      · rfl
      · rfl
  | exec sid answer =>
    cases hget : Table.get s.sessions sid with
    | none =>
      unfold Moves
      rw [System.step, System.withSession_none hget]
      exact ⟨h, fun i => .inl rfl⟩
    | some t =>
      obtain rfl : t.sid = sid := (Table.get_some hget).2
      unfold Moves
      rcases System.exec_advanced code hget answer with hsame | ⟨eff, next, hprog, hfree, hstep⟩
      · rw [hsame]
        exact ⟨h, fun i => .inl rfl⟩
      rw [hstep]
      refine ⟨⟨fun i => (h.exclusive i).advanced hget hfree _, fun sid' u hu => ?_⟩,
        fun i => .inl rfl⟩
      rcases System.get_advanced hget _ _ hu with ⟨-, rfl⟩ | ⟨-, hu⟩
      · exact (h.sessions t.sid t hget).advance htrans hprog answer
      · exact h.sessions sid' u hu
  | finish sid =>
    cases hget : Table.get s.sessions sid with
    | none =>
      unfold Moves
      rw [System.step, System.withSession_none hget]
      exact ⟨h, fun i => .inl rfl⟩
    | some t =>
      obtain rfl : t.sid = sid := (Table.get_some hget).2
      unfold Moves
      cases hprog : t.prog with
      | stmt eff next =>
        rw [System.step, System.withSession_some hget, System.finish, hprog]
        exact ⟨h, fun i => .inl rfl⟩
      | raise e =>
        rw [System.step_rollback code hget hprog]
        exact ⟨herase t.sid, fun i => .inl rfl⟩
      | ret a =>
        rw [System.step_commit code hget hprog]
        have hcommit := (h.sessions t.sid t hget).commit hFG hprog
        refine ⟨⟨fun i => (h.exclusive i).erase _ t.sid, fun sid' u hu => ?_⟩, fun i => ?_⟩
        · obtain ⟨hne, hu⟩ := Table.get_of_get_erase hu
          refine (h.sessions sid' u hu).others fun i hlock => ?_
          rcases hcommit i with hsame | ⟨hlock', -⟩
          · exact hsame
          · exact (hne (h.exclusive i sid' u t.sid t hu hget hlock hlock')).elim
        · exact (hcommit i).imp_right fun hG => ⟨t, rfl, hget, hG.2⟩
  | crash sid => exact ⟨herase sid, fun i => .inl rfl⟩

/-- The transactions that begin satisfy `Ok`. -/
def Starting (Ok : O → Prop) (_ : System D K E A ε α O) : Event O A → Prop
  | .start _ op => Ok op
  | _ => True

theorem allSteps_starting {Ok : O → Prop} (h : ∀ op, Ok op) (s : System D K E A ε α O)
    (evs : List (Event O A)) : Runs.AllSteps (System.step code) (Starting Ok) s evs := by
  have hmem : Runs.AllSteps (System.step code) (fun _ _ => True) s evs :=
    Runs.allSteps_of_mem fun _ _ => trivial
  refine Runs.allSteps_of_allSteps (I := fun _ => True) (fun _ ev _ _ => ⟨trivial, ?_⟩) trivial hmem
  cases ev with
  | start sid op => exact h op
  | exec sid answer => trivial
  | finish sid => trivial
  | crash sid => trivial

/-- The rule for runs: where each transaction that begins guards the parts or is tame, every step of an
interleaved run changes the parts as `G` says. -/
theorem allSteps_moves (htrans : ∀ i v v' v'', F i v v' → F i v' v'' → F i v v'')
    (hFG : ∀ op es i v v', F i v v' → G op es i v v') {Ok : O → Prop}
    (hcode : ∀ op, Ok op → Guards ps (G op) (code op) [] ∨ Tames ps F (code op)) {d : D}
    {evs : List (Event O A)}
    (h : Runs.AllSteps (System.step code) (Starting Ok) ({ db := d } : System D K E A ε α O) evs) :
    Runs.AllSteps (System.step code) (Moves ps G code) ({ db := d } : System D K E A ε α O) evs := by
  have hinit : PartsKept ps F G ({ db := d } : System D K E A ε α O) :=
    ⟨fun i sid t sid' t' ht => (by cases ht), fun sid t ht => (by cases ht)⟩
  refine Runs.allSteps_of_allSteps (I := PartsKept ps F G) (Q := Starting Ok) ?_ hinit h
  intro s ev hs hev
  refine hs.step htrans hFG ?_
  rintro sid op rfl
  exact hcode op hev

/-- The rule for states: what `G` says of every change of a part, and what composes, holds between the
part at the beginning and in any later state. -/
theorem always_moved {R : ι → P → P → Prop} (refl : ∀ i v, R i v v)
    (trans : ∀ i v v' v'', R i v v' → R i v' v'' → R i v v'') (hG : ∀ op es i v v', G op es i v v' →
      R i v v') {d : D} {evs : List (Event O A)}
    (h : Runs.AllSteps (System.step code) (Moves ps G code) ({ db := d } : System D K E A ε α O) evs) :
    Runs.Always (System.step code) (fun s => ∀ i, R i (ps.part i d) (ps.part i s.db))
      ({ db := d } : System D K E A ε α O) evs := by
  refine Runs.always_of_allSteps (Q := Moves ps G code) ?_ (fun i => refl i _) h
  intro s ev hs hmoves i
  rcases hmoves i with hsame | ⟨t, -, -, hchange⟩
  · rw [hsame]
    exact hs i
  · exact trans i _ _ _ (hs i) (hG _ _ _ _ _ hchange)

end Runs

end Transactions
