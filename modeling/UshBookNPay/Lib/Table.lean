import Mathlib.Algebra.BigOperators.Group.List.Basic
import Mathlib.Algebra.Order.BigOperators.Group.List
import Mathlib.Algebra.Order.Ring.Int
import Mathlib.Data.List.Nodup

/-!
# Tables of keyed rows

A table is the list of its rows in the order of their creation; a row is found, changed and removed
by its key. Sums over a table of unique keys split into the row of one key and all the others.
-/

namespace Table

/-- A type of rows that carry their primary key. -/
class Keyed (R : Type*) where
  key : R → ℕ

variable {R : Type*} [Keyed R]

open Keyed (key)

/-- No two rows share a key. -/
def Unique (rows : List R) : Prop := (rows.map key).Nodup

/-- The row with key `k`. -/
def get (rows : List R) (k : ℕ) : Option R := rows.find? (fun r => key r = k)

/-- The table with the row of key `k` changed by `f`. -/
def modify (rows : List R) (k : ℕ) (f : R → R) : List R :=
  rows.map (fun r => if key r = k then f r else r)

/-- The table without the row of key `k`. -/
def erase (rows : List R) (k : ℕ) : List R := rows.filter (fun r => key r ≠ k)

/-- The sum of `w` over the rows. -/
def total (w : R → ℤ) (rows : List R) : ℤ := (rows.map w).sum

theorem get_some {rows : List R} {k : ℕ} {r : R} (h : get rows k = some r) :
    r ∈ rows ∧ key r = k := by
  have hk := List.find?_some h
  exact ⟨List.mem_of_find?_eq_some h, by simpa using hk⟩

theorem get_eq_of_mem {rows : List R} (hu : Unique rows) {r : R} (hr : r ∈ rows) :
    get rows (key r) = some r := by
  induction rows with
  | nil => simp at hr
  | cons a rows ih =>
    simp only [Unique, List.map_cons, List.nodup_cons] at hu
    rcases List.mem_cons.mp hr with rfl | hr
    · simp [get]
    · have hne : key a ≠ key r := fun h => hu.1 (h ▸ List.mem_map_of_mem hr)
      have := ih hu.2 hr
      simpa [get, hne] using this

/-- In a table of unique keys the key determines the row. -/
theorem eq_of_key_eq {rows : List R} (hu : Unique rows) {r r' : R} (hr : r ∈ rows)
    (hr' : r' ∈ rows) (h : key r = key r') : r = r' := by
  have h1 := get_eq_of_mem hu hr
  rw [h, get_eq_of_mem hu hr'] at h1
  exact (Option.some.inj h1).symm

theorem get_none {rows : List R} {k : ℕ} (h : get rows k = none) {r : R} (hr : r ∈ rows) :
    key r ≠ k := by
  simpa using List.find?_eq_none.mp h r hr

theorem Unique.append {rows : List R} (hu : Unique rows) {r : R} (h : get rows (key r) = none) :
    Unique (rows ++ [r]) := by
  have hnot : ∀ x ∈ rows, key x ≠ key r := fun x hx => get_none h hx
  unfold Unique at hu ⊢
  rw [List.map_append, List.nodup_append]
  refine ⟨hu, by simp, ?_⟩
  simp only [List.mem_map, List.map_cons, List.map_nil, List.mem_singleton]
  rintro _ ⟨x, hx, rfl⟩ _ rfl
  exact hnot x hx

theorem map_key_modify {f : R → R} (hf : ∀ r, key (f r) = key r) (rows : List R) (k : ℕ) :
    (modify rows k f).map key = rows.map key := by
  simp only [modify, List.map_map, List.map_inj_left, Function.comp_apply]
  intro r _
  split_ifs
  · exact hf r
  · rfl

theorem Unique.modify {rows : List R} (hu : Unique rows) {f : R → R}
    (hf : ∀ r, key (f r) = key r) (k : ℕ) : Unique (modify rows k f) := by
  unfold Unique
  rw [map_key_modify hf]
  exact hu

theorem Unique.erase {rows : List R} (hu : Unique rows) (k : ℕ) : Unique (erase rows k) :=
  hu.sublist (List.filter_sublist.map key)

theorem mem_modify {rows : List R} {k : ℕ} {f : R → R} {r : R} :
    r ∈ modify rows k f ↔ (r ∈ rows ∧ key r ≠ k) ∨ ∃ a ∈ rows, key a = k ∧ f a = r := by
  simp only [modify, List.mem_map]
  constructor
  · rintro ⟨a, ha, rfl⟩
    by_cases h : key a = k
    · exact .inr ⟨a, ha, h, by simp [h]⟩
    · exact .inl (by simp [h, ha])
  · rintro (⟨hr, hk⟩ | ⟨a, ha, hk, rfl⟩)
    · exact ⟨r, hr, by simp [hk]⟩
    · exact ⟨a, ha, by simp [hk]⟩

theorem modify_of_not_mem {rows : List R} {k : ℕ} {f : R → R} (h : ∀ r ∈ rows, key r ≠ k) :
    modify rows k f = rows := by
  unfold modify
  conv_rhs => rw [← List.map_id rows]
  exact List.map_congr_left fun r hr => by simp [h r hr]

theorem modify_id (rows : List R) (k : ℕ) : modify rows k id = rows := by
  simp [modify]

theorem modify_modify {f g : R → R} (hf : ∀ r, key (f r) = key r) (rows : List R) (k : ℕ) :
    modify (modify rows k f) k g = modify rows k (g ∘ f) := by
  simp only [modify, List.map_map, List.map_inj_left, Function.comp_apply]
  intro r _
  by_cases h : key r = k
  · simp [h, hf]
  · simp [h]

theorem get_modify_self {rows : List R} {k : ℕ} {f : R → R} (hf : ∀ r, key (f r) = key r) :
    get (modify rows k f) k = (get rows k).map f := by
  induction rows with
  | nil => rfl
  | cons a rows ih =>
    by_cases h : key a = k
    · simp [get, modify, h, hf]
    · simpa [get, modify, h] using ih

theorem get_cons (a : R) (rows : List R) (k : ℕ) :
    get (a :: rows) k = if key a = k then some a else get rows k := by
  by_cases h : key a = k <;> simp [get, h]

theorem get_modify_of_ne {rows : List R} {k k' : ℕ} {f : R → R} (hf : ∀ r, key (f r) = key r)
    (h : k' ≠ k) : get (modify rows k f) k' = get rows k' := by
  induction rows with
  | nil => rfl
  | cons a rows ih =>
    have hcons : modify (a :: rows) k f = (if key a = k then f a else a) :: modify rows k f := rfl
    rw [hcons, get_cons, get_cons, ih]
    by_cases hk : key a = k
    · have hne : key a ≠ k' := fun e => h (e.symm.trans hk)
      simp [hk, hf, h.symm]
    · simp [hk]

omit [Keyed R] in
@[simp] theorem total_append (w : R → ℤ) (rows rows' : List R) :
    total w (rows ++ rows') = total w rows + total w rows' := by
  simp [total]

omit [Keyed R] in
@[simp] theorem total_singleton (w : R → ℤ) (r : R) : total w [r] = w r := by
  simp [total]

omit [Keyed R] in
theorem total_congr {w w' : R → ℤ} {rows : List R} (h : ∀ r ∈ rows, w r = w' r) :
    total w rows = total w' rows := by
  unfold total
  rw [List.map_congr_left h]

omit [Keyed R] in
theorem total_add (w w' : R → ℤ) (rows : List R) :
    total w rows + total w' rows = total (fun r => w r + w' r) rows :=
  List.sum_map_add.symm

omit [Keyed R] in
theorem total_le {w w' : R → ℤ} {rows : List R} (h : ∀ r ∈ rows, w r ≤ w' r) :
    total w rows ≤ total w' rows :=
  List.sum_le_sum h

/-- The rows of the other keys and the row of key `k` make up the total. -/
theorem total_eq_erase_add {rows : List R} (hu : Unique rows) {k : ℕ} {r : R}
    (h : get rows k = some r) (w : R → ℤ) : total w rows = total w (erase rows k) + w r := by
  induction rows with
  | nil => simp [get] at h
  | cons a rows ih =>
    simp only [Unique, List.map_cons, List.nodup_cons] at hu
    by_cases hk : key a = k
    · have har : a = r := by simpa [get, hk] using h
      subst har
      have hrest : erase rows k = rows := by
        apply List.filter_eq_self.mpr
        intro x hx
        have : key x ≠ k := fun e => hu.1 (hk ▸ e ▸ List.mem_map_of_mem hx)
        simpa using this
      have herase : erase (a :: rows) k = rows := by
        simpa [erase, hk] using hrest
      rw [herase]
      simp [total, add_comm]
    · have hget : get rows k = some r := by simpa [get, hk] using h
      have := ih hu.2 hget
      simp only [total, erase, List.map_cons, List.sum_cons] at this ⊢
      simp only [ne_eq, hk, not_false_eq_true, decide_true, List.filter_cons_of_pos, List.map_cons,
        List.sum_cons]
      rw [this, add_assoc]

/-- Entries for different keys, each with the weight of its row, sum up to the total over the rows that
have an entry. -/
theorem sum_entries {rows : List R} (hu : Unique rows) {w : R → ℤ} {entries : List (ℕ × ℤ)}
    (hnodup : (entries.map Prod.fst).Nodup)
    (hrow : ∀ e ∈ entries, ∃ r, get rows e.1 = some r ∧ w r = e.2) :
    (entries.map Prod.snd).sum =
      total (fun r => if key r ∈ entries.map Prod.fst then w r else 0) rows := by
  induction entries with
  | nil => simp [Table.total]
  | cons e entries ih =>
    rw [List.map_cons, List.nodup_cons] at hnodup
    obtain ⟨r, hr, hw⟩ := hrow e (by simp)
    have hkey : key r = e.1 := (get_some hr).2
    have ih' := ih hnodup.2 fun e' he' => hrow e' (by simp [he'])
    rw [List.map_cons, List.sum_cons, ih', total_eq_erase_add hu hr, total_eq_erase_add hu hr]
    have hself : key r ∉ entries.map Prod.fst := hkey ▸ hnodup.1
    have hother : total (fun r => if key r ∈ (e :: entries).map Prod.fst then w r else 0)
        (erase rows e.1) =
        total (fun r => if key r ∈ entries.map Prod.fst then w r else 0) (erase rows e.1) := by
      refine total_congr fun x hx => ?_
      have hne : key x ≠ e.1 := by simpa using (List.mem_filter.mp hx).2
      simp only [List.map_cons, List.mem_cons, hne, false_or]
    rw [hother, if_neg hself, if_pos (by simp [hkey]), hw]
    omega

theorem total_erase_of_none {rows : List R} {k : ℕ} (h : get rows k = none) (w : R → ℤ) :
    total w (erase rows k) = total w rows := by
  have : erase rows k = rows :=
    List.filter_eq_self.mpr fun x hx => by simpa using get_none h hx
  rw [this]

theorem get_erase_of_ne {rows : List R} {k k' : ℕ} (h : k' ≠ k) :
    get (erase rows k) k' = get rows k' := by
  induction rows with
  | nil => rfl
  | cons a rows ih =>
    by_cases hk : key a = k
    · have herase : erase (a :: rows) k = erase rows k := by simp [erase, hk]
      rw [herase, ih, get_cons, if_neg fun he => h (he.symm.trans hk)]
    · have herase : erase (a :: rows) k = a :: erase rows k := by simp [erase, hk]
      rw [herase, get_cons, get_cons, ih]

theorem get_erase_self (rows : List R) (k : ℕ) : get (erase rows k) k = none := by
  refine List.find?_eq_none.mpr fun r hr => ?_
  have hne := (List.mem_filter.mp hr).2
  simpa using hne

/-- What is left after a removal was there before. -/
theorem get_of_get_erase {rows : List R} {k k' : ℕ} {r : R} (h : get (erase rows k) k' = some r) :
    k' ≠ k ∧ get rows k' = some r := by
  have hne : k' ≠ k := by
    rintro rfl
    rw [get_erase_self] at h
    cases h
  exact ⟨hne, by rw [← get_erase_of_ne hne, h]⟩

theorem get_append (rows rows' : List R) (k : ℕ) :
    get (rows ++ rows') k = (get rows k).or (get rows' k) := List.find?_append

theorem get_append_of_some {rows rows' : List R} {k : ℕ} {r : R} (h : get rows k = some r) :
    get (rows ++ rows') k = some r := by
  unfold get at h ⊢
  rw [List.find?_append, h]
  rfl

theorem get_append_new {rows : List R} {r : R} (h : get rows (key r) = none) :
    get (rows ++ [r]) (key r) = some r := by
  unfold get at h ⊢
  rw [List.find?_append, h]
  simp

/-- A row that has just been added is the only one its key changes. -/
theorem modify_append_new {rows : List R} {r : R} (h : get rows (key r) = none) (f : R → R) :
    modify (rows ++ [r]) (key r) f = rows ++ [f r] := by
  have hold : modify rows (key r) f = rows := modify_of_not_mem fun x hx => get_none h hx
  unfold modify at hold ⊢
  rw [List.map_append, hold]
  simp

theorem erase_modify {f : R → R} (hf : ∀ r, key (f r) = key r) (rows : List R) (k : ℕ) :
    erase (modify rows k f) k = erase rows k := by
  induction rows with
  | nil => rfl
  | cons a rows ih =>
    have ih' : List.filter (fun r => key r ≠ k) (rows.map fun r => if key r = k then f r else r)
        = List.filter (fun r => key r ≠ k) rows := ih
    by_cases hk : key a = k
    · simpa [erase, modify, hk, hf] using ih'
    · simpa [erase, modify, hk] using ih'

/-- Changing one row changes the total by that row's share. -/
theorem total_modify {rows : List R} (hu : Unique rows) {k : ℕ} {r : R}
    (h : get rows k = some r) {f : R → R} (hf : ∀ r, key (f r) = key r) (w : R → ℤ) :
    total w (modify rows k f) = total w (erase rows k) + w (f r) := by
  have hget : get (modify rows k f) k = some (f r) := by rw [get_modify_self hf, h]; rfl
  rw [total_eq_erase_add (hu.modify hf k) hget, erase_modify hf]

/-! ## Columns that stay -/

theorem map_modify_of_eq {S : Type*} {g : R → S} {f : R → R} (h : ∀ r, g (f r) = g r)
    (rows : List R) (k : ℕ) : (modify rows k f).map g = rows.map g := by
  simp only [modify, List.map_map, List.map_inj_left, Function.comp_apply]
  intro r _
  split_ifs
  · exact h r
  · rfl

/-- Where `g` keeps the keys, tables that agree under `g` agree row by row. -/
theorem get_map_eq {g : R → R} (hg : ∀ r, key (g r) = key r) {rows rows' : List R}
    (h : rows'.map g = rows.map g) (k : ℕ) : (get rows' k).map g = (get rows k).map g := by
  induction rows generalizing rows' with
  | nil =>
    simp only [List.map_nil, List.map_eq_nil_iff] at h
    subst h
    rfl
  | cons a rows ih =>
    cases rows' with
    | nil => simp at h
    | cons a' rows' =>
      simp only [List.map_cons, List.cons.injEq] at h
      have hkey : key a' = key a := by rw [← hg a', h.1, hg a]
      rw [get_cons, get_cons, hkey]
      split_ifs
      · simp [h.1]
      · exact ih h.2

/-- In a table of unique keys only the row of the key is changed. -/
theorem map_modify {S : Type*} [Keyed S] {rows : List R} (hu : Unique rows) {k : ℕ} {r : R}
    (h : get rows k = some r) {g : R → S} (hg : ∀ r, key (g r) = key r) (f : R → R) :
    (modify rows k f).map g = modify (rows.map g) k fun _ => g (f r) := by
  simp only [modify, List.map_map, List.map_inj_left, Function.comp_apply]
  intro a ha
  rw [hg]
  by_cases hk : key a = k
  · obtain ⟨hr, hkey⟩ := get_some h
    rw [if_pos hk, if_pos hk, eq_of_key_eq hu ha hr (hk.trans hkey.symm)]
  · rw [if_neg hk, if_neg hk]

/-- A row replaced by itself. -/
theorem modify_const {rows : List R} (hu : Unique rows) {k : ℕ} {r : R} (h : get rows k = some r) :
    modify rows k (fun _ => r) = rows := by
  unfold modify
  conv_rhs => rw [← List.map_id rows]
  refine List.map_congr_left fun a ha => ?_
  by_cases hk : key a = k
  · obtain ⟨hr, hkey⟩ := get_some h
    rw [if_pos hk, eq_of_key_eq hu ha hr (hk.trans hkey.symm)]
    rfl
  · rw [if_neg hk]
    rfl

theorem get_map {S : Type*} [Keyed S] {g : R → S} (hg : ∀ r, key (g r) = key r) (rows : List R)
    (k : ℕ) : get (rows.map g) k = (get rows k).map g := by
  induction rows with
  | nil => rfl
  | cons a rows ih =>
    rw [List.map_cons, get_cons, get_cons, hg]
    split_ifs
    · rfl
    · exact ih

theorem Unique.map {S : Type*} [Keyed S] {rows : List R} (hu : Unique rows) {g : R → S}
    (hg : ∀ r, key (g r) = key r) : Unique (rows.map g) := by
  have hkeys : (rows.map g).map key = rows.map key := by
    rw [List.map_map]
    exact List.map_congr_left fun r _ => hg r
  unfold Unique
  rw [hkeys]
  exact hu

/-! ## One row replaced -/

/-- `rows'` is `rows` with the row of key `k` replaced by `r`. -/
def Replaces (rows : List R) (k : ℕ) (r : R) (rows' : List R) : Prop :=
  get rows' k = some r ∧ erase rows' k = erase rows k ∧ rows'.map key = rows.map key

theorem replaces_modify {rows : List R} {k : ℕ} {a : R} (h : get rows k = some a) {f : R → R}
    (hf : ∀ r, key (f r) = key r) : Replaces rows k (f a) (modify rows k f) :=
  ⟨by rw [get_modify_self hf, h]; rfl, erase_modify hf rows k, map_key_modify hf rows k⟩

theorem Replaces.refl {rows : List R} {k : ℕ} {r : R} (h : get rows k = some r) :
    Replaces rows k r rows := ⟨h, rfl, rfl⟩

theorem Replaces.trans {rows rows' rows'' : List R} {k : ℕ} {r r' : R}
    (h : Replaces rows k r rows') (h' : Replaces rows' k r' rows'') : Replaces rows k r' rows'' :=
  ⟨h'.1, h'.2.1.trans h.2.1, h'.2.2.trans h.2.2⟩

theorem Replaces.unique {rows rows' : List R} {k : ℕ} {r : R} (h : Replaces rows k r rows')
    (hu : Unique rows) : Unique rows' := by
  unfold Unique
  rw [h.2.2]
  exact hu

theorem Replaces.total {rows rows' : List R} {k : ℕ} {r : R} (h : Replaces rows k r rows')
    (hu : Unique rows) (w : R → ℤ) : total w rows' = total w (erase rows k) + w r := by
  rw [total_eq_erase_add (h.unique hu) h.1, h.2.1]

theorem Replaces.get_of_ne {rows rows' : List R} {k k' : ℕ} {r : R} (h : Replaces rows k r rows')
    (hne : k' ≠ k) : get rows' k' = get rows k' := by
  rw [← get_erase_of_ne hne, h.2.1, get_erase_of_ne hne]

theorem mem_erase {rows : List R} {k : ℕ} {r : R} : r ∈ erase rows k ↔ r ∈ rows ∧ key r ≠ k := by
  simp [erase]

theorem Replaces.mem {rows rows' : List R} {k : ℕ} {r a : R} (h : Replaces rows k r rows')
    (hu : Unique rows) (ha : a ∈ rows') : a = r ∨ (a ∈ rows ∧ key a ≠ k) := by
  by_cases hk : key a = k
  · left
    have hr := get_some h.1
    exact eq_of_key_eq (h.unique hu) ha hr.1 (hk.trans hr.2.symm)
  · right
    have hmem : a ∈ erase rows' k := mem_erase.mpr ⟨ha, hk⟩
    rw [h.2.1] at hmem
    exact ⟨(mem_erase.mp hmem).1, hk⟩

end Table
