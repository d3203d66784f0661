import UshBookNPay.Core.DocumentNumbers
import UshBookNPay.Lib.Lists
import UshBookNPay.Lib.Numerals

/-!
# Fresh document numbers

A generator that goes by the greatest number of a month repeats itself where the strings are no longer
ordered as their sequences are. One that counts repeats itself only after a deletion.
-/

namespace DocumentNumbers

open Runs Numerals

variable {doc : Document} {m m' : Month} {stored : List String} {number : String}

/-! ## Numbers -/

theorem toList_pad (width n : ℕ) : (pad width n).toList = padded width n := String.toList_ofList

theorem toList_numbered (doc : Document) (m : Month) (n : ℕ) :
    (numbered doc m n).toList = (datePrefix doc m).toList ++ padded 6 n := by
  unfold numbered
  rw [String.toList_append, toList_pad]

theorem startsWith_iff {pre s : String} :
    Text.startsWith pre s = true ↔ pre.toList <+: s.toList := List.isPrefixOf_iff_prefix

theorem startsWith_numbered (doc : Document) (m : Month) (n : ℕ) :
    Text.startsWith (datePrefix doc m) (numbered doc m n) = true := by
  rw [startsWith_iff, toList_numbered]
  exact List.prefix_append _ _

theorem numbered_inj {n n' : ℕ} : numbered doc m n = numbered doc m n' ↔ n = n' := by
  constructor
  · intro h
    have hlists := congrArg String.toList h
    rw [toList_numbered, toList_numbered] at hlists
    exact padded_injective 6 (List.append_cancel_left hlists)
  · rintro rfl
    rfl

theorem numbered_lt_iff {n n' : ℕ} :
    numbered doc m n < numbered doc m n' ↔ padded 6 n < padded 6 n' := by
  rw [String.lt_iff, toList_numbered, toList_numbered, Lists.append_lt_append_iff]

/-! ## Reading a number -/

/-- The prefix of a month begins with a letter and ends with a slash. -/
theorem datePrefix_ends (doc : Document) (m : Month) :
    ∃ c cs, (datePrefix doc m).toList = c :: cs ++ ['/'] ∧ Text.isSpace c = false := by
  have hcode : ∃ c cs, doc.code.toList = c :: cs ∧ Text.isSpace c = false := by
    cases doc with
    | booking => exact ⟨'B', ['O', 'K', '/'], rfl, by decide⟩
    | payment => exact ⟨'P', ['M', 'T', '/'], rfl, by decide⟩
    | refund => exact ⟨'R', ['E', 'F', '/'], rfl, by decide⟩
    | giftVoucher => exact ⟨'V', ['O', 'U', '/'], rfl, by decide⟩
    | shopOrder => exact ⟨'O', ['R', 'D', '/'], rfl, by decide⟩
  obtain ⟨c, cs, hcode, hc⟩ := hcode
  refine ⟨c, cs ++ m.text.toList, ?_, hc⟩
  unfold datePrefix
  rw [String.toList_append, String.toList_append, hcode]
  rfl

theorem not_space_of_digit {c : Char} (h : c.isDigit = true) : Text.isSpace c = false := by
  have hc := digit_bounds h
  unfold Text.isSpace
  simp only [decide_eq_false_iff_not]
  omega

theorem ne_slash_of_digit {c : Char} (h : c.isDigit = true) : c ≠ '/' := by
  rintro rfl
  exact absurd h (by decide)

/-- A text that begins and ends with other characters than blanks is not shortened. -/
theorem strip_eq_self {s : String} {c : Char} {cs : List Char} (d : Char) (ds : List Char)
    (hfirst : s.toList = c :: cs) (hc : Text.isSpace c = false) (hlast : s.toList = ds ++ [d])
    (hd : Text.isSpace d = false) : Text.strip s = s := by
  have hfront : s.toList.dropWhile Text.isSpace = s.toList := by
    rw [hfirst, List.dropWhile_cons_of_neg (by simp [hc])]
  have hback : s.toList.reverse.dropWhile Text.isSpace = s.toList.reverse := by
    rw [hlast, List.reverse_append, List.reverse_singleton, List.singleton_append,
      List.dropWhile_cons_of_neg (by simp [hd])]
  unfold Text.strip
  rw [hfront, hback, List.reverse_reverse, String.ofList_toList]

theorem extractSequence_numbered (doc : Document) (m : Month) (n : ℕ) :
    extractSequence (some (numbered doc m n)) = n := by
  obtain ⟨c, cs, hstart, hc⟩ := datePrefix_ends doc m
  have hdigits := digits_padded 6 n
  have hlist : (numbered doc m n).toList = c :: (cs ++ '/' :: padded 6 n) := by
    rw [toList_numbered, hstart]
    simp
  obtain ⟨ds, d, hlast⟩ : ∃ ds d, padded 6 n = ds ++ [d] :=
    ⟨_, _, (List.dropLast_append_getLast (padded_ne_nil 6 n)).symm⟩
  have hd : d.isDigit = true := hdigits d (by rw [hlast]; simp)
  have hstrip : Text.strip (numbered doc m n) = numbered doc m n := by
    refine strip_eq_self d (c :: (cs ++ '/' :: ds)) hlist hc ?_ (not_space_of_digit hd)
    rw [hlist, hlast]
    simp
  have hpart : ((numbered doc m n).toList.reverse.takeWhile (· ≠ '/')).reverse = padded 6 n := by
    have hrev : (numbered doc m n).toList.reverse =
        (padded 6 n).reverse ++ '/' :: (c :: cs).reverse := by
      rw [hlist]
      simp
    rw [hrev, List.takeWhile_append_of_pos, List.takeWhile_cons_of_neg (by simp), List.append_nil,
      List.reverse_reverse]
    intro x hx
    simpa using ne_slash_of_digit (hdigits x (List.mem_reverse.mp hx))
  have hall : (padded 6 n).all Char.isDigit = true := List.all_eq_true.mpr hdigits
  have hvalue : (padded 6 n).foldl (fun n c => n * 10 + (c.toNat - '0'.toNat)) 0 =
      value (padded 6 n) := by
    unfold value Nat.ofDigitChars
    congr 1
    funext n c
    rw [Nat.mul_comm]
  unfold extractSequence
  dsimp only
  rw [hstrip, hpart, if_pos ⟨padded_ne_nil 6 n, hall⟩, hvalue, value_padded]

/-! ## The greatest number of a month -/

theorem mem_filter_month :
    number ∈ stored.filter (Text.startsWith (datePrefix doc m)) ↔
      number ∈ stored ∧ Text.startsWith (datePrefix doc m) number = true := List.mem_filter

theorem Greatest.unique {number' : String} (h : Greatest doc m stored number)
    (h' : Greatest doc m stored number') : number = number' :=
  le_antisymm (h'.greatest number h.mem h.ofMonth) (h.greatest number' h'.mem h'.ofMonth)

/-- `max` finds the greatest number of a month, if the month has one. -/
theorem maxText_greatest
    (hne : stored.filter (Text.startsWith (datePrefix doc m)) ≠ []) :
    ∃ number, Greatest doc m stored number ∧
      maxText (stored.filter (Text.startsWith (datePrefix doc m))) = some number := by
  have hfold : ∃ number ∈ stored.filter (Text.startsWith (datePrefix doc m)),
      maxText (stored.filter (Text.startsWith (datePrefix doc m))) = some number ∧
        ∀ other ∈ stored.filter (Text.startsWith (datePrefix doc m)), other ≤ number := by
    refine Lists.exists_greatest ?_ ?_ hne
    · intro v
      rfl
    · intro n v
      rfl
  obtain ⟨number, hmem, hmax, hle⟩ := hfold
  obtain ⟨hstored, hmonth⟩ := mem_filter_month.mp hmem
  refine ⟨number, ⟨hstored, hmonth, fun other ho hm => ?_⟩, hmax⟩
  exact hle other (mem_filter_month.mpr ⟨ho, hm⟩)

theorem nextNumber_greatest (h : Greatest doc m stored number) :
    nextNumber (datePrefix doc m) stored = numbered doc m (extractSequence (some number) + 1) := by
  have hne : stored.filter (Text.startsWith (datePrefix doc m)) ≠ [] :=
    List.ne_nil_of_mem (mem_filter_month.mpr ⟨h.mem, h.ofMonth⟩)
  obtain ⟨number', h', hmax⟩ := maxText_greatest hne
  unfold nextNumber
  rw [hmax, h'.unique h]
  rfl

/-- After a number that does not roll over comes a greater one. -/
theorem numbered_lt_succ {n : ℕ} (h : ¬RollsOver doc m (numbered doc m n)) :
    numbered doc m n < numbered doc m (n + 1) := by
  rw [numbered_lt_iff]
  rcases length_padded_succ 6 n with hlen | ⟨digits, hwide, hpow⟩
  · exact (padded_lt_iff hlen.symm).mpr n.lt_succ_self
  · refine absurd ⟨digits, hwide, ?_⟩ h
    rw [← hpow, Nat.add_sub_cancel]

/-- When a generator that goes by the greatest number issues one that is stored. -/
theorem nextNumber_mem_iff :
    nextNumber (datePrefix doc m) stored ∈ stored ↔
      ∃ number, Greatest doc m stored number ∧ (RollsOver doc m number ∨ Foreign doc m number) ∧
        numbered doc m (extractSequence (some number) + 1) ∈ stored := by
  constructor
  · intro hstored
    have hmonth : Text.startsWith (datePrefix doc m) (nextNumber (datePrefix doc m) stored) = true :=
      startsWith_numbered doc m _
    have hne : stored.filter (Text.startsWith (datePrefix doc m)) ≠ [] :=
      List.ne_nil_of_mem (mem_filter_month.mpr ⟨hstored, hmonth⟩)
    obtain ⟨number, hgreatest, -⟩ := maxText_greatest hne
    rw [nextNumber_greatest hgreatest] at hstored hmonth
    refine ⟨number, hgreatest, ?_, hstored⟩
    by_contra hno
    rw [not_or] at hno
    -- a number of the issued form that does not roll over is followed by a greater one
    have hissued : ∃ n, number = numbered doc m n := by
      by_contra hnone
      exact hno.2 fun n heq => hnone ⟨n, heq⟩
    obtain ⟨n, rfl⟩ := hissued
    rw [extractSequence_numbered] at hstored hmonth
    have hle := hgreatest.greatest _ hstored hmonth
    exact absurd (numbered_lt_succ hno.1) (not_lt.mpr hle)
  · rintro ⟨number, hgreatest, -, hstored⟩
    rwa [nextNumber_greatest hgreatest]

/-! ## Months apart -/

theorem slash_not_mem_pad (width n : ℕ) : '/' ∉ (pad width n).toList := by
  rw [toList_pad]
  intro h
  exact ne_slash_of_digit (digits_padded width n _ h) rfl

/-- What stands in front of the first slash. -/
theorem segment_unique {a b r s : List Char} (ha : '/' ∉ a) (hb : '/' ∉ b)
    (h : a ++ '/' :: r <+: b ++ '/' :: s) : a = b ∧ r <+: s := by
  induction a generalizing b with
  | nil =>
    cases b with
    | nil => exact ⟨rfl, (List.cons_prefix_cons.mp h).2⟩
    | cons d b =>
      rw [List.nil_append, List.cons_append, List.cons_prefix_cons] at h
      exact absurd (h.1 ▸ List.mem_cons_self) hb
  | cons c a ih =>
    cases b with
    | nil =>
      rw [List.nil_append, List.cons_append, List.cons_prefix_cons] at h
      exact absurd (h.1 ▸ List.mem_cons_self) ha
    | cons d b =>
      rw [List.cons_append, List.cons_append, List.cons_prefix_cons] at h
      obtain ⟨rfl, h⟩ := h
      obtain ⟨rfl, hr⟩ := ih (fun hmem => ha (List.mem_cons_of_mem _ hmem))
        (fun hmem => hb (List.mem_cons_of_mem _ hmem)) h
      exact ⟨rfl, hr⟩

theorem toList_datePrefix (doc : Document) (m : Month) :
    (datePrefix doc m).toList =
      doc.code.toList ++ ((pad 4 m.year).toList ++ '/' :: ((pad 2 m.month).toList ++ ['/'])) := by
  have hslash : ("/" : String).toList = ['/'] := rfl
  unfold datePrefix Month.text
  simp only [String.toList_append, hslash, List.append_assoc, List.cons_append, List.nil_append]

/-- The numbers of one month are not counted in another one. -/
theorem month_of_startsWith {n : ℕ}
    (h : Text.startsWith (datePrefix doc m) (numbered doc m' n) = true) : m = m' := by
  rw [startsWith_iff, toList_numbered, toList_datePrefix, toList_datePrefix, List.append_assoc,
    List.prefix_append_right_inj] at h
  rw [List.append_assoc, List.cons_append, List.append_assoc] at h
  obtain ⟨hyear, h⟩ := segment_unique (slash_not_mem_pad 4 _) (slash_not_mem_pad 4 _) h
  obtain ⟨hmonth, -⟩ := segment_unique (slash_not_mem_pad 2 _) (slash_not_mem_pad 2 _) h
  rw [toList_pad, toList_pad] at hyear hmonth
  have hy : m.year = m'.year := padded_injective 4 hyear
  have hm : m.month = m'.month := padded_injective 2 hmonth
  cases m
  cases m'
  cases hy
  cases hm
  rfl

/-! ## Counting -/

def countOf (m : Month) (stored : List String) : ℕ :=
  (stored.filter (Text.startsWith (datePrefix .shopOrder m))).length

/-- The stored orders of each month are numbered from one to their count. -/
def Counted (stored : List String) : Prop :=
  ∀ m n, numbered .shopOrder m n ∈ stored ↔ 1 ≤ n ∧ n ≤ countOf m stored

theorem Counted.fresh (h : Counted stored) (m : Month) : issue .shopOrder m stored ∉ stored := by
  show numbered .shopOrder m (countOf m stored + 1) ∉ stored
  rw [h m]
  omega

theorem Counted.step (h : Counted stored) (o : Step .shopOrder) :
    Counted (DocumentNumbers.step stored o) := by
  cases o with
  | create m₀ =>
    show Counted (insert (issue .shopOrder m₀ stored) stored)
    unfold insert
    rw [if_neg (h.fresh m₀)]
    have hissue : issue .shopOrder m₀ stored = numbered .shopOrder m₀ (countOf m₀ stored + 1) := rfl
    rw [hissue]
    intro m n
    rw [List.mem_cons, h m n]
    by_cases hm : m = m₀
    · subst hm
      have hcount : countOf m (numbered .shopOrder m (countOf m stored + 1) :: stored) =
          countOf m stored + 1 := by
        unfold countOf
        rw [List.filter_cons_of_pos (startsWith_numbered .shopOrder m _), List.length_cons]
      rw [hcount, numbered_inj]
      omega
    · have hcount : countOf m (numbered .shopOrder m₀ (countOf m₀ stored + 1) :: stored) =
          countOf m stored := by
        unfold countOf
        rw [List.filter_cons_of_neg fun hstarts => hm (month_of_startsWith hstarts)]
      have hother : numbered .shopOrder m n ≠ numbered .shopOrder m₀ (countOf m₀ stored + 1) := by
        intro heq
        have hstarts := startsWith_numbered .shopOrder m n
        rw [heq] at hstarts
        exact hm (month_of_startsWith hstarts)
      rw [hcount]
      exact ⟨fun hmem => hmem.resolve_left hother, .inr⟩

/-! ## Runs -/

theorem issue_of_greatest (h : doc ≠ .shopOrder) (m : Month) (stored : List String) :
    issue doc m stored = nextNumber (datePrefix doc m) stored := by
  cases doc with
  | shopOrder => exact absurd rfl h
  | booking | payment | refund | giftVoucher => rfl

/-- One creation: it is given a fresh number exactly if there is room for it. -/
theorem issuesFresh_iff (hcounted : doc = .shopOrder → Counted stored) (o : Step doc) :
    IssuesFresh stored o ↔ HasRoom stored o := by
  cases o with
  | create m =>
    show issue doc m stored ∉ stored ↔ (doc ≠ .shopOrder → _)
    by_cases hdoc : doc = .shopOrder
    · subst hdoc
      exact ⟨fun _ hne => absurd rfl hne, fun _ => (hcounted rfl).fresh m⟩
    · rw [issue_of_greatest hdoc, nextNumber_mem_iff]
      constructor
      · intro hnone _ number hgreatest hkind hstored
        exact hnone ⟨number, hgreatest, hkind, hstored⟩
      · rintro hroom ⟨number, hgreatest, hkind, hstored⟩
        exact hroom hdoc number hgreatest hkind hstored
  | supply | deletePayment | deleteVoucher => exact Iff.rfl

/-- The first `n` numbers of a month. -/
def firstNumbers (doc : Document) (m : Month) : ℕ → List String
  | 0 => []
  | n + 1 => numbered doc m (n + 1) :: firstNumbers doc m n

theorem mem_firstNumbers {n : ℕ} :
    number ∈ firstNumbers doc m n ↔ ∃ k, 1 ≤ k ∧ k ≤ n ∧ number = numbered doc m k := by
  induction n with
  | zero =>
    simp only [firstNumbers, List.not_mem_nil, false_iff]
    rintro ⟨k, h1, h2, -⟩
    omega
  | succ n ih =>
    rw [firstNumbers, List.mem_cons, ih]
    constructor
    · rintro (rfl | ⟨k, h1, h2, rfl⟩)
      · exact ⟨n + 1, by omega, le_rfl, rfl⟩
      · exact ⟨k, h1, by omega, rfl⟩
    · rintro ⟨k, h1, h2, rfl⟩
      by_cases hk : k = n + 1
      · exact .inl (by rw [hk])
      · exact .inr ⟨k, h1, by omega, rfl⟩

theorem not_mem_firstNumbers (n : ℕ) : numbered doc m (n + 1) ∉ firstNumbers doc m n := by
  rw [mem_firstNumbers]
  rintro ⟨k, -, hk, heq⟩
  have hn := numbered_inj.mp heq
  omega

/-- Of the numbers with six digits the last one is the greatest. -/
theorem numbered_le {k n : ℕ} (hkn : k ≤ n) (hn : n < 10 ^ 6) :
    numbered doc m k ≤ numbered doc m n := by
  have hsix : (0 : ℕ) < 6 := by decide
  have hlen : (padded 6 n).length = (padded 6 k).length := by
    rw [length_padded_of_lt hsix hn, length_padded_of_lt hsix (hkn.trans_lt hn)]
  rw [← not_lt, numbered_lt_iff, padded_lt_iff hlen]
  omega

theorem greatest_firstNumbers {n : ℕ} (hn : n + 1 < 10 ^ 6) :
    Greatest doc m (firstNumbers doc m (n + 1)) (numbered doc m (n + 1)) where
  mem := List.mem_cons_self
  ofMonth := startsWith_numbered doc m (n + 1)
  greatest other hother _ := by
    obtain ⟨k, -, hk, rfl⟩ := mem_firstNumbers.mp hother
    exact numbered_le hk hn

theorem nextNumber_firstNumbers {n : ℕ} (hn : n < 10 ^ 6) :
    nextNumber (datePrefix doc m) (firstNumbers doc m n) = numbered doc m (n + 1) := by
  cases n with
  | zero => rfl
  | succ n => rw [nextNumber_greatest (greatest_firstNumbers hn), extractSequence_numbered]

theorem run_creations (hdoc : doc ≠ .shopOrder) {n : ℕ} (hn : n ≤ 10 ^ 6) :
    run step [] (List.replicate n (Step.create m : Step doc)) = firstNumbers doc m n := by
  induction n with
  | zero => rfl
  | succ n ih =>
    rw [List.replicate_succ', run_append, ih (by omega), run_cons, run_nil]
    show insert (issue doc m (firstNumbers doc m n)) (firstNumbers doc m n) = _
    rw [issue_of_greatest hdoc, nextNumber_firstNumbers (by omega), insert,
      if_neg (not_mem_firstNumbers n)]
    rfl

end DocumentNumbers
