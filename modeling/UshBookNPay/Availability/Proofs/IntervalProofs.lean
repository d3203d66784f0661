import UshBookNPay.Availability.IntervalEngine

/-!
# Merging, subtracting and clipping intervals

Each operation on merged lists as the operation on the sets of points they cover.
-/

namespace Availability

open Intervals

variable {α : Type} [LinearOrder α]

/-! ## Merging -/

/-- What the sweep keeps: the intervals it gives do not touch, and it adds and loses no point. -/
theorem mergeLoop_spec (last : Interval α) (rest : List (Interval α))
    (hsorted : (last :: rest).Pairwise fun a b => a.start ≤ b.start) :
    ((mergeLoop last rest).Pairwise fun a b => a.stop < b.start) ∧
      (∀ iv ∈ mergeLoop last rest, last.start ≤ iv.start) ∧
      covered (mergeLoop last rest) = covered (last :: rest) := by
  induction rest generalizing last with
  | nil => exact ⟨List.pairwise_singleton _ _, by simp [mergeLoop], rfl⟩
  | cons current rest ih =>
    obtain ⟨hlast, hrest⟩ := List.pairwise_cons.mp hsorted
    have hle : last.start ≤ current.start := hlast current List.mem_cons_self
    unfold mergeLoop
    split_ifs with htouch
    · have hsorted' : ((⟨last.start, max last.stop current.stop⟩ : Interval α) :: rest).Pairwise
          fun a b => a.start ≤ b.start := by
        refine List.pairwise_cons.mpr ⟨fun iv hiv => ?_, List.Pairwise.of_cons hrest⟩
        exact hlast iv (List.mem_cons_of_mem _ hiv)
      obtain ⟨h1, h2, h3⟩ := ih _ hsorted'
      refine ⟨h1, h2, ?_⟩
      -- the two intervals touch, so together they are one
      have hpoints : points ⟨last.start, max last.stop current.stop⟩ =
          points last ∪ points current := by
        ext x
        simp only [mem_points, Set.mem_union, lt_max_iff]
        constructor
        · rintro ⟨hx, hstop | hstop⟩
          · exact .inl ⟨hx, hstop⟩
          · by_cases hxl : x < last.stop
            · exact .inl ⟨hx, hxl⟩
            · exact .inr ⟨htouch.trans (not_lt.mp hxl), hstop⟩
        · rintro (⟨hx, hstop⟩ | ⟨hx, hstop⟩)
          · exact ⟨hx, .inl hstop⟩
          · exact ⟨hle.trans hx, .inr hstop⟩
      rw [h3, covered_cons, covered_cons, covered_cons, hpoints, Set.union_assoc]
    · rw [not_le] at htouch
      obtain ⟨h1, h2, h3⟩ := ih current hrest
      refine ⟨List.pairwise_cons.mpr ⟨fun iv hiv => htouch.trans_le (h2 iv hiv), h1⟩, ?_, ?_⟩
      · intro iv hiv
        rcases List.mem_cons.mp hiv with rfl | hiv
        · exact le_refl _
        · exact hle.trans (h2 iv hiv)
      · rw [covered_cons, h3, covered_cons last]

theorem mergeIntervals_spec (intervals : List (Interval α)) :
    ((mergeIntervals intervals).Pairwise fun a b => a.stop < b.start) ∧
      covered (mergeIntervals intervals) = covered intervals := by
  have hperm := List.perm_insertionSort (fun a b : Interval α => a.start ≤ b.start) intervals
  have htotal : Std.Total fun a b : Interval α => a.start ≤ b.start :=
    ⟨fun a b => le_total a.start b.start⟩
  have htrans : IsTrans (Interval α) fun a b => a.start ≤ b.start := ⟨fun _ _ _ => le_trans⟩
  have hsorted := List.pairwise_insertionSort (fun a b : Interval α => a.start ≤ b.start) intervals
  unfold mergeIntervals
  rw [← covered_perm hperm]
  cases hsort : intervals.insertionSort fun a b => a.start ≤ b.start with
  | nil => exact ⟨List.Pairwise.nil, rfl⟩
  | cons first rest =>
    rw [hsort] at hsorted
    obtain ⟨h1, -, h3⟩ := mergeLoop_spec first rest hsorted
    exact ⟨h1, h3⟩

/-- How an interval's start stands to its stop is kept, if a later stop keeps it. -/
theorem mergeLoop_valid {r : α → α → Prop} (hr : ∀ {a b c : α}, r a b → b ≤ c → r a c)
    (last : Interval α) (rest : List (Interval α)) (h : ∀ iv ∈ last :: rest, r iv.start iv.stop) :
    ∀ iv ∈ mergeLoop last rest, r iv.start iv.stop := by
  induction rest generalizing last with
  | nil => exact h
  | cons current rest ih =>
    have hlast := h last List.mem_cons_self
    unfold mergeLoop
    split_ifs
    · refine ih _ fun iv hiv => ?_
      rcases List.mem_cons.mp hiv with rfl | hiv
      · exact hr hlast (le_max_left _ _)
      · exact h iv (List.mem_cons_of_mem _ (List.mem_cons_of_mem _ hiv))
    · intro iv hiv
      rcases List.mem_cons.mp hiv with rfl | hiv
      · exact hlast
      · exact ih current (fun iv hiv => h iv (List.mem_cons_of_mem _ hiv)) iv hiv

theorem mergeIntervals_valid {r : α → α → Prop} (hr : ∀ {a b c : α}, r a b → b ≤ c → r a c)
    {intervals : List (Interval α)} (h : ∀ iv ∈ intervals, r iv.start iv.stop) :
    ∀ iv ∈ mergeIntervals intervals, r iv.start iv.stop := by
  have hperm := List.perm_insertionSort (fun a b : Interval α => a.start ≤ b.start) intervals
  unfold mergeIntervals
  cases hsort : intervals.insertionSort fun a b => a.start ≤ b.start with
  | nil => simp
  | cons first rest =>
    rw [hsort] at hperm
    have hvalid : ∀ iv ∈ first :: rest, r iv.start iv.stop := fun iv hiv =>
      h iv (hperm.mem_iff.mp hiv)
    exact mergeLoop_valid (r := r) hr first rest hvalid

/-- A list of non-empty intervals is brought into merged form. -/
theorem mergeIntervals_separated {intervals : List (Interval α)}
    (h : ∀ iv ∈ intervals, iv.start < iv.stop) : Separated (mergeIntervals intervals) :=
  ⟨mergeIntervals_valid (r := (· < ·)) (fun hlt hle => hlt.trans_le hle) h, (mergeIntervals_spec intervals).1⟩

/-- Where nothing touches there is nothing to merge. -/
theorem mergeLoop_eq_self (last : Interval α) (rest : List (Interval α))
    (h : (last :: rest).Pairwise fun a b => a.stop < b.start) : mergeLoop last rest = last :: rest := by
  induction rest generalizing last with
  | nil => rfl
  | cons current rest ih =>
    obtain ⟨hlast, hrest⟩ := List.pairwise_cons.mp h
    have hgap : ¬current.start ≤ last.stop := not_le.mpr (hlast current List.mem_cons_self)
    rw [mergeLoop, if_neg hgap, ih current hrest]

theorem mergeIntervals_eq_self {intervals : List (Interval α)}
    (hvalid : ∀ iv ∈ intervals, iv.start ≤ iv.stop)
    (h : intervals.Pairwise fun a b => a.stop < b.start) : mergeIntervals intervals = intervals := by
  have hsorted : intervals.Pairwise fun a b => a.start ≤ b.start :=
    h.imp_of_mem fun ha _ hab => (hvalid _ ha).trans hab.le
  unfold mergeIntervals
  rw [hsorted.insertionSort_eq]
  cases intervals with
  | nil => rfl
  | cons first rest => exact mergeLoop_eq_self first rest h

/-! An interval without points stays in the list, so the points of a list do not say what it merges to;
those of the intervals with their end do. -/

theorem map_closed_mergeLoop (last : Interval α) (rest : List (Interval α)) :
    (mergeLoop last rest).map closed = mergeLoop (closed last) (rest.map closed) := by
  induction rest generalizing last with
  | nil => rfl
  | cons current rest ih =>
    rw [List.map_cons, mergeLoop, mergeLoop]
    by_cases htouch : current.start ≤ last.stop
    · rw [if_pos htouch, if_pos ((closed_start_le_stop current last).mpr htouch), ih, closed_extend]
    · rw [if_neg htouch, if_neg (mt (closed_start_le_stop current last).mp htouch), List.map_cons, ih]

theorem map_closed_mergeIntervals (intervals : List (Interval α)) :
    (mergeIntervals intervals).map closed = mergeIntervals (intervals.map closed) := by
  have hsort := List.map_insertionSort (r := fun a b : Interval α => a.start ≤ b.start)
    (s := fun a b : Interval (α ×ₗ Bool) => a.start ≤ b.start) closed intervals
    fun a _ b _ => (closed_start_le a b).symm
  unfold mergeIntervals
  rw [← hsort]
  cases intervals.insertionSort fun a b => a.start ≤ b.start with
  | nil => rfl
  | cons first rest => exact map_closed_mergeLoop first rest

/-- The order in which the intervals come does not matter. -/
theorem mergeIntervals_perm {intervals intervals' : List (Interval α)}
    (hvalid : ∀ iv ∈ intervals, iv.start ≤ iv.stop) (hperm : intervals.Perm intervals') :
    mergeIntervals intervals' = mergeIntervals intervals := by
  have hsep : ∀ {ivs : List (Interval α)}, (∀ iv ∈ ivs, iv.start ≤ iv.stop) →
      Separated (mergeIntervals (ivs.map closed)) := fun h =>
    mergeIntervals_separated (List.forall_mem_map.mpr fun iv hiv => closed_lt (h iv hiv))
  have hvalid' : ∀ iv ∈ intervals', iv.start ≤ iv.stop := fun iv hiv =>
    hvalid iv (hperm.mem_iff.mpr hiv)
  refine List.map_injective_iff.mpr closed_injective ?_
  rw [map_closed_mergeIntervals, map_closed_mergeIntervals]
  refine (hsep hvalid').ext (hsep hvalid) ?_
  rw [(mergeIntervals_spec _).2, (mergeIntervals_spec _).2]
  exact covered_perm (hperm.map closed).symm

/-- What a list of intervals merges to: sorted, without touching intervals, with the points of the list,
and the same however often it is merged and in whatever order the intervals come. -/
theorem mergeIntervals_normal {α : Type} [LinearOrder α] (intervals : List (Interval α))
    (hvalid : ∀ iv ∈ intervals, iv.start ≤ iv.stop) :
    (∀ iv ∈ mergeIntervals intervals, iv.start ≤ iv.stop) ∧
      ((mergeIntervals intervals).Pairwise fun a b => a.start < b.start) ∧
      ((mergeIntervals intervals).Pairwise fun a b => a.stop < b.start) ∧
      covered (mergeIntervals intervals) = covered intervals ∧
      mergeIntervals (mergeIntervals intervals) = mergeIntervals intervals ∧
      ∀ intervals' : List (Interval α), intervals.Perm intervals' →
        mergeIntervals intervals' = mergeIntervals intervals := by
  have hkept := mergeIntervals_valid (r := (· ≤ ·)) (fun h hle => h.trans hle) hvalid
  obtain ⟨hgaps, hcov⟩ := mergeIntervals_spec intervals
  have hstarts : (mergeIntervals intervals).Pairwise fun a b => a.start < b.start :=
    hgaps.imp_of_mem fun ha _ hab => (hkept _ ha).trans_lt hab
  exact ⟨hkept, hstarts, hgaps, hcov, mergeIntervals_eq_self hkept hgaps,
    fun _ hperm => mergeIntervals_perm hvalid hperm⟩

/-- Nested, equal, touching and empty intervals. -/
theorem mergeIntervals_normal_example :
    mergeIntervals (mergeIntervals [⟨5, 9⟩, ⟨6, 7⟩, ⟨11, 11⟩, ⟨9, 10⟩, ⟨5, 9⟩, ⟨1, (2 : ℕ)⟩]) =
      [⟨1, 2⟩, ⟨5, 10⟩, ⟨11, 11⟩] := by
  rw [(mergeIntervals_normal _ (by decide)).2.2.2.2.1]
  decide

/-! ## Clipping -/

theorem mem_intersectWithWindow {intervals : List (Interval α)} {window iv : Interval α} :
    iv ∈ intersectWithWindow intervals window ↔ ∃ a ∈ intervals,
      max a.start window.start < min a.stop window.stop ∧
        iv = ⟨max a.start window.start, min a.stop window.stop⟩ := by
  simp only [intersectWithWindow, List.mem_filterMap, Option.ite_none_right_eq_some,
    Option.some.injEq]
  exact ⟨fun ⟨a, ha, hlt, heq⟩ => ⟨a, ha, hlt, heq.symm⟩, fun ⟨a, ha, hlt, heq⟩ => ⟨a, ha, hlt, heq.symm⟩⟩

theorem covered_intersectWithWindow (intervals : List (Interval α)) (window : Interval α) :
    covered (intersectWithWindow intervals window) = covered intervals ∩ points window := by
  ext x
  constructor
  · rintro ⟨iv, hiv, hx⟩
    obtain ⟨a, ha, -, rfl⟩ := mem_intersectWithWindow.mp hiv
    simp only [mem_points, max_le_iff, lt_min_iff] at hx
    exact ⟨⟨a, ha, hx.1.1, hx.2.1⟩, hx.1.2, hx.2.2⟩
  · rintro ⟨⟨a, ha, hstart, hstop⟩, hwstart, hwstop⟩
    have hx : max a.start window.start ≤ x ∧ x < min a.stop window.stop :=
      ⟨max_le hstart hwstart, lt_min hstop hwstop⟩
    exact ⟨_, mem_intersectWithWindow.mpr ⟨a, ha, hx.1.trans_lt hx.2, rfl⟩, hx⟩

/-- What is clipped is not empty, and does not touch where the intervals did not. -/
theorem intersectWithWindow_separated {intervals : List (Interval α)} (window : Interval α)
    (h : intervals.Pairwise fun a b => a.stop < b.start) :
    Separated (intersectWithWindow intervals window) := by
  constructor
  · intro iv hiv
    obtain ⟨a, -, hlt, rfl⟩ := mem_intersectWithWindow.mp hiv
    exact hlt
  · refine List.pairwise_filterMap.mpr (h.imp fun {a b} hab x hx y hy => ?_)
    simp only [Option.ite_none_right_eq_some, Option.some.injEq] at hx hy
    obtain ⟨-, rfl⟩ := hx
    obtain ⟨-, rfl⟩ := hy
    exact (min_le_left _ _).trans_lt (hab.trans_le (le_max_left _ _))

/-! ## Subtraction -/

/-- The interval `[x, y)`, or none where that is empty. -/
theorem covered_gap (x y : α) :
    covered (if x < y then [(⟨x, y⟩ : Interval α)] else []) = Set.Ico x y := by
  split_ifs with h
  · simp [covered_cons, Intervals.points]
  · simp [h]

theorem mem_gap {x y : α} {gap : Interval α}
    (h : gap ∈ if x < y then [(⟨x, y⟩ : Interval α)] else []) : x < y ∧ gap = ⟨x, y⟩ := by
  split_ifs at h with hlt
  · exact ⟨hlt, List.mem_singleton.mp h⟩
  · cases h

theorem separated_gap (x y : α) : Separated (if x < y then [(⟨x, y⟩ : Interval α)] else []) := by
  refine ⟨fun gap h => ?_, ?_⟩
  · obtain ⟨hlt, rfl⟩ := mem_gap h
    exact hlt
  · split_ifs
    · exact List.pairwise_singleton _ _
    · exact List.Pairwise.nil

/-- What the inner loop does with the rest `[current, w.stop)` of a working interval. -/
structure CutSpec (w : Interval α) (current : α) (blocked : List (Interval α)) (cut : Cut α) :
    Prop where
  separated : Separated cut.gaps
  inside : ∀ gap ∈ cut.gaps, current ≤ gap.start ∧ gap.stop < cut.current ∧ gap.stop ≤ w.stop
  forward : current ≤ cut.current
  points : covered cut.gaps ∪ Set.Ico cut.current w.stop =
    Set.Ico current w.stop \ covered blocked
  merged : Merged cut.blocked
  /-- what the cursor has passed ends in the working interval -/
  passed : ∀ x, w.stop ≤ x → (x ∈ covered cut.blocked ↔ x ∈ covered blocked)

/-- The part before a blocked interval, and what the loop leaves of the part behind it. -/
theorem CutSpec.cons {w b : Interval α} {current : α} {bs : List (Interval α)} {cut : Cut α}
    (hm : Merged (b :: bs)) (hstart : b.start < w.stop) (hcurrent : current < b.stop)
    (hstop : b.stop ≤ w.stop) (h : CutSpec w b.stop bs cut) :
    CutSpec w current (b :: bs)
      ⟨(if current < b.start then [⟨current, b.start⟩] else []) ++ cut.gaps, cut.current,
        cut.blocked⟩ := by
  have hb := hm.nonempty b List.mem_cons_self
  refine
    { separated := ⟨?_, ?_⟩, inside := ?_, forward := hcurrent.le.trans h.forward, points := ?_,
      merged := h.merged, passed := ?_ }
  · intro gap hmem
    rcases List.mem_append.mp hmem with hmem | hmem
    · exact (separated_gap _ _).nonempty gap hmem
    · exact h.separated.nonempty gap hmem
  · refine List.pairwise_append.mpr
      ⟨(separated_gap _ _).ordered, h.separated.ordered, fun gap hmem gap' hmem' => ?_⟩
    obtain ⟨-, rfl⟩ := mem_gap hmem
    exact hb.trans_le (h.inside gap' hmem').1
  · intro gap hmem
    rcases List.mem_append.mp hmem with hmem | hmem
    · obtain ⟨-, rfl⟩ := mem_gap hmem
      exact ⟨le_refl _, hb.trans_le h.forward, hstart.le⟩
    · obtain ⟨h1, h2, h3⟩ := h.inside gap hmem
      exact ⟨hcurrent.le.trans h1, h2, h3⟩
  · rw [covered_append, Set.union_assoc, h.points, covered_gap, covered_cons]
    ext x
    simp only [Set.mem_union, Set.mem_Ico, Set.mem_sdiff, mem_points, not_or, not_and, not_lt]
    constructor
    · rintro (⟨hx, hxb⟩ | ⟨⟨hx, hxw⟩, hnot⟩)
      · refine ⟨⟨hx, hxb.trans hstart⟩, fun hbx => absurd hxb (not_lt.mpr hbx), fun hcov => ?_⟩
        exact absurd (hb.trans_le (hm.stop_le hcov)) (not_lt.mpr hxb.le)
      · exact ⟨⟨hcurrent.le.trans hx, hxw⟩, fun _ => hx, hnot⟩
    · rintro ⟨⟨hx, hxw⟩, hnb, hnot⟩
      by_cases hxb : x < b.start
      · exact .inl ⟨hx, hxb⟩
      · exact .inr ⟨⟨hnb (not_lt.mp hxb), hxw⟩, hnot⟩
  · intro x hx
    rw [h.passed x hx, covered_cons, Set.mem_union]
    exact ⟨.inr, fun hcov => hcov.resolve_left fun hp => absurd hp.2 (not_lt.mpr (hstop.trans hx))⟩

/-- The blocked interval reaches to the end of the working interval. -/
theorem CutSpec.last {w b : Interval α} {current : α} {bs : List (Interval α)}
    (hm : Merged (b :: bs)) (hstart : b.start < w.stop) (hcurrent : current < b.stop)
    (hstop : w.stop ≤ b.stop) :
    CutSpec w current (b :: bs)
      ⟨if current < b.start then [⟨current, b.start⟩] else [], b.stop, b :: bs⟩ := by
  refine
    { separated := separated_gap _ _, inside := fun gap hmem => ?_, forward := hcurrent.le,
      points := ?_, merged := hm, passed := fun _ _ => Iff.rfl }
  · obtain ⟨-, rfl⟩ := mem_gap hmem
    exact ⟨le_refl _, hm.nonempty b List.mem_cons_self, hstart.le⟩
  · rw [covered_gap, Set.Ico_eq_empty (not_lt.mpr hstop), Set.union_empty]
    ext x
    simp only [Set.mem_Ico, Set.mem_sdiff]
    constructor
    · rintro ⟨hx, hxb⟩
      exact ⟨⟨hx, hxb.trans hstart⟩, fun hc => absurd hxb (not_lt.mpr (hm.start_le hc))⟩
    · rintro ⟨⟨hx, hxw⟩, hnot⟩
      refine ⟨hx, ?_⟩
      by_contra hge
      exact hnot ⟨b, List.mem_cons_self, not_lt.mp hge, hxw.trans_le hstop⟩

theorem cutLoop_spec (w : Interval α) (blocked : List (Interval α)) (hm : Merged blocked)
    (current : α) (hcurrent : current < w.stop) :
    CutSpec w current blocked (cutLoop w current blocked) := by
  induction blocked generalizing current with
  | nil =>
    exact
      { separated := separated_nil
        inside := by simp [cutLoop]
        forward := le_refl _
        points := by simp [cutLoop]
        merged := hm
        passed := fun _ _ => Iff.rfl }
  | cons b bs ih =>
    unfold cutLoop
    by_cases hbehind : w.stop ≤ b.start
    · -- nothing blocked begins before the working interval ends
      rw [if_pos hbehind]
      refine
        { separated := separated_nil, inside := by simp, forward := le_refl _, points := ?_,
          merged := hm, passed := fun _ _ => Iff.rfl }
      ext x
      simp only [covered_nil, Set.empty_union, Set.mem_Ico, Set.mem_sdiff]
      refine ⟨fun hx => ⟨hx, fun hcov => ?_⟩, fun hx => hx.1⟩
      exact absurd hx.2 (not_lt.mpr (hbehind.trans (hm.start_le hcov)))
    rw [if_neg hbehind]
    by_cases hbefore : b.stop ≤ current
    · -- the blocked interval is over
      rw [if_pos hbefore]
      have h := ih hm.tail current hcurrent
      refine { h with points := ?_, passed := fun x hx => ?_ }
      · rw [h.points, covered_cons]
        ext x
        simp only [Set.mem_sdiff, Set.mem_Ico, Set.mem_union, not_or]
        refine ⟨fun ⟨hx, hnot⟩ => ⟨hx, fun hp => ?_, hnot⟩, fun ⟨hx, hnot⟩ => ⟨hx, hnot.2⟩⟩
        exact absurd hp.2 (not_lt.mpr (hbefore.trans hx.1))
      · rw [h.passed x hx, covered_cons, Set.mem_union]
        refine ⟨.inr, fun hcov => hcov.resolve_left fun hp => ?_⟩
        exact absurd hp.2 (not_lt.mpr (hbefore.trans (hcurrent.le.trans hx)))
    rw [if_neg hbefore]
    rw [not_le] at hbehind hbefore
    have hmin : min b.start w.stop = b.start := min_eq_left hbehind.le
    have hmax : max current b.stop = b.stop := max_eq_right hbefore.le
    dsimp only
    rw [hmin, hmax]
    by_cases hdone : w.stop ≤ b.stop
    · rw [if_pos hdone]
      exact CutSpec.last hm hbehind hbefore hdone
    · rw [if_neg hdone]
      rw [not_le] at hdone
      rw [if_neg (not_lt.mpr hdone.le)]
      exact CutSpec.cons hm hbehind hbefore hdone.le (ih hm.tail b.stop hdone)

/-- What separates the intervals of a list from one another: at least that they do not overlap. -/
structure Separates (r : α → α → Prop) : Prop where
  of_lt : ∀ {a b}, a < b → r a b
  le : ∀ {a b}, r a b → a ≤ b
  mono : ∀ {a b c d}, a ≤ b → r b c → c ≤ d → r a d

theorem separates_le : Separates (α := α) (· ≤ ·) where
  of_lt := le_of_lt
  le := id
  mono h h' h'' := h.trans (h'.trans h'')

theorem separates_lt : Separates (α := α) (· < ·) where
  of_lt := id
  le := le_of_lt
  mono h h' h'' := h.trans_lt (h'.trans_le h'')

/-- What is left of working intervals that are separated in some way: it lies in them, is separated in the
same way, and has the points of the difference. -/
theorem subtractLoop_spec {r : α → α → Prop} (hr : Separates r) (working blocked : List (Interval α))
    (hne : ∀ w ∈ working, w.start < w.stop) (hord : working.Pairwise fun a b => r a.stop b.start)
    (hm : Merged blocked) :
    (∀ iv ∈ subtractLoop working blocked, iv.start < iv.stop ∧
      ∃ w ∈ working, w.start ≤ iv.start ∧ iv.stop ≤ w.stop) ∧
    ((subtractLoop working blocked).Pairwise fun a b => r a.stop b.start) ∧
    covered (subtractLoop working blocked) = covered working \ covered blocked := by
  induction working generalizing blocked with
  | nil => exact ⟨by simp [subtractLoop], List.Pairwise.nil, by simp [subtractLoop]⟩
  | cons w working ih =>
    have hw := hne w List.mem_cons_self
    obtain ⟨hfirst, hrest⟩ := List.pairwise_cons.mp hord
    have hcut := cutLoop_spec w blocked hm w.start hw
    obtain ⟨hin, hpair, hcov⟩ := ih (cutLoop w w.start blocked).blocked
      (fun a ha => hne a (List.mem_cons_of_mem _ ha)) hrest hcut.merged
    unfold subtractLoop
    dsimp only
    generalize cutLoop w w.start blocked = cut at hcut hin hpair hcov ⊢
    -- the pieces of the first working interval
    have hpieces : ∀ iv ∈ cut.gaps ++ (if cut.current < w.stop then [⟨cut.current, w.stop⟩] else []),
        iv.start < iv.stop ∧ w.start ≤ iv.start ∧ iv.stop ≤ w.stop := by
      intro iv hiv
      rcases List.mem_append.mp hiv with hiv | hiv
      · obtain ⟨h1, -, h3⟩ := hcut.inside iv hiv
        exact ⟨hcut.separated.nonempty iv hiv, h1, h3⟩
      · obtain ⟨hlt, rfl⟩ := mem_gap hiv
        exact ⟨hlt, hcut.forward, le_refl _⟩
    refine ⟨fun iv hiv => ?_, ?_, ?_⟩
    · rcases List.mem_append.mp hiv with hiv | hiv
      · obtain ⟨h1, h2, h3⟩ := hpieces iv hiv
        exact ⟨h1, w, List.mem_cons_self, h2, h3⟩
      · obtain ⟨h1, a, ha, h2, h3⟩ := hin iv hiv
        exact ⟨h1, a, List.mem_cons_of_mem _ ha, h2, h3⟩
    · refine List.pairwise_append.mpr ⟨List.pairwise_append.mpr ⟨?_, ?_, ?_⟩, hpair, ?_⟩
      · exact hcut.separated.ordered.imp fun h => hr.of_lt h
      · exact (separated_gap _ _).ordered.imp fun h => hr.of_lt h
      · intro iv hiv iv' hiv'
        obtain ⟨-, rfl⟩ := mem_gap hiv'
        exact hr.of_lt (hcut.inside iv hiv).2.1
      · intro iv hiv iv' hiv'
        obtain ⟨-, a, ha, hstart, -⟩ := hin iv' hiv'
        exact hr.mono (hpieces iv hiv).2.2 (hfirst a ha) hstart
    · rw [covered_append, covered_append, covered_gap, hcut.points, hcov, covered_cons]
      ext x
      have hlater : x ∈ covered working → (x ∈ covered cut.blocked ↔ x ∈ covered blocked) := by
        rintro ⟨a, ha, hstart, -⟩
        exact hcut.passed x ((hr.le (hfirst a ha)).trans hstart)
      simp only [Set.mem_union, Set.mem_sdiff]
      constructor
      · rintro (⟨hx, hnot⟩ | ⟨hx, hnot⟩)
        · exact ⟨.inl hx, hnot⟩
        · exact ⟨.inr hx, fun h => hnot ((hlater hx).mpr h)⟩
      · rintro ⟨hx | hx, hnot⟩
        · exact .inl ⟨hx, hnot⟩
        · exact .inr ⟨hx, fun h => hnot ((hlater hx).mp h)⟩

theorem subtractIntervals_separates {r : α → α → Prop} (hr : Separates r)
    {working blocked : List (Interval α)} (hne : ∀ w ∈ working, w.start < w.stop)
    (hord : working.Pairwise fun a b => r a.stop b.start) (hm : Merged blocked) :
    (∀ iv ∈ subtractIntervals working blocked, iv.start < iv.stop) ∧
    ((subtractIntervals working blocked).Pairwise fun a b => r a.stop b.start) ∧
    covered (subtractIntervals working blocked) = covered working \ covered blocked := by
  unfold subtractIntervals
  split_ifs with hblocked
  · subst hblocked
    exact ⟨hne, hord, by simp⟩
  · obtain ⟨h1, h2, h3⟩ := subtractLoop_spec hr working blocked hne hord hm
    exact ⟨fun iv hiv => (h1 iv hiv).1, h2, h3⟩

/-- Where the working intervals do not touch, what is left of them does not either. -/
theorem subtractIntervals_separated {working blocked : List (Interval α)} (hw : Separated working)
    (hm : Merged blocked) : Separated (subtractIntervals working blocked) :=
  have h := subtractIntervals_separates separates_lt hw.nonempty hw.ordered hm
  ⟨h.1, h.2.1⟩

theorem covered_subtractIntervals {working blocked : List (Interval α)} (hw : Merged working)
    (hm : Merged blocked) :
    covered (subtractIntervals working blocked) = covered working \ covered blocked :=
  (subtractIntervals_separates separates_le hw.nonempty hw.ordered hm).2.2

/-- Subtraction gives a list in merged form that covers the difference. -/
theorem subtractIntervals_merged {α : Type} [LinearOrder α] (base blocked : List (Interval α))
    (hbase : Merged base) (hblocked : Merged blocked) :
    Merged (subtractIntervals base blocked) ∧
      covered (subtractIntervals base blocked) = covered base \ covered blocked := by
  obtain ⟨h1, h2, h3⟩ :=
    subtractIntervals_separates separates_le hbase.nonempty hbase.ordered hblocked
  exact ⟨⟨h1, h2⟩, h3⟩

/-- A blocked interval inside the first one, and one that reaches over the gap between the two. -/
theorem subtractIntervals_merged_example :
    Merged (subtractIntervals [⟨9, 12⟩, ⟨13, 18⟩] [⟨10, 11⟩, ⟨12, (14 : ℕ)⟩]) ∧
      covered (subtractIntervals [⟨9, 12⟩, ⟨13, 18⟩] [⟨10, 11⟩, ⟨12, (14 : ℕ)⟩]) =
        covered [⟨9, 12⟩, ⟨13, 18⟩] \ covered [⟨10, 11⟩, ⟨12, (14 : ℕ)⟩] :=
  subtractIntervals_merged _ _ ⟨by decide, by decide⟩ ⟨by decide, by decide⟩

/-! ## Intersection -/

/-- The overlap of two intervals. -/
theorem covered_overlap (x y : Interval α) :
    covered (if max x.start y.start < min x.stop y.stop then
      [(⟨max x.start y.start, min x.stop y.stop⟩ : Interval α)] else []) = points x ∩ points y := by
  rw [covered_gap]
  ext z
  simp only [Set.mem_Ico, Set.mem_inter_iff, mem_points, max_le_iff, lt_min_iff]
  constructor
  · rintro ⟨⟨hx, hy⟩, hx', hy'⟩
    exact ⟨⟨hx, hx'⟩, hy, hy'⟩
  · rintro ⟨⟨hx, hx'⟩, hy, hy'⟩
    exact ⟨⟨hx, hy⟩, hx', hy'⟩

/-- Each interval of the intersection lies in one of each list. -/
theorem mem_intersectIntervals {a b : List (Interval α)} {iv : Interval α}
    (h : iv ∈ intersectIntervals a b) :
    iv.start < iv.stop ∧ (∃ x ∈ a, x.start ≤ iv.start ∧ iv.stop ≤ x.stop) ∧
      ∃ y ∈ b, y.start ≤ iv.start ∧ iv.stop ≤ y.stop := by
  induction a, b using intersectIntervals.induct with
  | case1 b => simp [intersectIntervals] at h
  | case2 x a => simp [intersectIntervals] at h
  | case3 x a y b ihleft ihright =>
    rw [intersectIntervals] at h
    rcases List.mem_append.mp h with h | h
    · obtain ⟨hne, rfl⟩ := mem_gap h
      exact ⟨hne, ⟨x, List.mem_cons_self, le_max_left _ _, min_le_left _ _⟩,
        y, List.mem_cons_self, le_max_right _ _, min_le_right _ _⟩
    · by_cases hlt : x.stop < y.stop
      · rw [if_pos hlt] at h
        obtain ⟨hne, ⟨x', hx', hin⟩, hy⟩ := ihleft h
        exact ⟨hne, ⟨x', List.mem_cons_of_mem _ hx', hin⟩, hy⟩
      · rw [if_neg hlt] at h
        obtain ⟨hne, hx, y', hy', hin⟩ := ihright h
        exact ⟨hne, hx, y', List.mem_cons_of_mem _ hy', hin⟩

/-- The intersection is separated in the way in which both lists are. -/
theorem intersectIntervals_pairwise {r : α → α → Prop} (hr : Separates r) {a b : List (Interval α)}
    (ha : a.Pairwise fun x y => r x.stop y.start) (hb : b.Pairwise fun x y => r x.stop y.start) :
    (intersectIntervals a b).Pairwise fun x y => r x.stop y.start := by
  induction a, b using intersectIntervals.induct with
  | case1 b => simp [intersectIntervals]
  | case2 x a => simp [intersectIntervals]
  | case3 x a y b ihleft ihright =>
    rw [intersectIntervals]
    by_cases hlt : x.stop < y.stop
    · rw [if_pos hlt]
      obtain ⟨hx, ha'⟩ := List.pairwise_cons.mp ha
      refine List.pairwise_append.mpr ⟨?_, ihleft ha' hb, fun iv hiv iv' hiv' => ?_⟩
      · exact (separated_gap _ _).ordered.imp fun h => hr.of_lt h
      · -- what follows lies in later intervals of the first list
        obtain ⟨-, rfl⟩ := mem_gap hiv
        obtain ⟨-, ⟨x', hx', hstart, -⟩, -⟩ := mem_intersectIntervals hiv'
        exact hr.mono (min_le_left _ _) (hx x' hx') hstart
    · rw [if_neg hlt]
      obtain ⟨hy, hb'⟩ := List.pairwise_cons.mp hb
      refine List.pairwise_append.mpr ⟨?_, ihright ha hb', fun iv hiv iv' hiv' => ?_⟩
      · exact (separated_gap _ _).ordered.imp fun h => hr.of_lt h
      · -- what follows lies in later intervals of the second list
        obtain ⟨-, rfl⟩ := mem_gap hiv
        obtain ⟨-, -, y', hy', hstart, -⟩ := mem_intersectIntervals hiv'
        exact hr.mono (min_le_right _ _) (hy y' hy') hstart

theorem intersectIntervals_merged {a b : List (Interval α)} (ha : Merged a) (hb : Merged b) :
    Merged (intersectIntervals a b) :=
  ⟨fun _ hiv => (mem_intersectIntervals hiv).1,
    intersectIntervals_pairwise separates_le ha.ordered hb.ordered⟩

theorem intersectIntervals_separated {a b : List (Interval α)} (ha : Separated a)
    (hb : Separated b) : Separated (intersectIntervals a b) :=
  ⟨fun _ hiv => (mem_intersectIntervals hiv).1,
    intersectIntervals_pairwise separates_lt ha.ordered hb.ordered⟩

theorem covered_intersectIntervals {a b : List (Interval α)} (ha : Merged a) (hb : Merged b) :
    covered (intersectIntervals a b) = covered a ∩ covered b := by
  induction a, b using intersectIntervals.induct with
  | case1 b => simp [intersectIntervals]
  | case2 x a => simp [intersectIntervals]
  | case3 x a y b ihleft ihright =>
    rw [intersectIntervals]
    by_cases hlt : x.stop < y.stop
    · rw [if_pos hlt, covered_append, covered_overlap, ihleft ha.tail hb, covered_cons x a]
      ext z
      -- the interval that is passed has ended before the later ones of the other list begin
      have hpassed : z ∈ points x → z ∈ covered (y :: b) → z ∈ points y := by
        intro hx hcov
        rw [covered_cons] at hcov
        refine hcov.resolve_right fun hlater => ?_
        exact absurd (hx.2.trans (hlt.trans_le (hb.stop_le hlater))) (lt_irrefl z)
      simp only [Set.mem_union, Set.mem_inter_iff]
      constructor
      · rintro (⟨hx, hy⟩ | ⟨hz, hcov⟩)
        · exact ⟨.inl hx, y, List.mem_cons_self, hy⟩
        · exact ⟨.inr hz, hcov⟩
      · rintro ⟨hx | hz, hcov⟩
        · exact .inl ⟨hx, hpassed hx hcov⟩
        · exact .inr ⟨hz, hcov⟩
    · rw [if_neg hlt, covered_append, covered_overlap, ihright ha hb.tail, covered_cons y b]
      have hge := not_lt.mp hlt
      ext z
      have hpassed : z ∈ points y → z ∈ covered (x :: a) → z ∈ points x := by
        intro hy hcov
        rw [covered_cons] at hcov
        refine hcov.resolve_right fun hlater => ?_
        exact absurd (hy.2.trans_le (hge.trans (ha.stop_le hlater))) (lt_irrefl z)
      simp only [Set.mem_union, Set.mem_inter_iff]
      constructor
      · rintro (⟨hx, hy⟩ | ⟨hcov, hz⟩)
        · exact ⟨⟨x, List.mem_cons_self, hx⟩, .inl hy⟩
        · exact ⟨hcov, .inr hz⟩
      · rintro ⟨hcov, hy | hz⟩
        · exact .inl ⟨hpassed hy hcov, hy⟩
        · exact .inr ⟨hcov, hz⟩

/-- Intersection as set intersection and as a double subtraction; of lists whose intervals do not
touch, as `merge_intervals` gives them, the two ways give the same list. -/
theorem intersectIntervals_exact {α : Type} [LinearOrder α] (a b : List (Interval α))
    (ha : Merged a) (hb : Merged b) :
    Merged (intersectIntervals a b) ∧
      covered (intersectIntervals a b) = covered a ∩ covered b ∧
      covered (intersectIntervals a b) = covered (intersectIntervals b a) ∧
      covered (intersectIntervals a b) =
        covered (subtractIntervals a (subtractIntervals a b)) ∧
      (Separated a → Separated b → intersectIntervals a b = intersectIntervals b a ∧
        intersectIntervals a b = subtractIntervals a (subtractIntervals a b)) := by
  have hpoints := covered_intersectIntervals ha hb
  have hcomm : covered (intersectIntervals a b) = covered (intersectIntervals b a) := by
    rw [hpoints, covered_intersectIntervals hb ha, Set.inter_comm]
  obtain ⟨-, hord, hcov⟩ := subtractIntervals_separates separates_le ha.nonempty ha.ordered hb
  have hrest : Merged (subtractIntervals a b) :=
    ⟨(subtractIntervals_separates separates_le ha.nonempty ha.ordered hb).1, hord⟩
  have htwice : covered (intersectIntervals a b) =
      covered (subtractIntervals a (subtractIntervals a b)) := by
    rw [hpoints, covered_subtractIntervals ha hrest, hcov, Set.sdiff_sdiff_right_self]
  refine ⟨intersectIntervals_merged ha hb, hpoints, hcomm, htwice, fun hsa hsb => ⟨?_, ?_⟩⟩
  · exact (intersectIntervals_separated hsa hsb).ext (intersectIntervals_separated hsb hsa) hcomm
  · exact (intersectIntervals_separated hsa hsb).ext (subtractIntervals_separated hsa hrest) htwice

/-- Two intervals that end together, and one that reaches over a gap. -/
theorem intersectIntervals_exact_example :
    Merged (intersectIntervals [⟨9, 12⟩, ⟨13, 18⟩] [⟨10, 12⟩, ⟨12, 14⟩, ⟨15, (20 : ℕ)⟩]) ∧
      covered (intersectIntervals [⟨9, 12⟩, ⟨13, 18⟩] [⟨10, 12⟩, ⟨12, 14⟩, ⟨15, (20 : ℕ)⟩]) =
        covered [⟨9, 12⟩, ⟨13, 18⟩] ∩ covered [⟨10, 12⟩, ⟨12, 14⟩, ⟨15, (20 : ℕ)⟩] :=
  have h := intersectIntervals_exact _ _ ⟨by decide, by decide⟩ ⟨by decide, by decide⟩
  ⟨h.1, h.2.1⟩

end Availability
