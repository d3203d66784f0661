import UshBookNPay.Availability.Engine
import UshBookNPay.Availability.Proofs.IntervalProofs
import Mathlib.Tactic.Linarith

/-!
# What the availability engine offers

The blocks it offers are those with enough free slots from there on. Enough is the duration divided by the
slot length and rounded down, so the offer is exact where nothing is rounded away.
-/

namespace Availability

open Intervals

variable {t : TherapistScheduleInput} {window : Interval Instant} {engine : Engine}

/-! ## Slots -/

theorem minutes_pos {n : ℕ} (h : 0 < n) : 0 < minutes n := by
  unfold minutes
  positivity

theorem slotsFrom_eq {slot close : Instant} (n : ℕ) (s : Instant)
    (h : s + n * slot ≤ close) (hslot : 0 ≤ slot) :
    slotsFrom slot close n s = (List.range n).map fun k : ℕ => s + k * slot := by
  induction n generalizing s with
  | zero => rfl
  | succ n ih =>
    have hsplit : s + slot + n * slot = s + (n + 1 : ℕ) * slot := by
      push_cast
      ring
    have hfits : s + slot ≤ close := by
      have hn : 0 ≤ (n : ℤ) * slot := by positivity
      linarith
    unfold slotsFrom
    rw [if_pos hfits, ih (s + slot) (hsplit ▸ h), List.range_succ_eq_map, List.map_cons,
      List.map_map]
    congr 1
    · simp
    · refine List.map_congr_left fun k _ => ?_
      simp only [Function.comp_apply]
      push_cast
      ring

/-- The number of slots of a window. -/
def slotCount (slot : Instant) (window : Interval Instant) : ℕ :=
  ((window.stop - window.start) / slot).toNat

theorem lt_slotCount_iff {slot : Instant} (hslot : 0 < slot) {k : ℕ} :
    k < slotCount slot window ↔ window.start + (k + 1) * slot ≤ window.stop := by
  have hcount : k < slotCount slot window ↔ (k : ℤ) + 1 ≤ (window.stop - window.start) / slot := by
    unfold slotCount
    omega
  rw [hcount, Int.le_ediv_iff_mul_le hslot]
  constructor
  · intro h
    linarith
  · intro h
    linarith

theorem slotStarts_eq {slot : Instant} (hslot : 0 < slot) :
    slotStarts slot window =
      (List.range (slotCount slot window)).map fun k : ℕ => window.start + k * slot := by
  unfold slotStarts
  rw [← slotCount]
  cases hcount : slotCount slot window with
  | zero => rfl
  | succ n =>
    refine slotsFrom_eq _ _ ?_ hslot.le
    have hlast := (@lt_slotCount_iff window slot hslot n).mp (by omega)
    push_cast
    exact hlast

theorem getElem?_slotStarts {slot : Instant} (hslot : 0 < slot) {idx : ℕ} {ss : Instant} :
    (slotStarts slot window)[idx]? = some ss ↔
      idx < slotCount slot window ∧ ss = window.start + idx * slot := by
  rw [slotStarts_eq hslot, List.getElem?_map]
  by_cases h : idx < slotCount slot window
  · simp [h, eq_comm]
  · simp [h]

theorem length_slotStarts {slot : Instant} (hslot : 0 < slot) :
    (slotStarts slot window).length = slotCount slot window := by
  rw [slotStarts_eq hslot, List.length_map, List.length_range]

theorem mem_freeSet {free : List (Interval Instant)} {slot : Instant} (hslot : 0 < slot) {idx : ℕ} :
    idx ∈ freeSet free slot (slotStarts slot window) ↔ idx < slotCount slot window ∧
      ∃ iv ∈ free, iv.start ≤ window.start + idx * slot ∧
        window.start + idx * slot + slot ≤ iv.stop := by
  simp only [freeSet, List.mem_filter, List.mem_range, decide_eq_true_eq, length_slotStarts hslot]
  constructor
  · rintro ⟨hlt, ss, hss, hfree⟩
    obtain ⟨-, rfl⟩ := (getElem?_slotStarts hslot).mp hss
    exact ⟨hlt, hfree⟩
  · rintro ⟨hlt, hfree⟩
    exact ⟨hlt, _, (getElem?_slotStarts hslot).mpr ⟨hlt, rfl⟩, hfree⟩

/-- The blocks that are available. -/
theorem available_generateBlocks {free : List (Interval Instant)} {slotMinutes duration : ℕ}
    (hslot : 0 < slotMinutes) {s : Instant} :
    (∃ block ∈ generateBlocks free slotMinutes window duration, block.available ∧ block.start = s) ↔
      ∃ idx : ℕ, s = window.start + idx * minutes slotMinutes ∧
        ∀ k < slotsNeeded duration slotMinutes, idx + k ∈ freeSet free (minutes slotMinutes)
          (slotStarts (minutes slotMinutes) window) := by
  have hpos := minutes_pos hslot
  unfold generateBlocks
  simp only [List.mem_mapIdx]
  constructor
  · rintro ⟨block, ⟨idx, hidx, rfl⟩, havailable, rfl⟩
    have hstart := (getElem?_slotStarts hpos).mp (List.getElem?_eq_getElem hidx)
    split_ifs at havailable ⊢ with hfree
    exact ⟨idx, hstart.2, hfree⟩
  · rintro ⟨idx, rfl, hfree⟩
    have hneeded : 0 < slotsNeeded duration slotMinutes := lt_max_of_lt_left Nat.one_pos
    have hlt := ((mem_freeSet hpos).mp (hfree 0 hneeded)).1
    have hidx : idx < (slotStarts (minutes slotMinutes) window).length := by
      rw [length_slotStarts hpos]
      exact hlt
    have hstart := (getElem?_slotStarts hpos).mp (List.getElem?_eq_getElem hidx)
    refine ⟨_, ⟨idx, hidx, rfl⟩, ?_⟩
    rw [if_pos hfree]
    exact ⟨rfl, hstart.2⟩

/-! ## Free time -/

theorem covered_filterForDay (ivs : List (Interval Instant)) :
    covered (filterForDay window ivs) ∩ points window = covered ivs ∩ points window := by
  ext x
  constructor
  · rintro ⟨⟨iv, hiv, hx⟩, hw⟩
    exact ⟨⟨iv, List.mem_of_mem_filter hiv, hx⟩, hw⟩
  · rintro ⟨⟨iv, hiv, hx⟩, hw⟩
    have hover : overlaps iv window := ⟨hx.1.trans_lt hw.2, hw.1.trans_lt hx.2⟩
    exact ⟨⟨iv, List.mem_filter.mpr ⟨hiv, decide_eq_true hover⟩, hx⟩, hw⟩

theorem Proper.merged_leaves (h : t.Proper) : Separated (mergeIntervals (filterForDay window t.leaves)) := by
  refine mergeIntervals_separated fun iv hiv => h iv ?_
  simp only [List.mem_append]
  exact .inl (.inl (.inl (List.mem_of_mem_filter hiv)))

theorem Proper.merged_blocked (h : t.Proper) : Separated (allBlocked t window) := by
  refine mergeIntervals_separated fun iv hiv => h iv ?_
  simp only [List.mem_append] at hiv ⊢
  rcases hiv with (hiv | hiv) | hiv
  · exact .inl (.inl (.inr (List.mem_of_mem_filter hiv)))
  · exact .inl (.inr (List.mem_of_mem_filter hiv))
  · exact .inr (List.mem_of_mem_filter hiv)

theorem Proper.effectiveWorking (h : t.Proper) : Separated (effectiveWorking t window) := by
  refine subtractIntervals_separated ?_ (Proper.merged_leaves h).merged
  exact intersectWithWindow_separated window (mergeIntervals_spec _).1

theorem Proper.freeIntervals (h : t.Proper) : Separated (freeIntervals t window) :=
  subtractIntervals_separated (Proper.effectiveWorking h) (Proper.merged_blocked h).merged

/-- The points of the free time of a day. -/
theorem mem_freeIntervals (h : t.Proper) {x : Instant} :
    x ∈ covered (freeIntervals t window) ↔ x ∈ points window ∧
      x ∈ covered (t.workingHours ++ t.extraHours) ∧
      x ∉ covered (t.leaves ++ t.existingBookings ++ t.homeBookings ++ t.temporaryHolds) := by
  have hfilter : ∀ ivs : List (Interval Instant), x ∈ points window →
      (x ∈ covered (filterForDay window ivs) ↔ x ∈ covered ivs) := by
    intro ivs hx
    have heq := Set.ext_iff.mp (@covered_filterForDay window ivs) x
    simpa [hx] using heq
  have hclip := intersectWithWindow_separated window (mergeIntervals_spec
    (filterForDay window t.workingHours ++ filterForDay window t.extraHours)).1
  unfold Availability.freeIntervals
  rw [covered_subtractIntervals (Proper.effectiveWorking h).merged (Proper.merged_blocked h).merged]
  unfold Availability.effectiveWorking allBlocked
  rw [covered_subtractIntervals hclip.merged (Proper.merged_leaves h).merged,
    covered_intersectWithWindow, (mergeIntervals_spec _).2, (mergeIntervals_spec _).2,
    (mergeIntervals_spec _).2]
  simp only [covered_append, Set.mem_sdiff, Set.mem_inter_iff, Set.mem_union, not_or]
  by_cases hx : x ∈ points window
  · rw [hfilter _ hx, hfilter _ hx, hfilter _ hx, hfilter _ hx, hfilter _ hx, hfilter _ hx]
    tauto
  · tauto

theorem bookable_iff (h : t.Proper) {s d : Instant} :
    Bookable t window s d ↔ Set.Ico s (s + d) ⊆ covered (freeIntervals t window) := by
  constructor
  · intro hb x hx
    refine (mem_freeIntervals h).mpr ⟨hb.window hx, hb.working hx, ?_⟩
    rintro ⟨iv, hiv, hin⟩
    exact Set.disjoint_left.mp (hb.unblocked iv hiv) hx hin
  · intro hsub
    have hall := fun x hx => (mem_freeIntervals h).mp (hsub (a := x) hx)
    refine ⟨fun x hx => (hall x hx).1, fun x hx => (hall x hx).2.1, fun iv hiv => ?_⟩
    exact Set.disjoint_left.mpr fun x hx hin => (hall x hx).2.2 ⟨iv, hiv, hin⟩

/-! ## The offer -/

/-- Slots one after the other are an interval. -/
theorem slots_subset_iff {P : Set Instant} {slot s : Instant} (hslot : 0 < slot) (n : ℕ) :
    (∀ k < n, Set.Ico (s + k * slot) (s + k * slot + slot) ⊆ P) ↔
      Set.Ico s (s + n * slot) ⊆ P := by
  constructor
  · intro h x hx
    obtain ⟨hsx, hxn⟩ := hx
    -- the slot of the point
    have hk : 0 ≤ (x - s) / slot := Int.ediv_nonneg (by linarith) hslot.le
    have hlow : (x - s) / slot * slot ≤ x - s := Int.ediv_mul_le _ hslot.ne'
    have hhigh : x - s < ((x - s) / slot + 1) * slot := Int.lt_ediv_add_one_mul_self _ hslot
    have hcast : (((x - s) / slot).toNat : ℤ) = (x - s) / slot := Int.toNat_of_nonneg hk
    have hlt : ((x - s) / slot).toNat < n := by
      have hdiv : (x - s) / slot < n := Int.ediv_lt_of_lt_mul hslot (by linarith)
      rw [← hcast] at hdiv
      exact_mod_cast hdiv
    refine h _ hlt ⟨?_, ?_⟩
    · rw [hcast]
      linarith
    · rw [hcast]
      linarith
  · intro h k hk x hx
    have hkn : (k : ℤ) + 1 ≤ n := by omega
    have hmul : ((k : ℤ) + 1) * slot ≤ n * slot := mul_le_mul_of_nonneg_right hkn hslot.le
    have hk0 : 0 ≤ (k : ℤ) * slot := by positivity
    exact h ⟨by linarith [hx.1], by linarith [hx.2]⟩

/-- A block is offered exactly where the slots the engine counts are free. -/
theorem offered_iff (h : t.Proper) (window : Interval Instant) (hslot : 0 < engine.slotMinutes)
    {s : Instant} :
    (∃ block ∈ (engine.computeDay t window).blocks, block.available ∧ block.start = s) ↔
      (∃ idx : ℕ, s = window.start + idx * minutes engine.slotMinutes) ∧
        Set.Ico s (s + slotsNeeded engine.serviceDurationMinutes engine.slotMinutes *
          minutes engine.slotMinutes) ⊆ covered (freeIntervals t window) := by
  have hpos := minutes_pos hslot
  have hneeded : 0 < slotsNeeded engine.serviceDurationMinutes engine.slotMinutes :=
    lt_max_of_lt_left Nat.one_pos
  generalize hn : slotsNeeded engine.serviceDurationMinutes engine.slotMinutes = n at hneeded ⊢
  unfold Engine.computeDay
  dsimp only
  split_ifs with hclosed
  · -- a day without working time
    have hnone : freeIntervals t window = [] := by
      unfold freeIntervals
      rw [hclosed]
      unfold subtractIntervals
      split_ifs <;> rfl
    constructor
    · rintro ⟨block, hmem, havailable, -⟩
      obtain ⟨ss, -, rfl⟩ := List.mem_map.mp hmem
      cases havailable
    · rintro ⟨-, hsub⟩
      rw [hnone, covered_nil] at hsub
      have hlen : 0 < (n : ℤ) * minutes engine.slotMinutes := by positivity
      exact absurd (hsub (Set.left_mem_Ico.mpr (by linarith))) (Set.notMem_empty _)
  · rw [available_generateBlocks hslot, hn]
    constructor
    · rintro ⟨idx, rfl, hfree⟩
      refine ⟨⟨idx, rfl⟩, (slots_subset_iff hpos n).mp fun k hk x hx => ?_⟩
      obtain ⟨-, iv, hiv, hstart, hstop⟩ := (mem_freeSet hpos).mp (hfree k hk)
      push_cast at hstart hstop
      exact ⟨iv, hiv, by linarith [hx.1], by linarith [hx.2]⟩
    · rintro ⟨⟨idx, rfl⟩, hsub⟩
      refine ⟨idx, rfl, fun k hk => (mem_freeSet hpos).mpr ?_⟩
      have hslotk := (slots_subset_iff hpos n).mpr hsub k hk
      have hlt : window.start + idx * minutes engine.slotMinutes + k * minutes engine.slotMinutes <
          window.start + idx * minutes engine.slotMinutes + k * minutes engine.slotMinutes +
            minutes engine.slotMinutes := by linarith
      have hin : Set.Ico _ _ ⊆ points window :=
        hslotk.trans fun x hx => ((mem_freeIntervals h).mp hx).1
      have hwindow : window.start + idx * minutes engine.slotMinutes +
          k * minutes engine.slotMinutes + minutes engine.slotMinutes ≤ window.stop := by
        by_contra hover
        have hstart := hin (Set.left_mem_Ico.mpr hlt)
        exact lt_irrefl _ (hin ⟨hstart.2.le, not_le.mp hover⟩).2
      obtain ⟨iv, hiv, hstart, hstop⟩ :=
        (Proper.freeIntervals h).exists_of_subset hlt hslotk
      push_cast
      refine ⟨(lt_slotCount_iff hpos).mpr ?_, iv, hiv, by linarith, by linarith⟩
      push_cast
      linarith

/-! ## Where the offer is exact -/

theorem mem_computeTherapistAvailability {dates : List ℤ} {midnight : ℤ → Instant}
    {opening closing : Instant} {day : ℤ × DayAvailability}
    (h : day ∈ engine.computeTherapistAvailability t dates midnight opening closing) :
    day.2 = engine.computeDay t (branchWindow midnight opening closing day.1) := by
  obtain ⟨d, -, rfl⟩ := List.mem_map.mp h
  rfl

/-- The slots the engine counts are the whole service. -/
theorem duration_le_needed {d slot : ℕ} (h : d ≤ slot ∨ slot ∣ d) :
    minutes d ≤ slotsNeeded d slot * minutes slot := by
  have hnat : d ≤ slotsNeeded d slot * slot := by
    unfold slotsNeeded
    rcases h with h | h
    · calc d ≤ 1 * slot := by omega
        _ ≤ max 1 (d / slot) * slot := Nat.mul_le_mul_right _ (le_max_left _ _)
    · calc d = d / slot * slot := (Nat.div_mul_cancel h).symm
        _ ≤ max 1 (d / slot) * slot := Nat.mul_le_mul_right _ (le_max_right _ _)
  have hint : (d : ℤ) ≤ slotsNeeded d slot * slot := by exact_mod_cast hnat
  unfold minutes
  linarith

theorem needed_of_dvd {d slot : ℕ} (hd : 0 < d) (h : slot ∣ d) :
    slotsNeeded d slot * minutes slot = minutes d := by
  have hpos : 1 ≤ d / slot := Nat.div_pos (Nat.le_of_dvd hd h) (Nat.pos_of_dvd_of_pos h hd)
  have hnat : slotsNeeded d slot * slot = d := by
    unfold slotsNeeded
    rw [max_eq_right hpos, Nat.div_mul_cancel h]
  have hint : (slotsNeeded d slot : ℤ) * slot = d := by exact_mod_cast hnat
  unfold minutes
  rw [← hint]
  ring

theorem sound_of_needed (hslot : 0 < engine.slotMinutes)
    (h : engine.serviceDurationMinutes ≤ engine.slotMinutes ∨
      engine.slotMinutes ∣ engine.serviceDurationMinutes) : engine.Sound := by
  intro t dates midnight opening closing hproper day hday block hblock havailable
  rw [mem_computeTherapistAvailability hday] at hblock
  obtain ⟨-, hsub⟩ := (offered_iff hproper _ hslot).mp ⟨block, hblock, havailable, rfl⟩
  refine (bookable_iff hproper).mpr (subset_trans (Set.Ico_subset_Ico_right ?_) hsub)
  have := duration_le_needed h
  linarith

theorem engine_complete (hd : 0 < engine.serviceDurationMinutes) (hslot : 0 < engine.slotMinutes) :
    engine.Complete := by
  intro hdvd t dates midnight opening closing hproper day hday k hbookable
  rw [mem_computeTherapistAvailability hday]
  refine (offered_iff hproper _ hslot).mpr ⟨⟨k, rfl⟩, ?_⟩
  rw [needed_of_dvd hd hdvd]
  exact (bookable_iff hproper).mp hbookable

/-- A therapist who works for the given time from midnight on. -/
def worksFor (n : ℕ) : TherapistScheduleInput where
  workingHours := [⟨0, minutes n⟩]
  leaves := []
  extraHours := []
  existingBookings := []
  homeBookings := []
  temporaryHolds := []

/-- Where the last slot is cut off, the engine offers a start whose service runs over the working time. -/
theorem needed_of_sound (hslot : 0 < engine.slotMinutes) (h : engine.Sound) :
    engine.serviceDurationMinutes ≤ engine.slotMinutes ∨
      engine.slotMinutes ∣ engine.serviceDurationMinutes := by
  generalize hq : slotsNeeded engine.serviceDurationMinutes engine.slotMinutes = q
  have hproper : (worksFor (q * engine.slotMinutes)).Proper := by
    intro iv hiv
    cases hiv
  have hwindow : branchWindow (fun _ => 0) 0 (minutes (q * engine.slotMinutes : ℕ)) 0 =
      ⟨0, minutes (q * engine.slotMinutes : ℕ)⟩ := by
    simp [branchWindow]
  have hday : ((0 : ℤ), engine.computeDay (worksFor (q * engine.slotMinutes))
      (branchWindow (fun _ => 0) 0 (minutes (q * engine.slotMinutes : ℕ)) 0)) ∈
        engine.computeTherapistAvailability (worksFor (q * engine.slotMinutes)) [0] (fun _ => 0) 0
          (minutes (q * engine.slotMinutes : ℕ)) := List.mem_singleton_self _
  have hlen : (q : ℤ) * minutes engine.slotMinutes = minutes (q * engine.slotMinutes : ℕ) := by
    unfold minutes
    push_cast
    ring
  -- the whole working time is offered
  have hsub : Set.Ico (0 : Instant) (0 + q * minutes engine.slotMinutes) ⊆ covered (freeIntervals
      (worksFor (q * engine.slotMinutes)) ⟨0, minutes (q * engine.slotMinutes : ℕ)⟩) := by
    intro x hx
    rw [zero_add, hlen] at hx
    refine (mem_freeIntervals hproper).mpr ⟨hx, ⟨_, List.mem_singleton_self _, hx⟩, ?_⟩
    simp [worksFor]
  obtain ⟨block, hblock, havailable, hstart⟩ := (offered_iff hproper
    (branchWindow (fun _ => 0) 0 (minutes (q * engine.slotMinutes : ℕ)) 0) hslot).mpr
      ⟨⟨0, rfl⟩, by rw [hq, hwindow]; simpa using hsub⟩
  have hbookable := (h _ [0] (fun _ => 0) 0 _ hproper _ hday block hblock havailable).window
  rw [hstart] at hbookable
  have hle : minutes engine.serviceDurationMinutes ≤ minutes (q * engine.slotMinutes : ℕ) := by
    by_contra hlt
    have hnonneg : 0 ≤ minutes (q * engine.slotMinutes : ℕ) := by
      unfold minutes
      positivity
    have hin := hbookable (a := minutes (q * engine.slotMinutes : ℕ))
      (by rw [hwindow]; exact ⟨by simpa using hnonneg, by simpa using not_le.mp hlt⟩)
    rw [hwindow] at hin
    exact lt_irrefl _ hin.2
  have hnat : engine.serviceDurationMinutes ≤ q * engine.slotMinutes := by
    unfold minutes at hle
    have : (engine.serviceDurationMinutes : ℤ) ≤ (q * engine.slotMinutes : ℕ) := by linarith
    exact_mod_cast this
  by_cases hshort : engine.serviceDurationMinutes ≤ engine.slotMinutes
  · exact .inl hshort
  · right
    have hpos : 1 ≤ engine.serviceDurationMinutes / engine.slotMinutes :=
      Nat.div_pos (by omega) hslot
    rw [← hq, slotsNeeded, max_eq_right hpos] at hnat
    have hfloor := Nat.div_mul_le_self engine.serviceDurationMinutes engine.slotMinutes
    exact Dvd.intro_left _ (le_antisymm hfloor hnat)

/-- The offer of the engine is right exactly where the service fits into one slot or takes whole slots. -/
theorem engine_exact_iff (engine : Engine) (hd : 0 < engine.serviceDurationMinutes)
    (hslot : 0 < engine.slotMinutes) : engine.Sound ∧ engine.Complete ↔
      engine.serviceDurationMinutes ≤ engine.slotMinutes ∨
        engine.slotMinutes ∣ engine.serviceDurationMinutes := by
  constructor
  · rintro ⟨hsound, -⟩
    exact needed_of_sound hslot hsound
  · exact fun h => ⟨sound_of_needed hslot h, engine_complete hd hslot⟩

theorem engine_exact_iff_example :
    Engine.Sound ⟨60, 30⟩ ∧ Engine.Complete ⟨60, 30⟩ ↔ 60 ≤ 30 ∨ 30 ∣ 60 :=
  engine_exact_iff ⟨60, 30⟩ (by decide) (by decide)

/-- A service of 45 minutes is offered in a working time of half an hour. -/
theorem short_time_offered : ¬ Engine.Sound ⟨45, 30⟩ := by
  intro h
  have hbookable := h (worksFor 30) [0] (fun _ => 0) 0 (minutes 30) (fun iv hiv => by cases hiv) _
    (List.mem_singleton_self _) ⟨0, minutes 30, true, .available⟩ (by decide) rfl
  have hin := hbookable.window (a := minutes 40) ⟨by decide, by decide⟩
  exact absurd hin.2 (by decide)

end Availability
