import Mathlib.Algebra.Order.Monoid.Defs
import Mathlib.Data.List.Basic
import Mathlib.Order.Defs.LinearOrder

/-!
# Sliding windows

Arrival times, the newest first. The arrivals in the window that ends at the newest one are compared with
its burst, the longest run of arrivals back from it in which each comes less than a window after the one
before. A counter that is dropped when a window has passed since the last arrival counts the burst.
-/

namespace SlidingWindow

variable {T : Type*} [AddCommMonoid T] [LinearOrder T]

/-- The arrivals in the window that ends at the newest one, that one included. -/
def inWindow (w : T) : List T → ℕ
  | [] => 0
  | t :: earlier => earlier.countP (fun s => t < s + w) + 1

/-- The length of the burst of the newest arrival. -/
def burst (w : T) : List T → ℕ
  | [] => 0
  | [_] => 1
  | t :: s :: earlier => if t < s + w then burst w (s :: earlier) + 1 else 1

/-- The burst is longer than the limit, and is spread so that the window is not. -/
def Spread (limit : ℤ) (w : T) (times : List T) : Prop :=
  limit < burst w times ∧ (inWindow w times : ℤ) ≤ limit

instance (limit : ℤ) (w : T) (times : List T) : Decidable (Spread limit w times) :=
  inferInstanceAs (Decidable (_ ∧ _))

theorem inWindow_le_burst [IsOrderedAddMonoid T] (w : T) :
    ∀ {times : List T}, times.Pairwise (· ≥ ·) → inWindow w times ≤ burst w times
  | [], _ => by simp [inWindow]
  | [t], _ => by simp [inWindow, burst]
  | t :: s :: earlier, h => by
    have hts : s ≤ t := (List.pairwise_cons.mp h).1 s List.mem_cons_self
    have htail : (s :: earlier).Pairwise (· ≥ ·) := (List.pairwise_cons.mp h).2
    have hearlier : ∀ r ∈ earlier, r ≤ s := (List.pairwise_cons.mp htail).1
    have ih := inWindow_le_burst w htail
    by_cases hnear : t < s + w
    · -- what is in the window of the newest arrival is in the window of the one before
      have hmono : earlier.countP (fun r => t < r + w) ≤ earlier.countP (fun r => s < r + w) := by
        refine List.countP_mono_left fun r _ hr => ?_
        simp only [decide_eq_true_eq] at hr ⊢
        exact hts.trans_lt hr
      simp only [inWindow, burst, if_pos hnear] at ih ⊢
      rw [List.countP_cons_of_pos (by simpa using hnear)]
      omega
    · have hnone : (s :: earlier).countP (fun r => t < r + w) = 0 := by
        refine List.countP_eq_zero.mpr fun r hr => ?_
        have hrs : r ≤ s := by
          rcases List.mem_cons.mp hr with rfl | hr
          · exact le_rfl
          · exact hearlier r hr
        have hfar : r + w ≤ t := (add_le_add_left hrs w).trans (not_lt.mp hnear)
        simpa using hfar
      simp only [inWindow, burst, if_neg hnear, hnone]
      omega

/-- The limit holds alike for the burst and for the window, but for the arrivals that are spread. -/
theorem burst_iff_inWindow [IsOrderedAddMonoid T] {limit : ℤ} {w : T} {times : List T}
    (h : times.Pairwise (· ≥ ·)) :
    (limit < burst w times ↔ limit < inWindow w times) ↔ ¬ Spread limit w times := by
  have hle := inWindow_le_burst w h
  unfold Spread
  omega

/-- Arrivals that never leave a gap of a window are one burst. -/
theorem burst_of_isChain {w : T} :
    ∀ {times : List T}, times.IsChain (fun t s => t < s + w) → burst w times = times.length
  | [], _ => rfl
  | [_], _ => rfl
  | t :: s :: earlier, h => by
    have htail := burst_of_isChain (List.isChain_cons_cons.mp h).2
    simp only [burst, if_pos (List.isChain_cons_cons.mp h).1, htail, List.length_cons]

end SlidingWindow
