import UshBookNPay.Core.RateLimit

/-!
# The limiter and its window

The counter of a key is the burst of its arrivals, as every arrival puts off the time the counter is dropped
at. So the limiter agrees with the documented one until a burst outgrows the limit while its window does
not.
-/

namespace RateLimit

variable {c : Codec} {limit window : ℤ} {arrivals earlier : List Arrival} {a : Arrival} {key : String}

/-- Redis answers every arrival. -/
def Available (arrivals : List Arrival) : Prop := ∀ a ∈ arrivals, a.pipeline = .answered

instance (arrivals : List Arrival) : Decidable (Available arrivals) :=
  inferInstanceAs (Decidable (∀ a ∈ arrivals, a.pipeline = .answered))

/-- The counter of a key whose arrivals came at these times, the newest first. -/
def counterOf (window : ℤ) : List ℚ → Option Counter
  | [] => none
  | t :: earlier =>
    some { count := SlidingWindow.burst (window : ℚ) (t :: earlier), dropsAt := t + window }

theorem timesOf_append_self (h : clientKey c a.request = some key) :
    timesOf c key (earlier ++ [a]) = a.time :: timesOf c key earlier := by
  simp [timesOf, List.filter_append, h]

theorem timesOf_append_other (h : clientKey c a.request ≠ some key) :
    timesOf c key (earlier ++ [a]) = timesOf c key earlier := by
  simp [timesOf, List.filter_append, h]

/-- One more arrival of a key makes its burst one longer, or starts a new one. -/
theorem incr_counterOf {store : Store} {times : List ℚ} (h : store key = counterOf window times)
    (now : ℚ) : incr store key now = SlidingWindow.burst (window : ℚ) (now :: times) := by
  unfold incr
  rw [h]
  cases times with
  | nil => rfl
  | cons t earlier =>
    by_cases hlive : now < t + window
    · simp [counterOf, SlidingWindow.burst, Option.filter_some, hlive]
    · simp [counterOf, SlidingWindow.burst, Option.filter_some, hlive]

theorem dispatch_store (hredis : a.pipeline = .answered) (store : Store) :
    (dispatch c limit window store a).2 =
      ((clientKey c a.request).map fun key => execute window store key a.time).getD store := by
  unfold dispatch
  cases clientKey c a.request with
  | none => rfl
  | some key =>
    dsimp only
    rw [hredis]
    dsimp only
    split_ifs <;> rfl

theorem countersAfter_append (earlier : List Arrival) (a : Arrival) :
    countersAfter c limit window (earlier ++ [a]) =
      (dispatch c limit window (countersAfter c limit window earlier) a).2 := by
  unfold countersAfter
  rw [Runs.run_append]
  rfl

/-- The counters are the bursts of their keys. -/
theorem countersAfter_eq (hredis : Available arrivals) (key : String) :
    countersAfter c limit window arrivals key = counterOf window (timesOf c key arrivals) := by
  induction arrivals using List.reverseRecOn generalizing key with
  | nil => rfl
  | append_singleton earlier a ih =>
    have hearlier : Available earlier := fun b hb => hredis b (List.mem_append_left _ hb)
    have ha : a.pipeline = .answered := hredis a (by simp)
    rw [countersAfter_append, dispatch_store ha]
    cases hkey : clientKey c a.request with
    | none =>
      rw [timesOf_append_other (by simp [hkey])]
      exact ih hearlier key
    | some own =>
      show execute window (countersAfter c limit window earlier) own a.time key = _
      unfold execute
      by_cases hown : key = own
      · subst hown
        rw [timesOf_append_self hkey, Function.update_self, incr_counterOf (ih hearlier key)]
        rfl
      · have hother : clientKey c a.request ≠ some key := by
          rw [hkey]
          exact fun h => hown (Option.some.inj h).symm
        rw [timesOf_append_other hother, Function.update_of_ne hown]
        exact ih hearlier key

/-- A request is refused if its burst is longer than the limit. -/
theorem refused_iff (hredis : Available (earlier ++ [a])) (hkey : clientKey c a.request = some key) :
    (dispatch c limit window (countersAfter c limit window earlier) a).1 =
        rateLimitExceeded limit window ↔
      limit < SlidingWindow.burst (window : ℚ) (timesOf c key (earlier ++ [a])) := by
  have hearlier : Available earlier := fun b hb => hredis b (List.mem_append_left _ hb)
  have ha : a.pipeline = .answered := hredis a (by simp)
  rw [timesOf_append_self hkey, ← incr_counterOf (countersAfter_eq hearlier key) a.time]
  unfold dispatch
  rw [hkey, ha]
  dsimp only
  split_ifs with hover
  · exact iff_of_true rfl hover
  · exact iff_of_false (by simp [rateLimitExceeded]) hover

theorem timesOf_pairwise (h : arrivals.Pairwise fun a b => a.time ≤ b.time) (key : String) :
    (timesOf c key arrivals).Pairwise (· ≥ ·) := by
  unfold timesOf
  rw [List.pairwise_reverse, List.pairwise_map]
  exact h.filter _

theorem answered_step (hredis : Available (earlier ++ [a]))
    (hsorted : (earlier ++ [a]).Pairwise fun a b => a.time ≤ b.time) :
    AnsweredAsDocumented c limit window earlier a ↔ InOneWindow c limit window earlier a := by
  refine forall₂_congr fun key hkey => ?_
  rw [refused_iff hredis (Option.mem_def.mp hkey)]
  exact SlidingWindow.burst_iff_inWindow (timesOf_pairwise hsorted key)

/-- A client that never pauses for a window is refused from the first request over the limit on, at any
rate. -/
theorem steady_client_refused (hredis : Available (earlier ++ [a]))
    (hkey : clientKey c a.request = some key)
    (hsteady : (timesOf c key (earlier ++ [a])).IsChain fun t s => t < s + (window : ℚ)) :
    (dispatch c limit window (countersAfter c limit window earlier) a).1 =
        rateLimitExceeded limit window ↔
      limit < (timesOf c key (earlier ++ [a])).length := by
  rw [refused_iff hredis hkey, SlidingWindow.burst_of_isChain hsteady]

/-- The limiter is the documented one in every run in which no request is the last one of a burst that is
longer than the limit and spread over more than a window, and in no other. -/
theorem sliding_window_iff (c : Codec) (limit window : ℤ) (arrivals : List Arrival)
    (hredis : Available arrivals) (hsorted : arrivals.Pairwise fun a b => a.time ≤ b.time) :
    (∀ earlier a, earlier ++ [a] <+: arrivals → AnsweredAsDocumented c limit window earlier a) ↔
      ∀ earlier a, earlier ++ [a] <+: arrivals → InOneWindow c limit window earlier a := by
  refine forall₃_congr fun earlier a hstart => ?_
  exact answered_step (fun b hb => hredis b (hstart.subset hb))
    (hsorted.sublist hstart.sublist)

/-- Addresses of no network, and tokens without claims. -/
def plainCodec : Codec := { ipAddress := fun _ => none, claims := fun _ => none }

/-- A request every 40 seconds. -/
def steadyArrivals : List Arrival :=
  [0, 40, 80].map fun t => { time := t, request := { host := some "203.0.113.7" } }

theorem sliding_window_iff_example :
    (∀ earlier a, earlier ++ [a] <+: steadyArrivals →
        AnsweredAsDocumented plainCodec 2 60 earlier a) ↔
      ∀ earlier a, earlier ++ [a] <+: steadyArrivals → InOneWindow plainCodec 2 60 earlier a :=
  sliding_window_iff plainCodec 2 60 steadyArrivals (by decide +kernel) (by decide +kernel)

/-- Of one request every 40 seconds the third is refused, with a limit of two in each minute. -/
theorem steady_client_blocked :
    ¬ ∀ earlier a, earlier ++ [a] <+: steadyArrivals →
      AnsweredAsDocumented plainCodec 2 60 earlier a := by
  intro h
  have hthird := h (steadyArrivals.take 2)
    { time := 80, request := { host := some "203.0.113.7" } } (by decide +kernel)
    "rate:ip:203.0.113.7" (by decide +kernel)
  exact absurd hthird (by decide +kernel)

end RateLimit
