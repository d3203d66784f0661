import UshBookNPay.Booking.Sessions
import UshBookNPay.Booking.Proofs.SessionProofs

/-!
# Prices and durations that add up

The price of a session is rounded once, from the extra price as it comes out of the division, and its
parts are rounded each on its own.
-/

namespace Booking

variable {l : List Session} {s : Session}

/-- The prices of the sessions are the sums of their parts to the last thousandth, and so are the totals of
the booking; the durations are the sums of theirs, and the windows as long. -/
structure AddsUp (l : List Session) : Prop where
  each : ∀ s ∈ l, s.sessionPrice = s.servicesPrice + s.addonsPrice + s.priceForExtraMinutes
  total : (bookingTotals l).sessionPriceTotal =
    (bookingTotals l).servicesPrice + (bookingTotals l).addonsPrice + (bookingTotals l).extraPrice
  duration : ∀ s ∈ l, s.totalSessionDuration = s.servicesDuration + s.addonsDuration + s.extraMinutes
  window : ∀ s ∈ l, s.appointmentEnd - s.appointmentStart = minutes s.totalSessionDuration

/-- The price of the services and the add-ons of a session. -/
def partsPrice (p : SessionParts) : Fils := totalServicesPrice p.services + (p.addons.map addonPrice).sum

/-- The price of its extra minutes, before it is rounded. -/
def partsExtra (p : SessionParts) : ℚ :=
  computeExtraPrice p.extraMinutes p.extraUnitMinutes p.extraUnitPrice

/-- Half a thousandth for the extra minutes does not meet an odd number of thousandths for the services and
add-ons, and the number of significant digits of the exact sum makes no difference to its thousandths. -/
def NoDrift (p : SessionParts) : Prop :=
  ¬ (FixedPoint.IsHalf (partsExtra p * 1000) ∧ partsPrice p % 2 = 1) ∧
    money (FixedPoint.roundDigits DECIMAL_PRECISION (toDecimal (partsPrice p) + partsExtra p)) =
      money (toDecimal (partsPrice p) + partsExtra p)

instance (p : SessionParts) : Decidable (NoDrift p) := inferInstanceAs (Decidable (_ ∧ _))

/-! ## One session -/

theorem totalServicesPrice_sessionEntries (arrangementId : Option Uuid) (services : List ServiceEntry) :
    totalServicesPrice (sessionEntries arrangementId services) = totalServicesPrice services := by
  unfold totalServicesPrice sessionEntries
  rw [List.map_map, Lists.map_zipIdx fun _ _ => rfl]

/-- The stored prices of a built session. -/
theorem prices_buildSession {i : ℕ} {p : SessionParts} (h : buildSession i p = .ok s) :
    s.servicesPrice + s.addonsPrice = partsPrice p ∧
      s.priceForExtraMinutes = money (partsExtra p) ∧
      s.sessionPrice =
        money (FixedPoint.roundDigits DECIMAL_PRECISION (toDecimal (partsPrice p) + partsExtra p)) := by
  unfold buildSession at h
  dsimp only at h
  split_ifs at h
  cases h
  have hextra : computeExtraPrice (max p.extraMinutes 0) p.extraUnitMinutes p.extraUnitPrice =
      partsExtra p := by
    unfold partsExtra computeExtraPrice
    rw [max_eq_left (le_max_right p.extraMinutes 0)]
  have hsum : ∀ x y : Fils, toDecimal x + toDecimal y = toDecimal (x + y) := by
    intro x y
    unfold toDecimal
    push_cast
    ring
  dsimp only
  rw [totalServicesPrice_sessionEntries, hextra, hsum]
  exact ⟨rfl, rfl, rfl⟩

/-- Whole thousandths added to a price before it is rounded. -/
theorem money_add_iff (x : Fils) (q : ℚ) :
    money (toDecimal x + q) = x + money q ↔ ¬ (FixedPoint.IsHalf (q * 1000) ∧ x % 2 = 1) := by
  have hshift : (toDecimal x + q) * 1000 = x + q * 1000 := by
    unfold toDecimal
    ring
  unfold money
  rw [hshift]
  exact FixedPoint.roundHalfEven_intCast_add_iff x (q * 1000)

/-- The price of a built session is the sum of its parts exactly if nothing drifts. -/
theorem price_buildSession_iff {i : ℕ} {p : SessionParts} (h : buildSession i p = .ok s) :
    s.sessionPrice = s.servicesPrice + s.addonsPrice + s.priceForExtraMinutes ↔ NoDrift p := by
  obtain ⟨hparts, hextra, hprice⟩ := prices_buildSession h
  have hadd := money_add_iff (partsPrice p) (partsExtra p)
  rw [hparts, hextra, hprice]
  unfold NoDrift
  constructor
  · intro heq
    have hclear : ¬ (FixedPoint.IsHalf (partsExtra p * 1000) ∧ partsPrice p % 2 = 1) := by
      rintro ⟨hhalf, hodd⟩
      -- the session goes to an even number, its parts sum up to an odd one
      have hsum : FixedPoint.IsHalf ((toDecimal (partsPrice p) + partsExtra p) * 10 ^ 3) := by
        have hshift : (toDecimal (partsPrice p) + partsExtra p) * 10 ^ 3 =
            partsPrice p + partsExtra p * 1000 := by
          unfold toDecimal
          ring
        rw [hshift, FixedPoint.isHalf_intCast_add]
        exact hhalf
      have heven := FixedPoint.even_roundHalfEven_roundDigits DECIMAL_PRECISION 3 hsum
      have hthousand : (10 : ℚ) ^ 3 = 1000 := by norm_num
      rw [hthousand] at heven
      have hext : money (partsExtra p) % 2 = 0 := FixedPoint.even_roundHalfEven hhalf
      have heven' : money (FixedPoint.roundDigits DECIMAL_PRECISION
          (toDecimal (partsPrice p) + partsExtra p)) % 2 = 0 := heven
      have hparity : ∀ x y : ℤ, x % 2 = 1 → y % 2 = 0 → (x + y) % 2 ≠ 0 := by omega
      rw [heq] at heven'
      exact hparity _ _ hodd hext heven'
    exact ⟨hclear, heq.trans (hadd.mpr hclear).symm⟩
  · rintro ⟨hclear, hround⟩
    rw [hround, hadd.mpr hclear]

/-! ## Lists of sessions -/

/-- What holds of each session holds of the sums. -/
theorem totals_of_each
    (h : ∀ s ∈ l, s.sessionPrice = s.servicesPrice + s.addonsPrice + s.priceForExtraMinutes) :
    (bookingTotals l).sessionPriceTotal = (bookingTotals l).servicesPrice +
      (bookingTotals l).addonsPrice + (bookingTotals l).extraPrice := by
  unfold bookingTotals
  dsimp only
  induction l with
  | nil => rfl
  | cons s rest ih =>
    have hs := h s List.mem_cons_self
    have hrest := ih fun s' hs' => h s' (List.mem_cons_of_mem _ hs')
    simp only [List.map_cons, List.sum_cons]
    linarith

/-- For any services, add-ons, extra minutes, rates and units: everything adds up exactly if no session
drifts. -/
theorem adds_up_iff (parts : List (ℕ × SessionParts)) (sessions : List Session)
    (h : (parts.mapM fun x => buildSession x.1 x.2) = .ok sessions) :
    AddsUp sessions ↔ ∀ x ∈ parts, NoDrift x.2 := by
  have hbuilt : ∀ s ∈ sessions, ∃ x ∈ parts, buildSession x.1 x.2 = .ok s :=
    fun s hs => Fallible.mem_of_mapM_eq_ok h hs
  constructor
  · intro hadds x hx
    obtain ⟨s, hs, hbuild⟩ := Fallible.exists_of_mapM_eq_ok h hx
    exact (price_buildSession_iff hbuild).mp (hadds.each s hs)
  · intro hclear
    have heach : ∀ s ∈ sessions,
        s.sessionPrice = s.servicesPrice + s.addonsPrice + s.priceForExtraMinutes := by
      intro s hs
      obtain ⟨x, hx, hbuild⟩ := hbuilt s hs
      exact (price_buildSession_iff hbuild).mpr (hclear x hx)
    have hlaw : ∀ s ∈ sessions, SessionLaw s := by
      intro s hs
      obtain ⟨x, -, hbuild⟩ := hbuilt s hs
      exact sessionLaw_buildSession hbuild
    exact ⟨heach, totals_of_each heach, fun s hs => (hlaw s hs).total, fun s hs => (hlaw s hs).window⟩

/-! ## Sessions that drift -/

/-- A quarter of an hour at 2.505 a half, next to a service of the given price. -/
def quarterHour (price : Fils) : SessionParts :=
  { sessionId := 1, start := 0, therapistId := 2,
    services := [{ serviceId := some 3, basePrice := price, durationMinutes := 60 }],
    extraMinutes := 15, extraUnitMinutes := 30, extraUnitPrice := 2505 / 1000 }

/-- What is built from it. -/
def quarterHourSession (price sessionPrice : Fils) : Session :=
  { sessionId := 1, therapistId := some 2, appointmentStart := 0, appointmentEnd := minutes 75,
    services := [{ serviceId := some 3, basePrice := price, durationMinutes := 60 }],
    extraMinutes := 15, priceForExtraMinutes := 1252, servicesDuration := 60,
    totalSessionDuration := 75, servicesPrice := price, sessionPrice := sessionPrice }

/-- An even price does not drift. -/
theorem adds_up_example : AddsUp [quarterHourSession 10000 11252] :=
  (adds_up_iff [(0, quarterHour 10000)] [quarterHourSession 10000 11252] (by decide +kernel)).mpr
    (by decide +kernel)

/-- 10.005 and 1.2525 for the quarter of an hour are 11.258 together; the parts are 10.005 and 1.252. -/
theorem price_drifts : ¬ ∀ (parts : List (ℕ × SessionParts)) (sessions : List Session),
    (parts.mapM fun x => buildSession x.1 x.2) = .ok sessions → AddsUp sessions := by
  intro h
  have hbuilt : ([(0, quarterHour 10005)].mapM fun x => buildSession x.1 x.2) =
      .ok [quarterHourSession 10005 11258] := by
    decide +kernel
  have hprice := (h _ _ hbuilt).each _ (List.mem_singleton_self _)
  exact absurd hprice (by decide)

end Booking
