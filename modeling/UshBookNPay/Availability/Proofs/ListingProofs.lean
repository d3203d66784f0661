import UshBookNPay.Availability.AvailabilityApi
import UshBookNPay.Availability.Proofs.EngineProofs
import UshBookNPay.Booking.Proofs.OverlapProofs
import UshBookNPay.Common.Proofs.UuidProofs
import UshBookNPay.Lib.Fallible

/-!
# The listing agrees with the checks

The points in which bookings and holds block a therapist are the same for the listing of a whole range
of days and for a check of one interval, where everything that blocks takes some time.
-/

namespace Availability

open Booking (therapistBusyWindows nonBlockingBookingStatuses PreFilterAny HoldInRange BookedIn HeldIn
  SessionsInside findTherapistOverlap getActiveBookingsForTherapistsInRange
  getActiveHoldsForTherapistInRange window_inside involved_of_window
  findTherapistOverlap_eq_none_iff mem_getBusyTherapistIdsInRange)
open Intervals

variable {d : Db} {b : BookingRow} {t : Uuid} {s f now x : Instant}

/-! ## The checks -/

theorem reportedFree_iff (hinside : SessionsInside d) :
    ReportedFree t s f now d ↔ ¬ BookedIn t s f d ∧ ¬ HeldIn t s f now d := by
  unfold ReportedFree
  rw [findTherapistOverlap_eq_none_iff hinside]
  constructor
  · rintro ⟨hbooked, hbusy⟩
    refine ⟨hbooked, fun hheld => hbusy [t] ?_⟩
    exact (mem_getBusyTherapistIdsInRange hinside).mpr ⟨List.mem_singleton.mpr rfl, .inr hheld⟩
  · rintro ⟨hbooked, hheld⟩
    refine ⟨hbooked, fun therapistIds hbusy => ?_⟩
    rcases ((mem_getBusyTherapistIdsInRange hinside).mp hbusy).2 with h | h
    exacts [hbooked h, hheld h]

/-! ## The points that are blocked -/

/-- A window that takes some time overlaps an interval where they share a point. -/
theorem overlap_iff_point {a z : Instant} (hsf : s < f) (haz : a < z) :
    (a < f ∧ s < z) ↔ ∃ x, s ≤ x ∧ x < f ∧ a ≤ x ∧ x < z := by
  constructor
  · rintro ⟨haf, hsz⟩
    exact ⟨max s a, le_max_left _ _, max_lt hsf haf, le_max_right _ _, max_lt hsz haz⟩
  · rintro ⟨x, hsx, hxf, hax, hxz⟩
    exact ⟨lt_of_le_of_lt hax hxf, lt_of_le_of_lt hsx hxz⟩

theorem bookedIn_iff (htime : TakesTime now d) (hsf : s < f) :
    BookedIn t s f d ↔ ∃ x, s ≤ x ∧ x < f ∧ ∃ b ∈ d.bookings,
      b.status ∉ nonBlockingBookingStatuses ∧ ∃ w ∈ therapistBusyWindows b t, w.1 ≤ x ∧ x < w.2 := by
  constructor
  · rintro ⟨b, hb, hstatus, w, hw, hover⟩
    obtain ⟨x, hsx, hxf, hin⟩ := (overlap_iff_point hsf (htime.bookings b hb hstatus t w hw)).mp hover
    exact ⟨x, hsx, hxf, b, hb, hstatus, w, hw, hin⟩
  · rintro ⟨x, hsx, hxf, b, hb, hstatus, w, hw, hin⟩
    exact ⟨b, hb, hstatus, w, hw,
      (overlap_iff_point hsf (htime.bookings b hb hstatus t w hw)).mpr ⟨x, hsx, hxf, hin⟩⟩

theorem heldIn_iff (htime : TakesTime now d) (hsf : s < f) :
    HeldIn t s f now d ↔ ∃ x, s ≤ x ∧ x < f ∧ ∃ h ∈ d.temporaryHolds,
      h.therapistId = t ∧ now < h.expiresAt ∧ h.appointmentStart ≤ x ∧ x < h.appointmentEnd := by
  constructor
  · rintro ⟨h, hh, ht, hlt, hgt, hnow⟩
    obtain ⟨x, hsx, hxf, hin⟩ := (overlap_iff_point hsf (htime.holds h hh hnow)).mp ⟨hlt, hgt⟩
    exact ⟨x, hsx, hxf, h, hh, ht, hnow, hin⟩
  · rintro ⟨x, hsx, hxf, h, hh, ht, hnow, hin⟩
    obtain ⟨hlt, hgt⟩ := (overlap_iff_point hsf (htime.holds h hh hnow)).mpr ⟨x, hsx, hxf, hin⟩
    exact ⟨h, hh, ht, hlt, hgt, hnow⟩

/-! ## The input of the engine -/

section Input

variable {therapistIds : List Uuid} {start finish : Instant}

theorem uuidStr_injective {a b : Uuid} (ha : parseUuid (uuidStr a) = some a)
    (hb : parseUuid (uuidStr b) = some b) (h : uuidStr a = uuidStr b) : a = b := by
  rw [h, hb] at ha
  exact (Option.some.inj ha).symm

/-- In the range of the listing the bookings read block the therapist where the stored ones do. -/
theorem mem_busyWindows (hinside : SessionsInside d) (hx : start ≤ x ∧ x < finish)
    (hids : ∀ id ∈ therapistIds, parseUuid (uuidStr id) = some id) (ht : t ∈ therapistIds) :
    x ∈ covered (busyWindows therapistIds
        (getActiveBookingsForTherapistsInRange therapistIds start finish d) (uuidStr t)) ↔
      ∃ b ∈ d.bookings, b.status ∉ nonBlockingBookingStatuses ∧
        ∃ w ∈ therapistBusyWindows b t, w.1 ≤ x ∧ x < w.2 := by
  unfold busyWindows getActiveBookingsForTherapistsInRange
  rw [mem_covered]
  constructor
  · rintro ⟨iv, hiv, hin⟩
    obtain ⟨b, hb, hb'⟩ := List.mem_flatMap.mp hiv
    obtain ⟨t', ht', hwindow⟩ := List.mem_flatMap.mp hb'
    split_ifs at hwindow with hkey
    · rw [uuidStr_injective (hids t' ht') (hids t ht) hkey] at hwindow
      obtain ⟨w, hw, rfl⟩ := List.mem_map.mp hwindow
      obtain ⟨hmem, hfilter⟩ := List.mem_filter.mp hb
      rw [decide_eq_true_eq] at hfilter
      exact ⟨b, hmem, hfilter.2.2.2, w, hw, hin⟩
    · cases hwindow
  · rintro ⟨b, hb, hstatus, w, hw, hin⟩
    obtain ⟨hfirst, hlast⟩ := window_inside (hinside b hb) hw
    have hfilter : PreFilterAny therapistIds start finish b :=
      ⟨⟨t, ht, involved_of_window hw⟩, lt_of_le_of_lt (hfirst.trans hin.1) hx.2,
        lt_of_le_of_lt hx.1 (hin.2.trans_le hlast), hstatus⟩
    refine ⟨⟨w.1, w.2⟩, List.mem_flatMap.mpr ⟨b, List.mem_filter.mpr ⟨hb, decide_eq_true hfilter⟩,
      List.mem_flatMap.mpr ⟨t, ht, ?_⟩⟩, hin⟩
    rw [if_pos rfl]
    exact List.mem_map.mpr ⟨w, hw, rfl⟩

theorem mem_holdWindows (hx : start ≤ x ∧ x < finish)
    (hids : ∀ id ∈ therapistIds, parseUuid (uuidStr id) = some id) (ht : t ∈ therapistIds) :
    x ∈ covered (holdWindows therapistIds
        (fun t => getActiveHoldsForTherapistInRange t start finish now d) (uuidStr t)) ↔
      ∃ h ∈ d.temporaryHolds, h.therapistId = t ∧ now < h.expiresAt ∧
        h.appointmentStart ≤ x ∧ x < h.appointmentEnd := by
  unfold holdWindows getActiveHoldsForTherapistInRange
  rw [mem_covered]
  constructor
  · rintro ⟨iv, hiv, hin⟩
    obtain ⟨t', ht', hwindow⟩ := List.mem_flatMap.mp hiv
    split_ifs at hwindow with hkey
    · rw [uuidStr_injective (hids t' ht') (hids t ht) hkey] at hwindow
      obtain ⟨h, hh, rfl⟩ := List.mem_map.mp hwindow
      obtain ⟨hmem, hfilter⟩ := List.mem_filter.mp hh
      rw [decide_eq_true_eq] at hfilter
      exact ⟨h, hmem, hfilter.1, hfilter.2.2.2, hin⟩
    · cases hwindow
  · rintro ⟨h, hh, htherapist, hnow, hin⟩
    have hrange : HoldInRange start finish now h :=
      ⟨lt_of_le_of_lt hin.1 hx.2, lt_of_le_of_lt hx.1 hin.2, hnow⟩
    refine ⟨⟨h.appointmentStart, h.appointmentEnd⟩, List.mem_flatMap.mpr ⟨t, ht, ?_⟩, hin⟩
    rw [if_pos rfl]
    exact List.mem_map.mpr ⟨h, List.mem_filter.mpr ⟨hh, decide_eq_true ⟨htherapist, hrange⟩⟩, rfl⟩

variable {branch : Branch} {therapist : Therapist}

/-- What blocks the input of the engine takes some time. -/
theorem proper_scheduleInput (htime : TakesTime now d) :
    (scheduleInput branch (readBatch therapistIds start finish now d) therapist).Proper := by
  have hbookings : ∀ iv ∈ busyWindows therapistIds
      (getActiveBookingsForTherapistsInRange therapistIds start finish d) therapist.id,
      iv.start < iv.stop := by
    intro iv hiv
    obtain ⟨b, hb, hiv⟩ := List.mem_flatMap.mp hiv
    obtain ⟨t', -, hiv⟩ := List.mem_flatMap.mp hiv
    split_ifs at hiv
    · obtain ⟨w, hw, rfl⟩ := List.mem_map.mp hiv
      obtain ⟨hmem, hfilter⟩ := List.mem_filter.mp hb
      rw [decide_eq_true_eq] at hfilter
      exact htime.bookings b hmem hfilter.2.2.2 t' w hw
    · cases hiv
  have hholds : ∀ iv ∈ holdWindows therapistIds
      (fun t => getActiveHoldsForTherapistInRange t start finish now d) therapist.id,
      iv.start < iv.stop := by
    intro iv hiv
    obtain ⟨t', -, hiv⟩ := List.mem_flatMap.mp hiv
    split_ifs at hiv
    · obtain ⟨h, hh, rfl⟩ := List.mem_map.mp hiv
      obtain ⟨hmem, hfilter⟩ := List.mem_filter.mp hh
      rw [decide_eq_true_eq] at hfilter
      exact htime.holds h hmem hfilter.2.2.2
    · cases hiv
  intro iv hiv
  simp only [scheduleInput, List.nil_append, List.append_nil, List.mem_append] at hiv
  rcases hiv with hiv | hiv
  · exact (mergeIntervals_separated hbookings).nonempty iv hiv
  · exact (mergeIntervals_separated hholds).nonempty iv hiv

/-- The free time of a day in the range of the listing: working time in the hours of the branch in which
neither a booking nor a hold blocks the therapist. -/
theorem subset_freeIntervals_iff (hinside : SessionsInside d) (htime : TakesTime now d)
    {window : Interval Instant} (hwindow : start ≤ window.start ∧ window.stop ≤ finish)
    (hids : ∀ id ∈ therapistIds, parseUuid (uuidStr id) = some id) (ht : t ∈ therapistIds)
    (hid : therapist.id = uuidStr t) (hsf : s < f) :
    Set.Ico s f ⊆ covered (freeIntervals
        (scheduleInput branch (readBatch therapistIds start finish now d) therapist) window) ↔
      Set.Ico s f ⊆ points window ∧
        Set.Ico s f ⊆ covered (therapist.schedule.filterMap (workingInterval branch)) ∧
        ¬ BookedIn t s f d ∧ ¬ HeldIn t s f now d := by
  have hmem : ∀ x ∈ points window,
      (x ∈ covered (freeIntervals
          (scheduleInput branch (readBatch therapistIds start finish now d) therapist) window) ↔
        x ∈ covered (therapist.schedule.filterMap (workingInterval branch)) ∧
        (¬ ∃ b ∈ d.bookings, b.status ∉ nonBlockingBookingStatuses ∧
          ∃ w ∈ therapistBusyWindows b t, w.1 ≤ x ∧ x < w.2) ∧
        ¬ ∃ h ∈ d.temporaryHolds, h.therapistId = t ∧ now < h.expiresAt ∧
          h.appointmentStart ≤ x ∧ x < h.appointmentEnd) := by
    intro x hx
    have hrange : start ≤ x ∧ x < finish :=
      ⟨hwindow.1.trans hx.1, lt_of_lt_of_le hx.2 hwindow.2⟩
    rw [mem_freeIntervals (proper_scheduleInput htime)]
    simp only [scheduleInput, readBatch, List.append_nil, List.nil_append, covered_append,
      (mergeIntervals_spec _).2, hid, Set.mem_union, not_or, mem_holdWindows hrange hids ht,
      mem_busyWindows hinside hrange hids ht, hx, true_and]
  rw [bookedIn_iff htime hsf, heldIn_iff htime hsf]
  constructor
  · intro hsub
    have hin : Set.Ico s f ⊆ points window := fun x hx =>
      ((mem_freeIntervals (proper_scheduleInput htime)).mp (hsub hx)).1
    refine ⟨hin, fun x hx => ((hmem x (hin hx)).mp (hsub hx)).1, ?_, ?_⟩
    · rintro ⟨x, hsx, hxf, hbooked⟩
      exact ((hmem x (hin ⟨hsx, hxf⟩)).mp (hsub ⟨hsx, hxf⟩)).2.1 hbooked
    · rintro ⟨x, hsx, hxf, hheld⟩
      exact ((hmem x (hin ⟨hsx, hxf⟩)).mp (hsub ⟨hsx, hxf⟩)).2.2 hheld
  · rintro ⟨hin, hworking, hbooked, hheld⟩ x hx
    exact (hmem x (hin hx)).mpr ⟨hworking hx, fun h => hbooked ⟨x, hx.1, hx.2, h⟩,
      fun h => hheld ⟨x, hx.1, hx.2, h⟩⟩

end Input

/-! ## The listing -/

/-- The days of a request lie between its first and its last one. -/
theorem dates_between {today : ℤ} {n : ℕ} {date : ℤ}
    (h : date ∈ (List.range n).map fun i : ℕ => today + i) :
    ((List.range n).map fun i : ℕ => today + i).headD today ≤ date ∧
      date ≤ ((List.range n).map fun i : ℕ => today + i).getLastD today := by
  obtain ⟨i, hi, rfl⟩ := List.mem_map.mp h
  rw [List.mem_range] at hi
  obtain ⟨m, rfl⟩ : ∃ m, n = m + 1 := ⟨n - 1, by omega⟩
  have hlast : ((List.range (m + 1)).map fun i : ℕ => today + i).getLastD today = today + m := by
    rw [List.range_succ, List.map_append]
    simp
  have hfirst : ((List.range (m + 1)).map fun i : ℕ => today + i).headD today = today := by
    rw [List.range_succ_eq_map]
    simp
  rw [hlast, hfirst]
  omega

theorem midnight_mono (branch : Branch) {a b : ℤ} (h : a ≤ b) :
    branch.midnight a ≤ branch.midnight b :=
  sub_le_sub_right (mul_le_mul_of_nonneg_right h (by decide)) branch.utcOffset

/-- The listing of a therapist agrees with the checks on the days of the range. -/
theorem agreesWithChecks {catalog : Catalog} {therapist : Therapist} {therapistIds : List Uuid}
    {dates : List ℤ} {opening closing start finish : Instant} {slotMinutes : ℕ}
    (hinside : SessionsInside d) (htime : TakesTime now d) (hslot : 0 < slotMinutes)
    (hduration : 0 < catalog.durationMinutes) (hslots : slotMinutes ∣ catalog.durationMinutes)
    (hdates : ∀ date ∈ dates, start ≤ catalog.branch.midnight date + opening ∧
      catalog.branch.midnight date + closing ≤ finish)
    (hids : ∀ id ∈ therapistIds, parseUuid (uuidStr id) = some id) (ht : t ∈ therapistIds)
    (hid : therapist.id = uuidStr t) :
    AgreesWithChecks catalog slotMinutes now d opening closing therapist t
      ((Engine.mk catalog.durationMinutes slotMinutes).computeTherapistAvailability
        (scheduleInput catalog.branch (readBatch therapistIds start finish now d) therapist) dates
        catalog.branch.midnight opening closing) := by
  generalize hinput : scheduleInput catalog.branch (readBatch therapistIds start finish now d)
    therapist = input
  generalize hengine : Engine.mk catalog.durationMinutes slotMinutes = engine
  have hproper : input.Proper := hinput ▸ proper_scheduleInput htime
  -- what is offered on a day of the range
  have hoffered : ∀ day ∈ engine.computeTherapistAvailability input dates catalog.branch.midnight
      opening closing, ∀ s, (∃ block ∈ day.2.blocks, block.available ∧ block.start = s) ↔
        (∃ k : ℕ, s = catalog.branch.midnight day.1 + opening + k * minutes slotMinutes) ∧
          Set.Ico s (s + minutes catalog.durationMinutes) ⊆
            points (branchWindow catalog.branch.midnight opening closing day.1) ∧
          Set.Ico s (s + minutes catalog.durationMinutes) ⊆
            covered (therapist.schedule.filterMap (workingInterval catalog.branch)) ∧
          ¬ BookedIn t s (s + minutes catalog.durationMinutes) d ∧
          ¬ HeldIn t s (s + minutes catalog.durationMinutes) now d := by
    intro day hday s
    have hdate : day.1 ∈ dates := by
      obtain ⟨date, hdate, rfl⟩ := List.mem_map.mp hday
      exact hdate
    have hlt : s < s + minutes catalog.durationMinutes :=
      lt_add_of_pos_right s (minutes_pos hduration)
    rw [mem_computeTherapistAvailability hday, offered_iff hproper _ (by rw [← hengine]; exact hslot),
      ← hengine, needed_of_dvd hduration hslots, ← hinput,
      subset_freeIntervals_iff hinside htime (hdates day.1 hdate) hids ht hid hlt]
    rfl
  constructor
  · intro day hday block hblock havailable
    have hfree := (hoffered day hday block.start).mp ⟨block, hblock, havailable, rfl⟩
    exact (reportedFree_iff hinside).mpr hfree.2.2.2
  · intro day hday k s hs hclosing hworking hfree
    refine (hoffered day hday s).mpr ⟨⟨k, hs⟩, fun x hx => ?_, hworking, ?_, ?_⟩
    · refine ⟨?_, lt_of_lt_of_le hx.2 hclosing⟩
      refine le_trans ?_ hx.1
      rw [hs]
      exact le_add_of_nonneg_right (mul_nonneg (Int.natCast_nonneg k) (minutes_pos hslot).le)
    · intro hbooked
      exact hfree ((mem_getBusyTherapistIdsInRange hinside).mpr
        ⟨List.mem_singleton.mpr rfl, .inl hbooked⟩)
    · intro hheld
      exact hfree ((mem_getBusyTherapistIdsInRange hinside).mpr
        ⟨List.mem_singleton.mpr rfl, .inr hheld⟩)

theorem uuid_of_parse {therapist : Therapist} (h : parseUuid therapist.id = some t) :
    therapist.uuid = .ok t := by
  unfold Therapist.uuid
  rw [h]

/-- The listing of a request whose therapists have the ids `ids` to go by. -/
theorem getAvailability_eq {catalog : Catalog} {req : AvailabilityRequest} {slotMinutes : ℕ}
    {today : ℤ} {opening closing : Instant} (ids : Therapist → Uuid)
    (hopening : catalog.branch.openingTime = some opening)
    (hclosing : catalog.branch.closingTime = some closing)
    (hparse : ∀ t ∈ rawTherapists catalog req, parseUuid t.id = some (ids t)) :
    getAvailability catalog req slotMinutes today now d =
      .ok ((rawTherapists catalog req).map fun t => (t,
        (Engine.mk catalog.durationMinutes slotMinutes).computeTherapistAvailability
          (scheduleInput catalog.branch (readBatch ((rawTherapists catalog req).map ids)
            (catalog.branch.midnight
              (((List.range req.daysAhead).map fun n : ℕ => today + n).headD today) + opening)
            (catalog.branch.midnight
              (((List.range req.daysAhead).map fun n : ℕ => today + n).getLastD today) + closing)
            now d) t)
          ((List.range req.daysAhead).map fun n : ℕ => today + n) catalog.branch.midnight
          opening closing)) := by
  have hids : (rawTherapists catalog req).mapM (·.uuid) =
      .ok ((rawTherapists catalog req).map ids) :=
    Fallible.mapM_eq_ok_map fun t ht => uuid_of_parse (hparse t ht)
  unfold getAvailability
  rw [hopening, hclosing]
  by_cases hempty : rawTherapists catalog req = []
  · simp only [hempty, if_true, List.map_nil]
    rfl
  · simp only [hempty, if_false, hids]
    rfl

/-! ## A day of one therapist -/

/-- A branch that is open from ten to six on 1 March 2026, and its one therapist under the id `id`, who
works all day. -/
def openDay (durationMinutes : ℕ) (id : String) : Catalog where
  branch := { openingTime := some (minutes 600), closingTime := some (minutes 1080) }
  durationMinutes := durationMinutes
  therapist := fun _ =>
    { id := id
      schedule := [.obj [("start_datetime", .str "2026-03-01T10:00:00"),
        ("end_datetime", .str "2026-03-01T18:00:00")]] }
  therapistsForService := []

def oneDay : AvailabilityRequest := { therapistId := some 10, daysAhead := 1 }

def firstOfMarch : ℤ := daysFromEpoch 2026 3 1

/-- The instant so many minutes into the day. -/
def atMinute (n : ℕ) : Instant :=
  firstOfMarch * 86400000000 - DateTime.kuwaitOffset + minutes n

/-- A booking of the therapist, without sessions of its own. -/
def bookedFrom (start stop : ℕ) : Db where
  bookings := [
    { id := 1, customerId := 2, therapistId := 10, totalAmount := 0
      appointmentStart := atMinute start, appointmentEnd := atMinute stop }]

/-- A booking without sessions blocks its therapists for its own window. -/
theorem window_of_legacy (h : b.sessions = []) {w : Instant × Instant}
    (hw : w ∈ therapistBusyWindows b t) : w = (b.appointmentStart, b.appointmentEnd) := by
  unfold therapistBusyWindows at hw
  rw [if_neg (not_not.mpr h), List.mem_ite_nil_right] at hw
  exact List.mem_singleton.mp hw.2

/-! ## The agreement -/

/-- The days listed for the one therapist. -/
def listedDays (catalog : Catalog) (d : Db) : List (ℤ × DayAvailability) :=
  (Engine.mk catalog.durationMinutes 30).computeTherapistAvailability
    (scheduleInput catalog.branch (readBatch [10] (atMinute 600) (atMinute 1080) 0 d)
      (catalog.therapist 10)) [firstOfMarch] catalog.branch.midnight (minutes 600) (minutes 1080)

theorem agrees_of_listing {durationMinutes : ℕ} {id : String} (hid : parseUuid id = some 10)
    (h : ListingAgrees (openDay durationMinutes id) oneDay 30 firstOfMarch 0 d (minutes 600)
      (minutes 1080)) :
    AgreesWithChecks (openDay durationMinutes id) 30 0 d (minutes 600) (minutes 1080)
      ((openDay durationMinutes id).therapist 10) 10 (listedDays (openDay durationMinutes id) d) := by
  obtain ⟨listing, hlisting, -, hagrees⟩ := h
  rw [getAvailability_eq (fun _ => 10) rfl rfl] at hlisting
  · rw [← Except.ok.inj hlisting] at hagrees
    exact hagrees _ (List.mem_singleton_self _) 10 hid
  · intro therapist htherapist
    obtain rfl := List.mem_singleton.mp htherapist
    exact hid

/-- A start that is listed and that a booking overlaps shows that the two disagree. -/
theorem disagree_of_listed {durationMinutes : ℕ} {id : String} {s : Instant}
    (hid : parseUuid id = some 10)
    (hlisted : ∃ day ∈ listedDays (openDay durationMinutes id) d, ∃ block ∈ day.2.blocks,
      block.available ∧ block.start = s)
    (hfound : findTherapistOverlap 10 s (s + minutes durationMinutes) none d ≠ none) :
    ¬ ListingAgrees (openDay durationMinutes id) oneDay 30 firstOfMarch 0 d (minutes 600)
      (minutes 1080) := by
  intro h
  obtain ⟨day, hday, block, hblock, havailable, rfl⟩ := hlisted
  exact hfound ((agrees_of_listing hid h).offered day hday block hblock havailable).1

end Availability
