import UshBookNPay.Booking.Repository

/-!
# What the overlap queries find

Where the sessions of the stored bookings lie in the windows of these, the filter of the queries drops
no booking with a busy window that overlaps the range.
-/

namespace Booking

variable {b : BookingRow} {d : Db} {t : Uuid} {s f now : Instant}

/-- A therapist with a busy window is one the booking mentions. -/
theorem involved_of_window {w : Instant × Instant} (hw : w ∈ therapistBusyWindows b t) :
    TherapistInvolved b t := by
  unfold therapistBusyWindows at hw
  split_ifs at hw with hs ht
  · obtain ⟨s, hmem, -⟩ := List.mem_map.mp hw
    rw [List.mem_filter] at hmem
    have hserves : Serves s t := by simpa using hmem.2
    refine .inr (.inr ⟨s, hmem.1, ?_⟩)
    rcases hserves with h | h <;> simp [mentionedIds, h]
  · rcases ht with h | h
    · exact .inl h
    · exact .inr (.inl h)
  · cases hw

/-- The busy windows lie in the window of the booking where its sessions do. -/
theorem window_inside {w : Instant × Instant}
    (hinside : ∀ s ∈ b.sessions,
      b.appointmentStart ≤ s.appointmentStart ∧ s.appointmentEnd ≤ b.appointmentEnd)
    (hw : w ∈ therapistBusyWindows b t) :
    b.appointmentStart ≤ w.1 ∧ w.2 ≤ b.appointmentEnd := by
  unfold therapistBusyWindows at hw
  split_ifs at hw
  · obtain ⟨s, hmem, rfl⟩ := List.mem_map.mp hw
    exact hinside s (List.mem_filter.mp hmem).1
  · rw [List.mem_singleton.mp hw]
    exact ⟨le_rfl, le_rfl⟩
  · cases hw

/-- The filter of a query drops no booking that has the therapist busy. -/
theorem found_of_overlap (hinside : SessionsInside d) (hb : b ∈ d.bookings)
    (hstatus : b.status ∉ nonBlockingBookingStatuses) (hover : OverlapsPerSession t s f b) :
    PreFilter t s f b := by
  obtain ⟨w, hw, hlt, hgt⟩ := hover
  obtain ⟨hstart, hend⟩ := window_inside (hinside b hb) hw
  exact ⟨involved_of_window hw, lt_of_le_of_lt hstart hlt, lt_of_lt_of_le hgt hend, hstatus⟩

theorem findTherapistOverlap_eq_none_iff (hinside : SessionsInside d) :
    findTherapistOverlap t s f none d = none ↔ ¬ BookedIn t s f d := by
  unfold findTherapistOverlap BookedIn
  rw [List.find?_eq_none]
  constructor
  · rintro h ⟨b, hb, hstatus, hover⟩
    have hnot := h b hb
    simp only [decide_eq_true_eq] at hnot
    exact hnot ⟨found_of_overlap hinside hb hstatus hover, by simp, hover⟩
  · intro h b hb hfound
    simp only [decide_eq_true_eq] at hfound
    exact h ⟨b, hb, hfound.1.2.2.2, hfound.2.2⟩

theorem mem_getBusyTherapistIdsInRange (hinside : SessionsInside d) {therapistIds : List Uuid} :
    t ∈ getBusyTherapistIdsInRange therapistIds s f now d ↔
      t ∈ therapistIds ∧ (BookedIn t s f d ∨ HeldIn t s f now d) := by
  unfold getBusyTherapistIdsInRange
  rw [List.mem_filter, decide_eq_true_eq]
  refine and_congr_right fun ht => or_congr ?_ Iff.rfl
  constructor
  · rintro ⟨b, hb, hfilter, hover⟩
    exact ⟨b, hb, hfilter.2.2.2, hover⟩
  · rintro ⟨b, hb, hstatus, hover⟩
    obtain ⟨hinvolved, hwindow⟩ := found_of_overlap hinside hb hstatus hover
    exact ⟨b, hb, ⟨⟨t, ht, hinvolved⟩, hwindow⟩, hover⟩

end Booking
