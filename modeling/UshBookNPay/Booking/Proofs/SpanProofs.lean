import UshBookNPay.Booking.Proofs.ChangeProofs
import UshBookNPay.Booking.Proofs.OverlapProofs
import UshBookNPay.Booking.Proofs.UpdateProofs
import UshBookNPay.Booking.Proofs.WriterProofs

/-!
# The window of a booking

The window of a booking is that of its sessions where every update that moves several sessions names
the total duration they make. The invariant carries the order of the sessions along: in ordered
sessions the first start is the least and the last end the greatest.
-/

namespace Booking

/-! ## The invariant -/

/-- The sessions follow one another, none ending before its start. -/
structure InOrder (l : List Session) : Prop where
  follow : l.Pairwise fun s s' => s.appointmentEnd ≤ s'.appointmentStart
  window : ∀ s ∈ l, s.appointmentStart ≤ s.appointmentEnd

/-- The window of the booking is that from the first start to the last end, and several sessions are in
order. -/
structure SpanKept (b : BookingRow) : Prop where
  first : ∀ s ∈ b.sessions.head?, b.appointmentStart = s.appointmentStart
  last : ∀ s ∈ b.sessions.getLast?, b.appointmentEnd = s.appointmentEnd
  ordered : 2 ≤ b.sessions.length → InOrder b.sessions

theorem ofSchedule_spanKept : OfSchedule SpanKept := by
  intro b b' hsame h
  constructor
  · rw [hsame.sessions, hsame.appointmentStart]
    exact h.first
  · rw [hsame.sessions, hsame.appointmentEnd]
    exact h.last
  · rw [hsame.sessions]
    exact h.ordered

variable {b row : BookingRow}

theorem InOrder.first_le {l : List Session} (h : InOrder l) {first s : Session}
    (hfirst : first ∈ l.head?) (hs : s ∈ l) : first.appointmentStart ≤ s.appointmentStart := by
  cases l with
  | nil => cases hs
  | cons s₀ rest =>
    cases hfirst
    rcases List.mem_cons.mp hs with rfl | hs
    · exact le_rfl
    · calc first.appointmentStart ≤ first.appointmentEnd := h.window first List.mem_cons_self
        _ ≤ s.appointmentStart := (List.pairwise_cons.mp h.follow).1 s hs

theorem InOrder.le_last {l : List Session} (h : InOrder l) {last s : Session}
    (hlast : last ∈ l.getLast?) (hs : s ∈ l) : s.appointmentEnd ≤ last.appointmentEnd := by
  obtain ⟨init, rfl⟩ := List.getLast?_eq_some_iff.mp hlast
  rcases List.mem_append.mp hs with hs | hs
  · have hfollow : s.appointmentEnd ≤ last.appointmentStart :=
      (List.pairwise_append.mp h.follow).2.2 s hs last List.mem_cons_self
    exact hfollow.trans (h.window last (List.mem_append_right _ List.mem_cons_self))
  · rw [List.mem_singleton.mp hs]

/-- Every session lies in the window. -/
theorem SpanKept.inside (h : SpanKept b) {s : Session} (hs : s ∈ b.sessions) :
    b.appointmentStart ≤ s.appointmentStart ∧ s.appointmentEnd ≤ b.appointmentEnd := by
  have hne : b.sessions ≠ [] := List.ne_nil_of_mem hs
  obtain ⟨first, hfirst⟩ : ∃ first, first ∈ b.sessions.head? :=
    ⟨_, List.head?_eq_some_head hne⟩
  obtain ⟨last, hlast⟩ : ∃ last, last ∈ b.sessions.getLast? :=
    ⟨_, List.getLast?_eq_some_getLast hne⟩
  rw [h.first first hfirst, h.last last hlast]
  by_cases hlen : 2 ≤ b.sessions.length
  · exact ⟨(h.ordered hlen).first_le hfirst hs, (h.ordered hlen).le_last hlast hs⟩
  · have hone : b.sessions.length = 1 := by
      have := List.length_pos_iff.mpr hne
      omega
    obtain ⟨s₀, hs₀⟩ := List.length_eq_one_iff.mp hone
    rw [hs₀] at hs hfirst hlast
    cases hfirst
    cases hlast
    rw [List.mem_singleton.mp hs]
    exact ⟨le_rfl, le_rfl⟩

theorem SpanKept.fits (h : SpanKept b) : SpanFits b where
  inside := fun s hs => h.inside hs
  first := fun hne =>
    ⟨b.sessions.head hne, List.head_mem hne, (h.first _ (List.head?_eq_some_head hne)).symm⟩
  last := fun hne =>
    ⟨b.sessions.getLast hne, List.getLast_mem hne,
      (h.last _ (List.getLast?_eq_some_getLast hne)).symm⟩
  found := by
    intro hstatus t start finish hover
    obtain ⟨w, hw, hlt, hgt⟩ := hover
    have hin := window_inside (fun s hs => h.inside hs) hw
    exact ⟨involved_of_window hw, lt_of_le_of_lt hin.1 hlt, lt_of_lt_of_le hgt hin.2, hstatus⟩

/-! ## The writers -/

theorem Valid.inOrder {n : ℕ} {l : List Session} (h : Valid n l) : InOrder l :=
  ⟨h.ordered, fun s hs => le_of_lt (h.window s hs)⟩

theorem Brings.spanKept {first : Session} {rest : List Session} (h : Brings first rest b)
    (horder : InOrder (first :: rest)) : SpanKept b where
  first := by
    rw [h.sessions]
    rintro s ⟨rfl⟩
    exact h.appointmentStart
  last := by
    rw [h.sessions, List.getLast?_eq_some_getLast (List.cons_ne_nil _ _)]
    rintro s ⟨rfl⟩
    exact h.appointmentEnd
  ordered := fun _ => by
    rw [h.sessions]
    exact horder

theorem SameWork.inOrder {l l' : List Session} (h : SameWork l l') (horder : InOrder l) :
    InOrder l' := by
  constructor
  · rw [pairwise_ordered_iff, h.map _ fun _ => rfl, ← pairwise_ordered_iff]
    exact horder.follow
  · intro s hs
    obtain ⟨s₀, hs₀, heq⟩ := h.mem hs
    have hstart : s₀.appointmentStart = s.appointmentStart := congrArg (·.appointmentStart) heq
    have hend : s₀.appointmentEnd = s.appointmentEnd := congrArg (·.appointmentEnd) heq
    rw [← hstart, ← hend]
    exact horder.window s₀ hs₀

theorem Changed.spanKept {u : BookingRow} (h : Changed row u) (hrow : SpanKept row) :
    SpanKept u := by
  have hbefore : (∀ s ∈ (getBookingSessions row).head?, row.appointmentStart = s.appointmentStart) ∧
      (∀ s ∈ (getBookingSessions row).getLast?, row.appointmentEnd = s.appointmentEnd) ∧
      (2 ≤ (getBookingSessions row).length → InOrder (getBookingSessions row)) := by
    by_cases hs : row.sessions = []
    · rw [getBookingSessions_of_nil hs]
      refine ⟨?_, ?_, fun hlen => ?_⟩
      · rintro s ⟨rfl⟩
        rfl
      · rintro s ⟨rfl⟩
        rfl
      · simp at hlen
    · rw [getBookingSessions_of_stored hs]
      exact ⟨hrow.first, hrow.last, hrow.ordered⟩
  obtain ⟨hfirst, hlast, hordered⟩ := hbefore
  have hstarts := h.work.map (·.appointmentStart) fun _ => rfl
  have hends := h.work.map (·.appointmentEnd) fun _ => rfl
  constructor
  · intro s hs
    have hhead := congrArg List.head? hstarts
    rw [List.head?_map, List.head?_map, Option.mem_def.mp hs, Option.map_some] at hhead
    obtain ⟨s₀, hs₀, heq⟩ := Option.map_eq_some_iff.mp hhead.symm
    rw [h.appointmentStart, hfirst s₀ hs₀, heq]
  · intro s hs
    have hhead := congrArg List.getLast? hends
    rw [List.getLast?_map, List.getLast?_map, Option.mem_def.mp hs, Option.map_some] at hhead
    obtain ⟨s₀, hs₀, heq⟩ := Option.map_eq_some_iff.mp hhead.symm
    rw [h.appointmentEnd, hlast s₀ hs₀, heq]
  · intro hlen
    have hlength : u.sessions.length = (getBookingSessions row).length := by
      simpa using congrArg List.length h.work
    exact h.work.inOrder (hordered (hlength ▸ hlen))

theorem getLast?_several (first last : Session) (mid : List Session) :
    (first :: (mid ++ [last])).getLast? = some last := by
  rw [← List.cons_append, List.getLast?_concat]

/-- Sessions moved together stay in order, where the last one keeps its window. -/
theorem InOrder.shift {first first' last : Session} {mid : List Session} {delta : Instant} {diff : ℤ}
    {price : Fils} (h : InOrder (first :: (mid ++ [last])))
    (hfirst : withoutTherapists first' = withoutTherapists first)
    (hlast : last.appointmentStart ≤ last.appointmentEnd + minutes diff) :
    InOrder (moveSession delta first' :: (mid.map (moveSession delta) ++
      [extendSession diff price (moveSession delta last)])) := by
  have hstart : first'.appointmentStart = first.appointmentStart :=
    congrArg (·.appointmentStart) hfirst
  have hend : first'.appointmentEnd = first.appointmentEnd := congrArg (·.appointmentEnd) hfirst
  obtain ⟨hfollow, hwindow⟩ := h
  rw [List.pairwise_cons, List.pairwise_append] at hfollow
  obtain ⟨hafter, hmid, -, hbefore⟩ := hfollow
  constructor
  · rw [List.pairwise_cons, List.pairwise_append]
    refine ⟨?_, ?_, List.pairwise_singleton _ _, ?_⟩
    · intro s hs
      rcases List.mem_append.mp hs with hs | hs
      · obtain ⟨s₀, hs₀, rfl⟩ := List.mem_map.mp hs
        have := hafter s₀ (List.mem_append_left _ hs₀)
        rw [moveSession_end, moveSession_start, hend]
        exact Int.add_le_add_right this delta
      · rw [List.mem_singleton.mp hs]
        have := hafter last (List.mem_append_right _ List.mem_cons_self)
        rw [moveSession_end, extendSession_start, moveSession_start, hend]
        exact Int.add_le_add_right this delta
    · rw [List.pairwise_map]
      exact hmid.imp fun hle => Int.add_le_add_right hle delta
    · intro s hs s' hs'
      obtain ⟨s₀, hs₀, rfl⟩ := List.mem_map.mp hs
      rw [List.mem_singleton.mp hs', moveSession_end, extendSession_start, moveSession_start]
      exact Int.add_le_add_right (hbefore s₀ hs₀ last List.mem_cons_self) delta
  · intro s hs
    rcases List.mem_cons.mp hs with rfl | hs
    · rw [moveSession_end, moveSession_start, hend, hstart]
      exact Int.add_le_add_right (hwindow first List.mem_cons_self) delta
    rcases List.mem_append.mp hs with hs | hs
    · obtain ⟨s₀, hs₀, rfl⟩ := List.mem_map.mp hs
      have hmem : s₀ ∈ first :: (mid ++ [last]) :=
        List.mem_cons_of_mem _ (List.mem_append_left _ hs₀)
      exact Int.add_le_add_right (hwindow s₀ hmem) delta
    · rw [List.mem_singleton.mp hs, extendSession_start, extendSession_end, moveSession_start,
        moveSession_end, add_right_comm]
      exact Int.add_le_add_right hlast delta

/-- An update without sessions: none, one or several of them are stored. -/
theorem spanKept_synchronized {args : UpdateArgs} (hnone : args.sessions = none)
    (hrow : SpanKept row) (hk : KeepsSpan args row) : SpanKept (updatedColumns args row) := by
  rw [updatedColumns_of_none hnone]
  have hm : Moved args row (unsynced args row) := moved_unsynced hnone
  generalize unsynced args row = u at hm
  generalize hgiven : (secondaryUpdate args (replacedRow args row)).given = given
  cases hs : row.sessions using List.bidirectionalRec with
  | nil =>
    rw [syncSessions_nil (hm.sessions.trans hs)]
    exact ⟨fun _ h => (by cases h), fun _ h => (by cases h), fun h => absurd h (by simp)⟩
  | singleton s =>
    rw [syncSessions_single (hm.sessions.trans hs)]
    refine ⟨?_, ?_, fun h => absurd h (by simp)⟩
    · rintro s' ⟨rfl⟩
      rfl
    · rintro s' ⟨rfl⟩
      rfl
  | cons_append first mid last _ =>
    have hsessions : row.sessions = first :: (mid ++ [last]) := hs
    have hlen : 2 ≤ row.sessions.length := by
      rw [hsessions]
      simp
    have hlastmem : last ∈ row.sessions.getLast? := by
      rw [hsessions]
      exact getLast?_several first last mid
    have hfirst : row.appointmentStart = first.appointmentStart :=
      hrow.first first (by rw [hsessions]; rfl)
    have hlast : row.appointmentEnd = last.appointmentEnd := hrow.last last hlastmem
    have hextra : u.extraMinutes - row.extraMinutes = extraDiff args row := by
      rw [hm.extraMinutes]
      rfl
    rw [syncSessions_several (hm.sessions.trans hsessions), hextra]
    have horder := hrow.ordered hlen
    rw [hsessions] at horder
    obtain ⟨hwork, -⟩ := assignTherapists_work given u first
    have hlastwindow : last.appointmentStart ≤ last.appointmentEnd + minutes (extraDiff args row) ∧
        u.appointmentEnd = last.appointmentEnd +
          (u.appointmentStart - row.appointmentStart) + minutes (extraDiff args row) := by
      by_cases ht : TouchesTiming args (replacedRow args row)
      · obtain ⟨hle, htotal⟩ := hk hnone hlen ht last hlastmem
        refine ⟨hle, ?_⟩
        rw [hm.appointmentEnd, if_pos ht]
        linarith
      · obtain ⟨-, -, hnostart, hnoextra⟩ := not_touchesTiming ht
        have hdiff : extraDiff args row = 0 := by
          unfold extraDiff targetExtra
          rw [hnoextra]
          exact sub_self _
        have hstart : u.appointmentStart = row.appointmentStart := by
          rw [hm.appointmentStart, hnostart]
          rfl
        rw [hdiff, minutes_zero, add_zero, add_zero, hm.appointmentEnd, if_neg ht, hstart, sub_self,
          add_zero]
        exact ⟨horder.window last (by simp), hlast⟩
    obtain ⟨hle, hend⟩ := hlastwindow
    refine ⟨?_, ?_, fun _ => horder.shift hwork hle⟩
    · rintro s ⟨rfl⟩
      have hstart : (assignTherapists given u first).appointmentStart = first.appointmentStart :=
        congrArg (·.appointmentStart) hwork
      rw [moveSession_start, hstart, ← hfirst]
      exact (add_sub_cancel _ _).symm
    · intro s hlast'
      rw [getLast?_several] at hlast'
      cases hlast'
      rw [extendSession_end, moveSession_end]
      exact hend

theorem spanKept_of_no_sessions (h : b.sessions = []) : SpanKept b := by
  constructor
  · rw [h]
    rintro s ⟨⟩
  · rw [h]
    rintro s ⟨⟩
  · rw [h]
    exact fun hlen => absurd hlen (by simp)

/-! ## Runs -/

/-- The condition on the updates. -/
abbrev spanConditions : Conditions := { U := KeepsSpan }

theorem spanKept_step {d : Db} {x : BookingOp × (ℕ → Env)} (hd : EveryBooking SpanKept d)
    (hx : spanConditions.Meets d x) : EveryBooking SpanKept (bookingStep d x) := by
  refine everyBooking_step ofSchedule_spanKept ?_ ?_ ?_ hd hx
  · intro plan args full hfull _ id bookingNumber
    rcases createArgs_cases hfull with hnil | ⟨first, rest, hplanned, rfl⟩
    · apply spanKept_of_no_sessions
      rw [newBooking_sessions, hnil]
    · exact (brings_newBooking args id bookingNumber).spanKept hplanned.valid.inOrder
  · intro plan args full row hfull hrow hk
    rcases updateArgs_cases hfull with hnone | ⟨first, rest, hplanned, hsome⟩
    · exact spanKept_synchronized hnone hrow hk
    · exact (brings_updatedColumns hsome).spanKept hplanned.valid.inOrder
  · intro sessionId args row hrow _
    exact changed_changedColumns.spanKept hrow

/-- All along a run, from no bookings, whose updates name the total duration their sessions make, the
window of every booking is that of its sessions, and the filter of the overlap queries drops none. -/
theorem span_fits (ops : List (BookingOp × (ℕ → Env)))
    (h : Runs.AllSteps bookingStep spanConditions.Meets {} ops) :
    Runs.Always bookingStep (EveryBooking SpanFits) {} ops := by
  have hempty : EveryBooking SpanKept {} := by
    rintro b ⟨⟩
  have hkept : Runs.Always bookingStep (EveryBooking SpanKept) {} ops := by
    refine Runs.always_of_allSteps ?_ hempty h
    intro d x hd hx
    exact spanKept_step hd hx
  exact hkept.mono fun _ hd b hb => (hd b hb).fits

/-- Two sessions with a gap are moved by an hour, with the time from the first start to the last end as
their total duration. -/
theorem span_fits_moved :
    let moved := updates { appointmentStart := some (minutes 480), totalDuration := some 300 }
    Runs.Always bookingStep (EveryBooking SpanFits) {} [createsHours [7, 11], moved] :=
  span_fits _ (by decide +kernel)

/-- With another therapist alone the window ends after the durations of the two sessions, before the
second one starts: the query for the therapist of that session does not find it. -/
theorem span_cut :
    let ops := [createsHours [7, 11], updates { therapistId := some 5 }]
    ¬ Runs.Always bookingStep (EveryBooking SpanFits) {} ops ∧
      findTherapistOverlap 2 (minutes 660) (minutes 720) none (Runs.run bookingStep {} ops) = none ∧
      ∃ b ∈ (Runs.run bookingStep {} ops).bookings,
        OverlapsPerSession 2 (minutes 660) (minutes 720) b := by
  intro ops
  have hcut : ∃ b ∈ (Runs.run bookingStep {} ops).bookings, ∃ s ∈ b.sessions,
      b.appointmentEnd < s.appointmentEnd := by decide +kernel
  refine ⟨fun h => ?_, by decide +kernel, by decide +kernel⟩
  obtain ⟨b, hb, s, hs, hlt⟩ := hcut
  exact absurd ((h.last b hb).inside s hs).2 (not_le.mpr hlt)

end Booking
