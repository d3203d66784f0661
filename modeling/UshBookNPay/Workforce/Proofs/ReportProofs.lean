import UshBookNPay.Booking.Proofs.ChangeProofs
import UshBookNPay.Booking.Proofs.UpdateProofs
import UshBookNPay.Booking.Proofs.WriterProofs
import UshBookNPay.Workforce.CompletedSessions

/-!
# Every session is reported once

The query of a day selects the bookings by their stored date, and then their sessions by their start.
Nothing is lost where the sessions of a booking start on its date, which updates keep that move the
sessions of a booking to one day.
-/

open Booking

namespace Workforce

variable {d : Db} {b row : BookingRow} {day : ℤ}

/-! ## The report of a day -/

/-- The day of a session decides between all of its entries and none. -/
theorem extractTherapistSessions_eq (b : BookingRow) (day : ℤ) :
    extractTherapistSessions b day =
      ((getBookingSessions b).filter (localDay ·.appointmentStart = day)).flatMap (sessionRows b) := by
  unfold extractTherapistSessions
  induction getBookingSessions b with
  | nil => rfl
  | cons s rest ih =>
    rw [List.flatMap_cons, ih]
    by_cases hday : localDay s.appointmentStart = day
    · rw [if_neg (not_not.mpr hday), List.filter_cons_of_pos (by simpa using hday), List.flatMap_cons]
    · rw [if_pos hday, List.filter_cons_of_neg (by simpa using hday), List.nil_append]

/-- The date of a booking falls into the day of the query when the booking starts on it. -/
theorem date_in_day (h : b.appointmentDate = localMidnight b.appointmentStart) :
    (day * 86400000000 - 10800000000 ≤ b.appointmentDate ∧
      b.appointmentDate < day * 86400000000 - 10800000000 + 86400000000) ↔
        localDay b.appointmentStart = day := by
  rw [h]
  unfold localMidnight
  generalize localDay b.appointmentStart = x
  constructor
  · rintro ⟨hle, hlt⟩
    linarith
  · rintro rfl
    exact ⟨le_rfl, by linarith⟩

theorem OnItsDay.getBookingSessions (h : OnItsDay b) {s : Session}
    (hs : s ∈ getBookingSessions b) : localDay s.appointmentStart = localDay b.appointmentStart := by
  by_cases hnil : b.sessions = []
  · rw [getBookingSessions_of_nil hnil, List.mem_singleton] at hs
    rw [hs]
    rfl
  · rw [getBookingSessions_of_stored hnil] at hs
    exact h.sessions s hs

/-- The induction is on the bookings: one that is not completed, or of another date, adds nothing. -/
theorem report_eq_work {bookings : List BookingRow} (h : ∀ b ∈ bookings, OnItsDay b) :
    ((bookings.filter fun b => b.status = .completed ∧
        day * 86400000000 - 10800000000 ≤ b.appointmentDate ∧
        b.appointmentDate < day * 86400000000 - 10800000000 + 86400000000).flatMap
      (extractTherapistSessions · day)) =
    (bookings.filter (·.status = .completed)).flatMap fun b =>
      ((getBookingSessions b).filter (localDay ·.appointmentStart = day)).flatMap (sessionRows b) := by
  induction bookings with
  | nil => rfl
  | cons b rest ih =>
    have hb : OnItsDay b := h b List.mem_cons_self
    have hrest := ih fun b' hb' => h b' (List.mem_cons_of_mem _ hb')
    by_cases hcompleted : b.status = .completed
    · rw [List.filter_cons_of_pos (p := fun b : BookingRow => b.status = .completed)
        (by simpa using hcompleted), List.flatMap_cons, ← hrest]
      by_cases hday : localDay b.appointmentStart = day
      · have hin := (date_in_day hb.date).mpr hday
        rw [List.filter_cons, if_pos (decide_eq_true ⟨hcompleted, hin⟩), List.flatMap_cons,
          extractTherapistSessions_eq]
      · have hout : ¬ _ := fun hin => hday ((date_in_day hb.date).mp hin)
        have hnone : (getBookingSessions b).filter (localDay ·.appointmentStart = day) = [] := by
          rw [List.filter_eq_nil_iff]
          intro s hs hs'
          apply hday
          rw [← hb.getBookingSessions hs]
          simpa using hs'
        rw [List.filter_cons_of_neg, hnone]
        · rfl
        · exact fun hpos => hout (of_decide_eq_true hpos).2
    · rw [List.filter_cons_of_neg, List.filter_cons_of_neg]
      · exact hrest
      · simpa using hcompleted
      · exact fun hpos => hcompleted (of_decide_eq_true hpos).1

/-- A session has one entry for each of its therapists. -/
theorem sessionRows_once (b : BookingRow) (s : Session) :
    ((sessionRows b s).map (·.therapistId)).Nodup ∧
      ∀ t, t ∈ (sessionRows b s).map (·.therapistId) ↔
        t = primaryOf b s ∨ s.secondaryTherapistId = some t := by
  unfold sessionRows
  cases hsecond : s.secondaryTherapistId with
  | none => simp [report]
  | some second =>
    by_cases heq : second = primaryOf b s
    · simp [report, heq, eq_comm]
    · simp [report, heq, eq_comm]

theorem reportsOnce_of_onItsDay (h : EveryBooking OnItsDay d) : ReportsOnce d where
  reported := fun _ => report_eq_work h
  once := fun b _ s _ => sessionRows_once b s

/-! ## The writers -/

theorem ofSchedule_onItsDay : OfSchedule OnItsDay := by
  intro b b' hsame h
  constructor
  · rw [hsame.appointmentDate, hsame.appointmentStart]
    exact h.date
  · rw [hsame.sessions, hsame.appointmentStart]
    exact h.sessions

theorem onItsDay_of_brings {first : Session} {rest : List Session} (h : Brings first rest b)
    (hvalid : Booking.Planned (first :: rest)) : OnItsDay b := by
  constructor
  · rw [h.appointmentDate, h.appointmentStart]
  · rw [h.sessions, h.appointmentStart]
    exact fun s hs => (hvalid.valid.day s hs).1

theorem onItsDay_of_changed {u : BookingRow} (h : Changed row u) (hrow : OnItsDay row) :
    OnItsDay u := by
  constructor
  · rw [h.appointmentDate, h.appointmentStart]
    exact hrow.date
  · intro s hs
    obtain ⟨s₀, hs₀, heq⟩ := h.work.mem hs
    have hstart : s₀.appointmentStart = s.appointmentStart := congrArg (·.appointmentStart) heq
    rw [← hstart, h.appointmentStart]
    exact hrow.getBookingSessions hs₀

/-- An update without sessions: none, one or several of them are stored. -/
theorem onItsDay_synchronized {args : UpdateArgs} (hnone : args.sessions = none)
    (hrow : OnItsDay row) (hk : KeepsDay args row) : OnItsDay (updatedColumns args row) := by
  rw [updatedColumns_of_none hnone]
  have hm : Moved args row (unsynced args row) := moved_unsynced hnone
  generalize unsynced args row = u at hm
  generalize (secondaryUpdate args (replacedRow args row)).given = given
  have hdate : u.appointmentDate = localMidnight u.appointmentStart := by
    rw [hm.appointmentDate]
    by_cases ht : TouchesTiming args (replacedRow args row)
    · rw [if_pos ht]
    · obtain ⟨-, -, hstart, -⟩ := not_touchesTiming ht
      rw [if_neg ht, hm.appointmentStart, hstart]
      exact hrow.date
  refine ⟨hdate, ?_⟩
  cases hs : row.sessions using List.bidirectionalRec with
  | nil =>
    rw [syncSessions_nil (hm.sessions.trans hs)]
    rintro s ⟨⟩
  | singleton s =>
    rw [syncSessions_single (hm.sessions.trans hs)]
    intro s' hs'
    rw [List.mem_singleton.mp hs']
    rfl
  | cons_append first mid last _ =>
    have hsessions : row.sessions = first :: (mid ++ [last]) := hs
    have hlen : 2 ≤ row.sessions.length := by
      rw [hsessions]
      simp
    -- each session is moved by as much as the booking
    have hmoved : ∀ s ∈ row.sessions, localDay (s.appointmentStart +
        (u.appointmentStart - row.appointmentStart)) = localDay u.appointmentStart := by
      intro s hs
      rw [hm.appointmentStart]
      cases hstart : args.appointmentStart with
      | none =>
        rw [Option.getD_none, sub_self, add_zero]
        exact hrow.sessions s hs
      | some start => exact hk hnone hlen s hs start hstart
    rw [syncSessions_several (hm.sessions.trans hsessions)]
    intro s hs
    rw [hsessions] at hmoved
    rcases List.mem_cons.mp hs with rfl | hs
    · have hstart : (assignTherapists given u first).appointmentStart = first.appointmentStart :=
        congrArg (·.appointmentStart) (assignTherapists_work given u first).1
      rw [moveSession_start, hstart]
      exact hmoved first List.mem_cons_self
    rcases List.mem_append.mp hs with hs | hs
    · obtain ⟨s₀, hs₀, rfl⟩ := List.mem_map.mp hs
      exact hmoved s₀ (List.mem_cons_of_mem _ (List.mem_append_left _ hs₀))
    · rw [List.mem_singleton.mp hs, extendSession_start, moveSession_start]
      exact hmoved last (List.mem_cons_of_mem _ (List.mem_append_right _ List.mem_cons_self))

theorem onItsDay_newBooking (args : CreateArgs) (id : Uuid) (bookingNumber : String)
    (h : args.sessions = []) : OnItsDay (newBooking args id bookingNumber) := by
  constructor
  · unfold newBooking
    cases args.services <;> rfl
  · rw [newBooking_sessions, h]
    rintro s ⟨⟩

/-! ## Runs -/

/-- The condition on the updates. -/
abbrev dayConditions : Conditions := { U := KeepsDay }

theorem onItsDay_step {x : BookingOp × (ℕ → Env)} (hd : EveryBooking OnItsDay d)
    (hx : dayConditions.Meets d x) : EveryBooking OnItsDay (bookingStep d x) := by
  refine everyBooking_step ofSchedule_onItsDay ?_ ?_ ?_ hd hx
  · intro plan args full hfull _ id bookingNumber
    rcases createArgs_cases hfull with hnil | ⟨first, rest, hplanned, rfl⟩
    · exact onItsDay_newBooking full id bookingNumber hnil
    · exact onItsDay_of_brings (brings_newBooking args id bookingNumber) hplanned
  · intro plan args full row hfull hrow hk
    rcases updateArgs_cases hfull with hnone | ⟨first, rest, hplanned, hsome⟩
    · exact onItsDay_synchronized hnone hrow hk
    · exact onItsDay_of_brings (brings_updatedColumns hsome) hplanned
  · intro sessionId args row hrow _
    exact onItsDay_of_changed changed_changedColumns hrow

/-- All along a run, from no bookings, whose updates move the sessions of a booking to one day, the
report of every day is the work of that day, and names every therapist of a session once. -/
theorem reports_once (ops : List (BookingOp × (ℕ → Env)))
    (h : Runs.AllSteps bookingStep dayConditions.Meets {} ops) :
    Runs.Always bookingStep ReportsOnce {} ops := by
  have hempty : EveryBooking OnItsDay {} := by
    rintro b ⟨⟩
  have hkept : Runs.Always bookingStep (EveryBooking OnItsDay) {} ops := by
    refine Runs.always_of_allSteps ?_ hempty h
    intro d x hd hx
    exact onItsDay_step hd hx
  exact hkept.mono fun _ hd => reportsOnce_of_onItsDay hd

/-- The sessions of ten and of fourteen o'clock are moved to the next day. -/
theorem reports_once_moved :
    let moved := updates { appointmentStart := some (minutes 1860) }
    Runs.Always bookingStep ReportsOnce {} [createsHours [7, 11], moved] :=
  reports_once _ (by decide +kernel)

/-- The sessions of ten and of twenty o'clock are moved by five hours: the second one is then after
midnight, and no day reports it. -/
theorem reports_drop :
    let ops := [createsHours [7, 17], updates { appointmentStart := some (minutes 720) },
      updates { status := some .completed }]
    ¬ Runs.Always bookingStep ReportsOnce {} ops ∧
      (workOn (Runs.run bookingStep {} ops) 1).length = 1 ∧
      completedSessions (Runs.run bookingStep {} ops) 1 = [] := by
  intro ops
  have hwork : (workOn (Runs.run bookingStep {} ops) 1).length = 1 := by decide +kernel
  have hreport : completedSessions (Runs.run bookingStep {} ops) 1 = [] := by decide +kernel
  refine ⟨fun h => ?_, hwork, hreport⟩
  rw [← h.last.reported 1, hreport] at hwork
  cases hwork

end Workforce
