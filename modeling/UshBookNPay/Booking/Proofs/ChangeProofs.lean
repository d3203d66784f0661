import UshBookNPay.Booking.CreateBooking
import UshBookNPay.Booking.Proofs.SessionProofs

/-!
# The columns of a booking whose session changes its therapist

`change_session_therapist` stores the sessions with other therapists and nothing else changed, and the
therapist columns are those of the first session.
-/

namespace Booking

variable {args : ChangeArgs} {row : BookingRow} {sessionId : Uuid}

theorem changeTherapists_work (args : ChangeArgs) (s : Session) :
    withoutTherapists (changeTherapists args s) = withoutTherapists s ∧
      (s.therapistId ≠ none → (changeTherapists args s).therapistId ≠ none) := by
  unfold changeTherapists
  cases args.therapistId with
  | none =>
    dsimp only
    split_ifs
    · exact ⟨rfl, fun h => h⟩
    · exact ⟨rfl, fun h => h⟩
  | some t =>
    dsimp only
    split_ifs
    · exact ⟨rfl, fun _ => Option.some_ne_none _⟩
    · exact ⟨rfl, fun _ => Option.some_ne_none _⟩

theorem changeSession_work (sessionId : Uuid) (args : ChangeArgs) (l : List Session) :
    SameWork l (changeSession sessionId (changeTherapists args) l) ∧
      ((∀ s ∈ l, s.therapistId ≠ none) →
        ∀ s ∈ changeSession sessionId (changeTherapists args) l, s.therapistId ≠ none) := by
  induction l with
  | nil => exact ⟨rfl, fun h => h⟩
  | cons s rest ih =>
    obtain ⟨hwork, hkeep⟩ := changeTherapists_work args s
    obtain ⟨hrest, hkeeps⟩ := ih
    unfold changeSession SameWork
    split_ifs
    · refine ⟨?_, fun h => ?_⟩
      · rw [List.map_cons, List.map_cons, hwork]
      · intro s' hs'
        rcases List.mem_cons.mp hs' with rfl | hs'
        · exact hkeep (h s List.mem_cons_self)
        · exact h s' (List.mem_cons_of_mem _ hs')
    · refine ⟨?_, fun h => ?_⟩
      · rw [List.map_cons, List.map_cons, hrest]
      · intro s' hs'
        rcases List.mem_cons.mp hs' with rfl | hs'
        · exact h s' List.mem_cons_self
        · exact hkeeps (fun s'' h'' => h s'' (List.mem_cons_of_mem _ h'')) s' hs'

theorem changeSession_head (sessionId : Uuid) (args : ChangeArgs) (l : List Session)
    (h : ∀ s ∈ l.head?, s.therapistId ≠ none) :
    ∀ s ∈ (changeSession sessionId (changeTherapists args) l).head?, s.therapistId ≠ none := by
  cases l with
  | nil => exact h
  | cons s rest =>
    unfold changeSession
    split_ifs
    · rintro s' ⟨rfl⟩
      exact (changeTherapists_work args s).2 (h s rfl)
    · exact h

theorem getBookingSessions_ne_nil (b : BookingRow) : getBookingSessions b ≠ [] := by
  unfold getBookingSessions
  split_ifs with h
  · exact h
  · exact List.cons_ne_nil _ _

/-- What a change of therapist leaves in the columns of the schedule. -/
structure Changed (row u : BookingRow) : Prop where
  work : SameWork (getBookingSessions row) u.sessions
  therapists : (∀ s ∈ getBookingSessions row, s.therapistId ≠ none) →
    ∀ s ∈ u.sessions, s.therapistId ≠ none
  therapistId : (∀ s ∈ (getBookingSessions row).head?, s.therapistId ≠ none) →
    ∀ s ∈ u.sessions.head?, some u.therapistId = s.therapistId
  secondaryTherapistId : ∀ s ∈ u.sessions.head?, u.secondaryTherapistId = s.secondaryTherapistId
  services : u.services = row.services
  addons : u.addons = row.addons
  appointmentDate : u.appointmentDate = row.appointmentDate
  appointmentStart : u.appointmentStart = row.appointmentStart
  appointmentEnd : u.appointmentEnd = row.appointmentEnd
  durationMinutes : u.durationMinutes = row.durationMinutes
  extraMinutes : u.extraMinutes = row.extraMinutes
  addonsDuration : u.addonsDuration = row.addonsDuration
  totalDuration : u.totalDuration = row.totalDuration

theorem changed_changedColumns : Changed row (changedColumns sessionId args row) := by
  obtain ⟨hwork, hkeep⟩ := changeSession_work sessionId args (getBookingSessions row)
  have hhead := changeSession_head sessionId args (getBookingSessions row)
  unfold changedColumns
  cases hl : changeSession sessionId (changeTherapists args) (getBookingSessions row) with
  | nil =>
    rw [hl] at hwork
    exact absurd (List.map_eq_nil_iff.mp hwork.symm) (getBookingSessions_ne_nil row)
  | cons first rest =>
    rw [hl] at hwork hkeep hhead
    refine ⟨hwork, hkeep, ?_, ?_, rfl, rfl, rfl, rfl, rfl, rfl, rfl, rfl, rfl⟩
    · intro hbefore s hs
      cases hs
      cases htherapist : first.therapistId with
      | none => exact absurd htherapist (hhead hbefore first rfl)
      | some t =>
        show some (first.therapistId.getD row.therapistId) = some t
        rw [htherapist]
        rfl
    · intro s hs
      cases hs
      rfl

/-- The sessions of a booking that stores them. -/
theorem getBookingSessions_of_stored {b : BookingRow} (h : b.sessions ≠ []) :
    getBookingSessions b = b.sessions := by
  unfold getBookingSessions
  rw [if_pos h]

theorem getBookingSessions_of_nil {b : BookingRow} (h : b.sessions = []) :
    getBookingSessions b = [sessionFromBooking b] := by
  unfold getBookingSessions
  rw [if_neg (not_not.mpr h)]

end Booking
