import UshBookNPay.Booking.Proofs.TotalsProofs

/-!
# What a change of therapist moves

`change_session_therapist` gives one session of a booking other therapists. What the booking keeps busy,
the columns that follow the first session and the hold of the session change with it, and nothing else.
-/

open Transactions
open Transactions.Prog (query update raiseIf ask emit forSome)

namespace Booking

variable {row b : BookingRow} {target s : Session} {args : ChangeArgs} {sessionId bookingId : Uuid}
  {d : Db} {es : List Emission}

/-! ## What is to move -/

def windowOf (s : Session) : Instant × Instant := (s.appointmentStart, s.appointmentEnd)

/-- Two therapists of a session are not one. -/
def TherapistsDiffer (s : Session) : Prop := ∀ t, s.therapistId = some t → s.secondaryTherapistId ≠ some t

/-- The hold of a session of a booking. -/
def HoldOf (bookingId : Uuid) (s : Session) (h : TemporaryHoldRow) : Prop :=
  h.bookingId = bookingId ∧ some h.therapistId = s.therapistId ∧ h.appointmentStart = s.appointmentStart

instance (bookingId : Uuid) (s : Session) (h : TemporaryHoldRow) : Decidable (HoldOf bookingId s h) :=
  inferInstanceAs (Decidable (_ ∧ _))

/-- The hold with the first therapist a session has got. -/
def followHold (bookingId : Uuid) (args : ChangeArgs) (target : Session) (h : TemporaryHoldRow) :
    TemporaryHoldRow :=
  if HoldOf bookingId target h then { h with therapistId := (newPrimary args target).getD h.therapistId }
  else h

/-- The booking with the therapists of the first of the sessions, and no other column changed. -/
structure ColumnsFollow (row b : BookingRow) : Prop where
  first : b.sessions.head?.map (·.therapistId) = some (some b.therapistId) ∧
    b.sessions.head?.map (·.secondaryTherapistId) = some b.secondaryTherapistId
  others : ∃ a, b = BookingRow.setAttribution
    { row with
      sessions := b.sessions
      therapistId := b.therapistId
      therapistData := b.therapistData
      secondaryTherapistId := b.secondaryTherapistId
      secondaryTherapistData := b.secondaryTherapistData } a

/-- The session `target`, between the sessions `before` and `after` it, has got its new therapists. -/
structure TherapistMoved (args : ChangeArgs) (d d' : Db) (row b : BookingRow) (before : List Session)
    (target : Session) (after : List Session) : Prop where
  stored : Table.get d'.bookings row.id = some b
  rows : ∀ k ≠ row.id, Table.get d'.bookings k = Table.get d.bookings k
  columns : ColumnsFollow row b
  sessions : b.sessions = before ++ changeTherapists args target :: after
  work : withoutTherapists (changeTherapists args target) = withoutTherapists target
  busyBefore : ∀ t w, w ∈ therapistBusyWindows row t ↔
    (∃ s ∈ before ++ after, Serves s t ∧ w = windowOf s) ∨ Serves target t ∧ w = windowOf target
  busyAfter : ∀ t w, w ∈ therapistBusyWindows b t ↔
    (∃ s ∈ before ++ after, Serves s t ∧ w = windowOf s) ∨
      (newPrimary args target = some t ∨ newSecondary args target = some t) ∧ w = windowOf target
  holds : d'.temporaryHolds = d.temporaryHolds.map (followHold row.id args target)
  differ : TherapistsDiffer (changeTherapists args target)
  differEach : (∀ s ∈ b.sessions, TherapistsDiffer s) ↔ ∀ s ∈ before ++ after, TherapistsDiffer s

/-! ## The session -/

theorem changeTherapists_spec (args : ChangeArgs) (s : Session) :
    (changeTherapists args s).therapistId = newPrimary args s ∧
      (changeTherapists args s).secondaryTherapistId = newSecondary args s ∧
      withoutTherapists (changeTherapists args s) = withoutTherapists s := by
  unfold changeTherapists newPrimary newSecondary
  cases args.therapistId with
  | none =>
    dsimp only
    split_ifs
    · exact ⟨rfl, rfl, rfl⟩
    · exact ⟨rfl, rfl, rfl⟩
  | some t =>
    dsimp only
    split_ifs
    · exact ⟨rfl, rfl, rfl⟩
    · exact ⟨rfl, rfl, rfl⟩

theorem windowOf_changeTherapists (args : ChangeArgs) (s : Session) :
    windowOf (changeTherapists args s) = windowOf s := by
  have hwork := (changeTherapists_spec args s).2.2
  have hwindow : ∀ s, windowOf s = windowOf (withoutTherapists s) := fun _ => rfl
  rw [hwindow, hwork, ← hwindow]

/-- The session with the given id, and what changing it leaves around it. -/
theorem changeSession_split {sessions : List Session} (f : Session → Session)
    (h : sessions.find? (·.sessionId = sessionId) = some target) :
    ∃ before after, sessions = before ++ target :: after ∧ target.sessionId = sessionId ∧
      (∀ s ∈ before, s.sessionId ≠ sessionId) ∧
      changeSession sessionId f sessions = before ++ f target :: after := by
  obtain ⟨hid, before, after, rfl, hbefore⟩ := List.find?_eq_some_iff_append.mp h
  have htarget : target.sessionId = sessionId := by simpa using hid
  have hne : ∀ s ∈ before, s.sessionId ≠ sessionId := by
    intro s hs
    simpa using hbefore s hs
  refine ⟨before, after, rfl, htarget, hne, ?_⟩
  clear h hbefore
  induction before with
  | nil =>
    show changeSession sessionId f (target :: after) = f target :: after
    rw [changeSession, if_pos htarget]
  | cons s before ih =>
    show changeSession sessionId f (s :: (before ++ target :: after)) = s :: (before ++ f target :: after)
    rw [changeSession, if_neg (hne s List.mem_cons_self), ih]
    exact fun s' hs' => hne s' (List.mem_cons_of_mem _ hs')

/-! ## What the booking keeps busy -/

theorem mem_therapistBusyWindows {t : Uuid} {w : Instant × Instant} :
    w ∈ therapistBusyWindows b t ↔ ∃ s ∈ getBookingSessions b, Serves s t ∧ w = windowOf s := by
  unfold therapistBusyWindows getBookingSessions
  split_ifs with hstored hserves
  · simp only [List.mem_map, List.mem_filter, decide_eq_true_eq]
    constructor
    · rintro ⟨s, ⟨hs, hserves⟩, rfl⟩
      exact ⟨s, hs, hserves, rfl⟩
    · rintro ⟨s, hs, hserves, rfl⟩
      exact ⟨s, ⟨hs, hserves⟩, rfl⟩
  · have hfirst : Serves (sessionFromBooking b) t := by
      rcases hserves with h | h
      · exact .inl (congrArg some h)
      · exact .inr h
    rw [List.mem_singleton]
    constructor
    · intro hw
      exact ⟨_, List.mem_singleton_self _, hfirst, hw⟩
    · rintro ⟨s, hs, -, hw⟩
      rw [List.mem_singleton.mp hs] at hw
      exact hw
  · constructor
    · intro hw
      cases hw
    · rintro ⟨s, hs, hserved, -⟩
      rw [List.mem_singleton.mp hs] at hserved
      apply (hserves ?_).elim
      rcases hserved with h | h
      · exact .inl (Option.some.inj h)
      · exact .inr h

theorem exists_around {α : Type} {p : α → Prop} {before after : List α} {x : α} :
    (∃ s ∈ before ++ x :: after, p s) ↔ (∃ s ∈ before ++ after, p s) ∨ p x := by
  constructor
  · rintro ⟨s, hs, hp⟩
    rw [List.mem_append, List.mem_cons] at hs
    rcases hs with hs | rfl | hs
    · exact .inl ⟨s, List.mem_append_left _ hs, hp⟩
    · exact .inr hp
    · exact .inl ⟨s, List.mem_append_right _ hs, hp⟩
  · rintro (⟨s, hs, hp⟩ | hp)
    · rcases List.mem_append.mp hs with hs | hs
      · exact ⟨s, List.mem_append_left _ hs, hp⟩
      · exact ⟨s, List.mem_append_right _ (List.mem_cons_of_mem _ hs), hp⟩
    · exact ⟨x, List.mem_append_right _ List.mem_cons_self, hp⟩

theorem busy_around {before after : List Session} (h : getBookingSessions b = before ++ s :: after)
    (t : Uuid) (w : Instant × Instant) : w ∈ therapistBusyWindows b t ↔
      (∃ s ∈ before ++ after, Serves s t ∧ w = windowOf s) ∨ Serves s t ∧ w = windowOf s := by
  rw [mem_therapistBusyWindows, h]
  exact exists_around

/-! ## The columns -/

theorem columnsFollow_changedColumns {first : Session} {rest : List Session}
    (hlist : changeSession sessionId (changeTherapists args) (getBookingSessions row) = first :: rest)
    (hfirst : first.therapistId ≠ none) (a : PaymentAttribution.Attribution) :
    ColumnsFollow row ((changedColumns sessionId args row).setAttribution a) ∧
      ((changedColumns sessionId args row).setAttribution a).sessions = first :: rest := by
  obtain ⟨t, ht⟩ := Option.ne_none_iff_exists'.mp hfirst
  have hm : (legacyMirror first rest).therapistId = some t := ht
  unfold changedColumns
  rw [hlist]
  dsimp only
  rw [hm]
  refine ⟨⟨⟨?_, rfl⟩, a, rfl⟩, rfl⟩
  show some first.therapistId = _
  rw [ht]
  rfl

theorem changedColumns_id (sessionId : Uuid) (args : ChangeArgs) (b : BookingRow) :
    (changedColumns sessionId args b).id = b.id := by
  unfold changedColumns
  cases changeSession sessionId (changeTherapists args) (getBookingSessions b) <;> rfl

theorem assignUpdated_changedColumns (sessionId : Uuid) (args : ChangeArgs) (b : BookingRow) :
    assignUpdated (changedColumns sessionId args b) b = changedColumns sessionId args b := by
  unfold assignUpdated
  rw [← changedColumns_id sessionId args b]

/-! ## The holds -/

theorem followHold_eq_self (h : args.therapistId = none ∨ args.therapistId = target.therapistId)
    (hold : TemporaryHoldRow) : followHold bookingId args target hold = hold := by
  unfold followHold
  split_ifs with hof
  · have hprimary : newPrimary args target = target.therapistId := by
      unfold newPrimary
      rcases h with h | h
      · rw [h]
        rfl
      · rw [h]
        cases target.therapistId <;> rfl
    rw [hprimary, ← hof.2.1]
    rfl
  · rfl

/-- The holds after the statement that moves them, where it is executed at all. -/
theorem ensures_moveHolds {β : Type} {post : Except Error β → Db → List Emission → Prop}
    {k : Unit → Tx β} (hpost : Ensures (fun _ => True) post (k ())
      { d with temporaryHolds := d.temporaryHolds.map (followHold bookingId args target) } es) :
    Ensures (fun _ => True) post
      (if args.therapistId.isSome ∧ target.therapistId.isSome ∧ args.therapistId ≠ target.therapistId then
        forSome args.therapistId (moveHold bookingId target) >>= k
      else k ()) d es := by
  split_ifs with hmoves
  · obtain ⟨t, ht⟩ := Option.isSome_iff_exists.mp hmoves.1
    have hprimary : newPrimary args target = some t := by
      unfold newPrimary
      rw [ht]
      rfl
    have hfollow : followHold bookingId args target = fun h =>
        if h.bookingId = bookingId ∧ some h.therapistId = target.therapistId ∧
          h.appointmentStart = target.appointmentStart then { h with therapistId := t } else h := by
      funext h
      unfold followHold
      rw [hprimary]
      rfl
    rw [hfollow] at hpost
    rw [ht]
    show Ensures _ _ (moveHold bookingId target t >>= k) d es
    unfold moveHold
    rw [ensures_bind, ensures_update]
    exact ⟨trivial, hpost⟩
  · have hstill : args.therapistId = none ∨ args.therapistId = target.therapistId ∨
        target.therapistId = none := by
      rw [not_and_or, not_and_or] at hmoves
      rcases hmoves with h | h | h
      · exact .inl (by simpa using h)
      · exact .inr (.inr (by simpa using h))
      · exact .inr (.inl (by simpa using h))
    have hsame : d.temporaryHolds.map (followHold bookingId args target) = d.temporaryHolds := by
      rw [List.map_congr_left (g := id), List.map_id]
      intro h _
      rcases hstill with hnone | heq | hnone
      · exact followHold_eq_self (.inl hnone) h
      · exact followHold_eq_self (.inr heq) h
      · have hnot : ¬ HoldOf bookingId target h := by
          rintro ⟨-, hof, -⟩
          rw [hnone] at hof
          cases hof
        exact if_neg hnot
    rw [hsame] at hpost
    exact hpost

/-! ## The program -/

/-- What a call that returns `b` has done. -/
def OneSessionMoved (args : ChangeArgs) (bookingId sessionId : Uuid) (d d' : Db) (b : BookingRow) : Prop :=
  ∃ row before target after, Table.get d.bookings bookingId = some row ∧
    getBookingSessions row = before ++ target :: after ∧ target.sessionId = sessionId ∧
    (∀ s ∈ before, s.sessionId ≠ sessionId) ∧ TherapistMoved args d d' row b before target after

/-- The row that is written, where the checks have let the change through. -/
theorem therapistMoved_of_written {before after : List Session} {d' : Db}
    (hsessions : getBookingSessions row = before ++ target :: after)
    (hchanged : changeSession sessionId (changeTherapists args) (getBookingSessions row) =
      before ++ changeTherapists args target :: after)
    (hdiffer : ¬ ((newSecondary args target).isSome ∧ newSecondary args target = newPrimary args target))
    (hnamed : ((changedColumns sessionId args row).sessions.map (·.therapistId)).head? ≠ some none)
    {a : PaymentAttribution.Attribution} (hb : b = (changedColumns sessionId args row).setAttribution a)
    (hstored : Table.get d'.bookings row.id = some b)
    (hrows : ∀ k ≠ row.id, Table.get d'.bookings k = Table.get d.bookings k)
    (hholds : d'.temporaryHolds = d.temporaryHolds.map (followHold row.id args target)) :
    TherapistMoved args d d' row b before target after := by
  obtain ⟨hprimary, hsecondary, hwork⟩ := changeTherapists_spec args target
  obtain ⟨first, rest, hlist⟩ : ∃ first rest,
      before ++ changeTherapists args target :: after = first :: rest :=
    List.exists_cons_of_ne_nil (by simp)
  have hfirst : first.therapistId ≠ none := by
    intro hnone
    apply hnamed
    unfold changedColumns
    rw [hchanged, hlist]
    show some first.therapistId = some none
    rw [hnone]
  obtain ⟨hcolumns, hstoredSessions⟩ :=
    columnsFollow_changedColumns (hchanged.trans hlist) hfirst a
  rw [← hb] at hcolumns hstoredSessions
  have hsessions' : b.sessions = before ++ changeTherapists args target :: after :=
    hstoredSessions.trans hlist.symm
  have hget : getBookingSessions b = before ++ changeTherapists args target :: after := by
    unfold getBookingSessions
    rw [hsessions', if_pos (by simp)]
  have hdiffer' : TherapistsDiffer (changeTherapists args target) := by
    intro t ht hsec
    rw [hprimary] at ht
    rw [hsecondary] at hsec
    exact hdiffer ⟨by rw [hsec]; rfl, by rw [hsec, ht]⟩
  refine ⟨hstored, hrows, hcolumns, hsessions', hwork, busy_around hsessions, ?_, hholds, hdiffer', ?_⟩
  · intro t w
    rw [busy_around hget t w]
    unfold Serves
    rw [hprimary, hsecondary, windowOf_changeTherapists]
  · rw [hsessions']
    constructor
    · intro hall s hs
      rcases List.mem_append.mp hs with hs | hs
      · exact hall s (List.mem_append_left _ hs)
      · exact hall s (List.mem_append_right _ (List.mem_cons_of_mem _ hs))
    · intro hall s hs
      rw [List.mem_append, List.mem_cons] at hs
      rcases hs with hs | rfl | hs
      · exact hall s (List.mem_append_left _ hs)
      · exact hdiffer'
      · exact hall s (List.mem_append_right _ hs)

theorem ensures_changeSessionTherapist (args : ChangeArgs) (bookingId sessionId : Uuid) (d : Db)
    (es : List Emission) :
    Ensures (fun _ => True) (fun r d' _ => ∀ b, r = .ok b → OneSessionMoved args bookingId sessionId d d' b)
      (changeSessionTherapist bookingId sessionId args) d es := by
  have herr : ∀ (e : Error) (d' : Db) (b : BookingRow),
      (Except.error e : Except Error BookingRow) = .ok b → OneSessionMoved args bookingId sessionId d d' b :=
    fun _ _ _ h => by cases h
  -- what is asked and checked changes nothing
  have hcheck : ∀ {α : Type} {p : Tx α} {f : α → Tx BookingRow} {es : List Emission} (d₀ : Db),
      d₀ = d → Keeps id p →
      (∀ a d' es', d' = d → Ensures (fun _ => True)
        (fun r d' _ => ∀ b, r = .ok b → OneSessionMoved args bookingId sessionId d d' b) (f a) d' es') →
      Ensures (fun _ => True) (fun r d' _ => ∀ b, r = .ok b → OneSessionMoved args bookingId sessionId d d' b)
        (p >>= f) d₀ es := by
    intro α p f es d₀ hd₀ hp hf
    exact (hp d₀ es).bind (fun a d' es' heq => hf a d' es' (heq.trans hd₀)) fun e d' _ _ => herr e d'
  refine ensures_getById.bind_reads ?_ fun e => herr e d
  intro row hrow
  have hid : row.id = bookingId := (Table.get_some hrow).2
  cases hfind : (getBookingSessions row).find? (·.sessionId = sessionId) with
  | none => exact fun b h => by cases h
  | some target =>
    obtain ⟨before, after, hsessions, htarget, hbefore, hchanged⟩ :=
      changeSession_split (changeTherapists args) hfind
    dsimp only
    rw [ensures_bind, ensures_raiseIf]
    refine ⟨fun _ => herr _ _, fun hdiffer => ?_⟩
    refine hcheck d rfl (keeps_forSome _ fun _ => keeps_checkNewTherapist _ _ _) fun _ d₁ es₁ h₁ => ?_
    refine hcheck d₁ h₁ (keeps_forSome _ fun _ => keeps_checkNewTherapist _ _ _) fun _ d₂ es₂ h₂ => ?_
    rw [ensures_bind, ensures_raiseIf]
    refine ⟨fun _ => herr _ _, fun hnamed => ?_⟩
    refine ensures_moveHolds ?_
    refine (ensures_writeBooking trivial).bind ?_ fun _ _ _ h => h.elim
    rintro w d₃ es₃ ⟨-, hw, rfl⟩ b hb
    cases hb
    subst h₂
    have hrow' : ((Orm.ofRow row).set (assignUpdated (changedColumns sessionId args row))).row =
        changedColumns sessionId args row := assignUpdated_changedColumns sessionId args row
    rw [hrow'] at hw
    refine ⟨row, before, target, after, hrow, hsessions, htarget, hbefore,
      therapistMoved_of_written hsessions hchanged hdiffer hnamed hw ?_ ?_ ?_⟩
    · show Table.get (Table.modify d₂.bookings _ _) row.id = some w.row
      have hkey : ∀ (a : PaymentAttribution.Attribution) (r : BookingRow), Table.Keyed.key
          ((((Orm.ofRow row).set (assignUpdated (changedColumns sessionId args row))).changes r).setAttribution
            a) = Table.Keyed.key r := fun _ _ => rfl
      rw [hrow', changedColumns_id, Table.get_modify_self (hkey _), hid, hrow, hw]
      generalize (changedColumns sessionId args row).attribution = a
      show some ((assignUpdated (changedColumns sessionId args row) row).setAttribution a) = _
      rw [assignUpdated_changedColumns]
    · intro k hk
      exact Table.get_modify_of_ne (fun _ => rfl) hk
    · rw [hid]

/-- A change of therapist that succeeds moves the window of its session from the old therapists to the
new ones, with the columns and the hold that follow it. -/
theorem therapist_moved {env : ℕ → Env} {b : BookingRow}
    (h : (exec env (changeSessionTherapist bookingId sessionId args) d).1 = .ok b) :
    OneSessionMoved args bookingId sessionId d
      (exec env (changeSessionTherapist bookingId sessionId args) d).2.1 b :=
  (ensures_changeSessionTherapist args bookingId sessionId d []).exec env b h

/-- A session of therapist 5 at 10:00, with a hold, and one of therapist 7 and a second one at 11:00. -/
def twoSessions (secondary : Option Uuid) : Db :=
  { bookings := [
      { id := 1
        customerId := 4
        therapistId := 5
        appointmentStart := 25200000000
        appointmentEnd := 32400000000
        totalAmount := 80000
        sessions := [
          { sessionId := 21
            therapistId := some 5
            appointmentStart := 25200000000
            appointmentEnd := 28800000000 },
          { sessionId := 22
            position := 1
            therapistId := some 7
            secondaryTherapistId := secondary
            appointmentStart := 28800000000
            appointmentEnd := 32400000000 }] }]
    temporaryHolds := [
      { id := 31
        bookingId := 1
        therapistId := 5
        serviceArrangementId := 3
        appointmentStart := 25200000000
        appointmentEnd := 28800000000
        expiresAt := 26100000000 }] }

/-- The booking with therapist 9 for the session at 10:00. -/
def reassigned (secondary : Option Uuid) : Except Error BookingRow × Db × List Emission :=
  exec (fun _ => {}) (changeSessionTherapist 1 21 { therapistId := some 9 }) (twoSessions secondary)

def reassignedBooking (secondary : Option Uuid) : BookingRow :=
  (reassigned secondary).1.toOption.getD { id := 0, customerId := 0, therapistId := 0,
                                           appointmentStart := 0, appointmentEnd := 0, totalAmount := 0 }

/-- The hold follows, and the other session keeps its therapists. -/
theorem therapist_moved_example :
    (reassigned (some 8)).2.1.temporaryHolds.map (·.therapistId) = [9] ∧
      (reassignedBooking (some 8)).sessions.map (fun s => (s.therapistId, s.secondaryTherapistId)) =
        [(some 9, none), (some 7, some 8)] ∧
      OneSessionMoved { therapistId := some 9 } 1 21 (twoSessions (some 8)) (reassigned (some 8)).2.1
        (reassignedBooking (some 8)) := by
  have hok : (exec (fun _ => {}) (changeSessionTherapist 1 21 { therapistId := some 9 })
      (twoSessions (some 8))).1 = .ok (reassignedBooking (some 8)) := by
    decide +kernel
  exact ⟨by decide +kernel, by decide +kernel, therapist_moved hok⟩

/-- Another session with one therapist twice stays so. -/
theorem other_session_shared :
    (reassigned (some 7)).1 = .ok (reassignedBooking (some 7)) ∧
      ¬ ∀ s ∈ (reassignedBooking (some 7)).sessions, TherapistsDiffer s := by
  refine ⟨by decide +kernel, fun hdiffer => ?_⟩
  have hshared : ∃ s ∈ (reassignedBooking (some 7)).sessions,
      s.therapistId = some 7 ∧ s.secondaryTherapistId = some 7 := by
    decide +kernel
  obtain ⟨s, hs, hprimary, hsecondary⟩ := hshared
  exact hdiffer s hs 7 hprimary hsecondary

end Booking
