import UshBookNPay.Booking.Proofs.LighterProofs
import UshBookNPay.Booking.Proofs.MirrorProofs
import UshBookNPay.Booking.Proofs.TherapistChangeProofs
import UshBookNPay.Payment.Proofs.StepProofs

/-!
# No therapist is booked twice

Called one after the other, the writers keep the bookings of a therapist apart: a booking that is added
or moved has been looked up in every window it takes.
-/

open Transactions
open Transactions.Prog (query queryForUpdate update checkedUpdate raiseIf ask emit forSome savepoint)

namespace Booking

variable {d d' : Db} {b b' row : BookingRow} {t k : Uuid} {w : Instant × Instant} {es : List Emission}

/-! ## Bookings that are created -/

theorem unique_insertBooking (b : BookingRow) :
    Leads (fun d d' : Db => Table.Unique d.bookings → Table.Unique d'.bookings) (insertBooking b) := by
  constructor
  intro d es
  unfold insertBooking
  generalize b.beforeWrite = row
  rw [ensures_bind, ensures_checkedUpdate]
  refine ⟨trivial, ?_⟩
  cases hconflict : bookingConflict d row with
  | some e => exact fun h => h
  | none =>
    intro h
    refine h.append ?_
    unfold bookingConflict at hconflict
    split_ifs at hconflict with hid
    show Table.get d.bookings row.id = none
    simpa using hid

theorem unique_createBooking (args : CreateArgs) :
    Leads (fun d d' : Db => Table.Unique d.bookings → Table.Unique d'.bookings)
      (createBooking args) := by
  have hkeeps : ∀ {α : Type} {p : Tx α}, Keeps Db.bookings p →
      Leads (fun d d' : Db => Table.Unique d.bookings → Table.Unique d'.bookings) p := by
    intro α p hp
    refine hp.leads fun d d' heq h => ?_
    rw [heq]
    exact h
  have hbind : ∀ {α β : Type} {p : Tx α} {f : α → Tx β},
      Leads (fun d d' : Db => Table.Unique d.bookings → Table.Unique d'.bookings) p →
      (∀ a, Leads (fun d d' : Db => Table.Unique d.bookings → Table.Unique d'.bookings) (f a)) →
      Leads (fun d d' : Db => Table.Unique d.bookings → Table.Unique d'.bookings) (p >>= f) :=
    fun hp hf => hp.bind (fun _ _ _ h h' hu => h' (h hu)) hf
  have hwrite : Leads (fun d d' : Db => Table.Unique d.bookings → Table.Unique d'.bookings)
      (writeNew args) := by
    refine hbind (hkeeps (keeps_generateBookingNumber _)) fun number => ?_
    refine hbind (hkeeps (keeps_ask _)) fun id => hbind (unique_insertBooking _) fun booking => ?_
    refine hbind (hkeeps (keeps_holdBooking _)) fun _ => ?_
    refine hbind (hkeeps (keeps_addBookingHistory _)) fun _ => ?_
    split_ifs
    · exact hbind (hkeeps (keeps_emit _)) fun _ => hkeeps (keeps_pure _)
    · exact hkeeps ((keeps_pure _).bind fun _ => keeps_pure _)
  refine hbind (hkeeps (keeps_raiseIf _ _)) fun _ => hbind (hkeeps (keeps_raiseIf _ _)) fun _ => ?_
  refine hbind (hkeeps (keeps_query _)) fun existing => ?_
  cases existing with
  | some booking => exact hkeeps (keeps_pure _)
  | none =>
    rw [createNew_eq]
    refine hbind (hkeeps (keeps_raiseIf _ _)) fun _ => ?_
    split_ifs
    · exact hbind (hkeeps (keeps_checkSessionSlots _)) fun _ => hwrite
    · refine hbind (hkeeps (keeps_checkSlot _ _ _)) fun _ => ?_
      exact hbind (hkeeps (keeps_forSome _ fun _ => keeps_checkSlot _ _ _)) fun _ => hwrite

/-- A booking is only added in windows that are free. -/
theorem calendar_createBooking {plan : Option PlanRequest} {given full : CreateArgs} (h : Calendar d)
    (hfull : createArgs plan given = .ok full) (env : ℕ → Env) :
    Table.Unique (atomically env (createBooking full) d).bookings ∧
      NoDoubleBooking (atomically env (createBooking full) d) := by
  constructor
  · exact (unique_createBooking full).atomically (fun _ h => h) env d h.unique
  · let call : CreateCall := ⟨full, plan, given, hfull⟩
    have hrelies : Relies (KeepsFree call.Wants) (Guarantees call) (createCode call) id d :=
      relies_createBooking h.inside
    have horderly : Orderly d := ⟨h.inside, h.single⟩
    have hafter : Orderly (atomically env (createCode call) d) :=
      hrelies.atomically keepsFree_refl horderly (fun _ _ hw => orderly_commit horderly hw) env
    exact hafter.single

/-! ## What an update looks up -/

section Lookups

variable {args : UpdateArgs}

theorem BookedByOthers.widen {w₀ : Instant × Instant} (h : BookedByOthers k t w d)
    (hstart : w₀.1 ≤ w.1) (hend : w.2 ≤ w₀.2) : BookedByOthers k t w₀ d := by
  obtain ⟨b, hb, hne, hblocks, w', hw', hlt, hgt⟩ := h
  exact ⟨b, hb, hne, hblocks, w', hw', hlt.trans_le hend, hstart.trans_lt hgt⟩

/-- What an update has found free before it writes. -/
structure LookedUp (args : UpdateArgs) (row : BookingRow) (d : Db) : Prop where
  sent : ∀ sessions, args.sessions = some sessions → remainsParked args row = false →
    ∀ s ∈ sessions, ∀ t, Serves s t → ¬ BookedByOthers row.id t (windowOf s) d
  moved : args.sessions = none → remainsParked args row = false →
    TouchesTiming args (replacedRow args row) → ∀ t, LooksFor args (replacedRow args row) t →
      ¬ BookedByOthers row.id t
        (targetStart args (replacedRow args row), targetEnd args (replacedRow args row)) d

theorem ensures_overlap {α : Type} {bookingId : Uuid} {Q : α → Prop} {f : Bool → Tx α}
    (hinside : SessionsInside d)
    (hbusy : Ensures (fun _ => True) (Reads d es Q) (f true) d es)
    (hfree : ¬ BookedByOthers bookingId t w d →
      Ensures (fun _ => True) (Reads d es Q) (f false) d es) :
    Ensures (fun _ => True) (Reads d es Q)
      (checkTherapistOverlap t w.1 w.2 (some bookingId) >>= f) d es := by
  unfold checkTherapistOverlap
  rw [ensures_bind_query]
  refine ⟨trivial, ?_⟩
  cases hfound : (findTherapistOverlap t w.1 w.2 (some bookingId) d).isSome with
  | true => exact hbusy
  | false => exact hfree ((findTherapistOverlap_others hinside).mp (by simpa using hfound))

theorem ensures_checkFree {bookingId : Uuid} {message : String} (hinside : SessionsInside d) :
    Ensures (fun _ => True) (Reads d es fun _ => ¬ BookedByOthers bookingId t w d)
      (checkFree bookingId w.1 w.2 message t) d es := by
  refine ensures_overlap hinside ?_ fun hfree => ?_
  · exact ⟨rfl, rfl, fun _ h => (by cases h)⟩
  · exact ⟨rfl, rfl, fun _ _ => hfree⟩

theorem ensures_checkSessionTherapist {bookingId : Uuid} {s : Session} (hinside : SessionsInside d) :
    Ensures (fun _ => True) (Reads d es fun _ => ¬ BookedByOthers bookingId t (windowOf s) d)
      (checkSessionTherapist bookingId s t) d es := by
  refine ensures_overlap (w := windowOf s) hinside ?_ fun hfree => ?_
  · rw [if_pos rfl, ensures_bind_query]
    exact ⟨trivial, rfl, rfl, fun _ h => (by cases h)⟩
  · exact ⟨rfl, rfl, fun _ _ => hfree⟩

theorem ensures_forSome_reads {α : Type} {Q : α → Prop} {o : Option α} {f : α → Tx Unit}
    (h : ∀ a, Ensures (fun _ => True) (Reads d es fun _ => Q a) (f a) d es) :
    Ensures (fun _ => True) (Reads d es fun _ => ∀ a, o = some a → Q a) (forSome o f) d es := by
  cases o with
  | none => exact ⟨rfl, rfl, fun _ _ _ h => (by cases h)⟩
  | some a =>
    refine (h a).mono (fun _ h => h) ?_
    rintro r d' es' ⟨hd, hes, hQ⟩
    refine ⟨hd, hes, fun u hu a' ha' => ?_⟩
    cases ha'
    exact hQ u hu

theorem ensures_checkSessionsFree {bookingId : Uuid} (hinside : SessionsInside d) (l : List Session) :
    Ensures (fun _ => True) (Reads d es fun _ =>
      ∀ s ∈ l, ∀ t, Serves s t → ¬ BookedByOthers bookingId t (windowOf s) d)
      (checkSessionsFree bookingId l) d es := by
  have herr : ∀ {Q : Unit → Prop} (e : Error), Reads d es Q (.error e) d es :=
    fun e => ⟨rfl, rfl, fun _ h => (by cases h)⟩
  induction l with
  | nil => exact ⟨rfl, rfl, fun _ _ s hs => (by cases hs)⟩
  | cons s rest ih =>
    refine (ensures_forSome_reads fun t => ensures_checkSessionTherapist hinside).bind_reads ?_ herr
    intro _ hfirst
    refine (ensures_forSome_reads fun t => ensures_checkSessionTherapist hinside).bind_reads ?_ herr
    intro _ hsecond
    refine ih.mono (fun _ h => h) ?_
    rintro r d' es' ⟨hd, hes, hrest⟩
    refine ⟨hd, hes, fun u hu s' hs' t hserves => ?_⟩
    rcases List.mem_cons.mp hs' with rfl | hs'
    · exact hserves.elim (hfirst t) (hsecond t)
    · exact hrest u hu s' hs' t hserves

theorem ensures_checkReplacement (hinside : SessionsInside d) (args : UpdateArgs) (row : BookingRow) :
    Ensures (fun _ => True) (Reads d es fun _ => ∀ sessions, args.sessions = some sessions →
      remainsParked args row = false →
      ∀ s ∈ sessions, ∀ t, Serves s t → ¬ BookedByOthers row.id t (windowOf s) d)
      (checkReplacement args row) d es := by
  refine ensures_forSome_reads fun sessions => ?_
  rw [ensures_bind_raiseIf]
  refine ⟨fun _ => ⟨rfl, rfl, fun _ h => (by cases h)⟩, fun _ => ?_⟩
  have hend : ∀ {Q : Prop}, Q → ∀ (c : Prop) [Decidable c] (e : Error),
      Ensures (fun _ => True) (Reads d es fun _ => Q) (raiseIf c e : Tx Unit) d es := by
    intro Q hQ c _ e
    rw [ensures_raiseIf]
    exact ⟨fun _ => ⟨rfl, rfl, fun _ h => (by cases h)⟩, fun _ => ⟨rfl, rfl, fun _ _ => hQ⟩⟩
  cases remainsParked args row with
  | true => exact hend (fun h => (by cases h)) _ _
  | false =>
    refine (ensures_checkSessionsFree hinside sessions).bind_reads (fun _ hfree => ?_) fun e => ?_
    · exact hend (fun _ => hfree) _ _
    · exact ⟨rfl, rfl, fun _ h => (by cases h)⟩

theorem primaryFields_id (entries : List ServiceEntry) (b : BookingRow) :
    (primaryFields entries b).id = b.id := by
  cases entries with
  | nil => rfl
  | cons first rest => rfl

theorem replacedRow_id (args : UpdateArgs) (row : BookingRow) : (replacedRow args row).id = row.id := by
  have hsessions : (replaceSessions args row).id = row.id := by
    unfold replaceSessions
    split
    · dsimp only
      split_ifs
      · exact primaryFields_id _ _
      · exact primaryFields_id _ _
    · rfl
  unfold replacedRow replaceServices
  cases args.services with
  | none => exact hsessions
  | some entries => exact (primaryFields_id _ _).trans hsessions

theorem ensures_checkTherapists (hinside : SessionsInside d) (args : UpdateArgs) (row : BookingRow) :
    Ensures (fun _ => True) (Reads d es fun _ => args.sessions = none →
      remainsParked args row = false → TouchesTiming args (replacedRow args row) →
      ∀ t, LooksFor args (replacedRow args row) t → ¬ BookedByOthers row.id t
        (targetStart args (replacedRow args row), targetEnd args (replacedRow args row)) d)
      (checkTherapists args (remainsParked args row) (replacedRow args row)) d es := by
  have herr : ∀ {Q : Unit → Prop} (e : Error), Reads d es Q (.error e) d es :=
    fun e => ⟨rfl, rfl, fun _ h => (by cases h)⟩
  rw [← replacedRow_id args row]
  generalize replacedRow args row = b
  unfold checkTherapists
  dsimp only
  rw [ensures_bind_raiseIf]
  refine ⟨fun _ => herr _, fun _ => ?_⟩
  split_ifs with hchecked
  · have hfree : ∀ (t : Uuid) (message : String), Ensures (fun _ => True)
        (Reads d es fun _ => ¬ BookedByOthers b.id t (targetStart args b, targetEnd args b) d)
        (checkFree b.id (targetStart args b) (targetEnd args b) message t) d es :=
      fun t message => ensures_checkFree (w := (targetStart args b, targetEnd args b)) hinside
    refine (hfree _ _).bind_reads (fun _ hfirst => ?_) herr
    refine (ensures_forSome_reads fun t => hfree t _).mono (fun _ h => h) ?_
    rintro r d' es' ⟨hd, hes, hsecond⟩
    refine ⟨hd, hes, fun u hu _ _ _ t hlooks => ?_⟩
    rcases hlooks with rfl | hlooks
    · exact hfirst
    · exact hsecond u hu t hlooks
  · refine ⟨rfl, rfl, fun _ _ hnone hparked htouched => absurd ⟨htouched, ?_, hnone⟩ hchecked⟩
    simpa using hparked

theorem ensures_lookedUp {β : Type} {Q : Db → Prop} {f : Unit → Tx β} (hinside : SessionsInside d)
    (args : UpdateArgs) (row : BookingRow)
    (hf : LookedUp args row d →
      Ensures (fun _ => True) (fun r d' _ => ∀ x, r = .ok x → Q d') (f ()) d es) :
    Ensures (fun _ => True) (fun r d' _ => ∀ x, r = .ok x → Q d')
      (do
        checkReplacement args row
        checkServices args
        checkTherapists args (remainsParked args row) (replacedRow args row)
        f ()) d es := by
  have herr : ∀ e : Error, ∀ x, (Except.error e : Except Error β) = .ok x → Q d :=
    fun e x h => (by cases h)
  refine (ensures_checkReplacement hinside args row).bind_reads (fun _ hsent => ?_) herr
  have hservices : Ensures (fun _ => True) (Reads d es fun _ => True) (checkServices args) d es := by
    refine (ensures_forSome_reads (Q := fun _ => True) fun entries => ?_).mono (fun _ h => h) ?_
    · rw [ensures_raiseIf]
      exact ⟨fun _ => ⟨rfl, rfl, fun _ _ => trivial⟩, fun _ => ⟨rfl, rfl, fun _ _ => trivial⟩⟩
    · rintro r d' es' ⟨hd, hes, -⟩
      exact ⟨hd, hes, fun _ _ => trivial⟩
  refine hservices.bind_reads (fun _ _ => ?_) herr
  refine (ensures_checkTherapists hinside args row).bind_reads (fun _ hmoved => ?_) herr
  exact hf ⟨hsent, hmoved⟩

end Lookups

/-! ## What an update takes -/

section Update

variable {args : UpdateArgs}

theorem serves_assignTherapists {given : Bool} {u : BookingRow} {s : Session}
    (h : given = false → s.secondaryTherapistId = u.secondaryTherapistId) (t : Uuid) :
    Serves (assignTherapists given u s) t ↔ t = u.therapistId ∨ u.secondaryTherapistId = some t := by
  have hsecondary : (assignTherapists given u s).secondaryTherapistId = u.secondaryTherapistId := by
    cases given with
    | false => exact h rfl
    | true => rfl
  unfold Serves
  rw [(assignTherapists_work given u s).2, hsecondary]
  refine or_congr_left ⟨fun h => (Option.some.inj h).symm, fun h => congrArg some h.symm⟩

theorem looksFor_iff (args : UpdateArgs) (row : BookingRow) (t : Uuid) :
    LooksFor args (replacedRow args row) t ↔
      t = (unsynced args row).therapistId ∨ (unsynced args row).secondaryTherapistId = some t := by
  have hcols := columns_unsynced args row
  have htarget : targetTherapistId args (replacedRow args row) =
      args.therapistId.getD (replaceSessions args row).therapistId := by
    unfold targetTherapistId replacedRow
    rw [(sameTiming_replaceServices args (replaceSessions args row)).therapistId]
  unfold LooksFor
  rw [htarget, hcols.therapistId, hcols.secondaryTherapistId]
  unfold replacedRow
  rw [secondaryUpdate_replaceServices]

/-- The second therapist stays where the update does not give one. -/
theorem secondary_unsynced (row : BookingRow) (hnone : args.sessions = none)
    (hgiven : (secondaryUpdate args (replacedRow args row)).given = false) :
    (unsynced args row).secondaryTherapistId = row.secondaryTherapistId :=
  (moved_unsynced hnone).secondaryTherapistId hgiven

/-- The session `s'` is one of the later sessions `s`, moved with its booking; the last one also takes
the change of the extra minutes. -/
structure Shifted (args : UpdateArgs) (row : BookingRow) (s s' : Session) : Prop where
  therapistId : s'.therapistId = s.therapistId
  secondaryTherapistId : s'.secondaryTherapistId = s.secondaryTherapistId
  start : s'.appointmentStart = s.appointmentStart +
    (args.appointmentStart.getD row.appointmentStart - row.appointmentStart)
  finish : s'.appointmentEnd = s.appointmentEnd +
      (args.appointmentStart.getD row.appointmentStart - row.appointmentStart) ∨
    s'.appointmentEnd = s.appointmentEnd +
      (args.appointmentStart.getD row.appointmentStart - row.appointmentStart) +
      minutes (extraDiff args row)

/-- What an update without sessions makes of the sessions of a booking: the first one has the therapists
of the booking, and keeps its window where the update touches none; the later ones are shifted. -/
structure Rearranged (args : UpdateArgs) (row : BookingRow) (l : List Session) : Prop where
  split : ∃ lead' later', l = lead' :: later' ∧
    (∀ t, Serves lead' t ↔ LooksFor args (replacedRow args row) t) ∧
    (¬ TouchesTiming args (replacedRow args row) →
      ∃ lead ∈ getBookingSessions row, (∀ t, Serves lead' t → Serves lead t) ∧
        windowOf lead' = windowOf lead) ∧
    ∀ s' ∈ later', ∃ s ∈ row.sessions.tail, Shifted args row s s'

/-- An update that touches neither therapists nor times leaves the columns of both. -/
theorem unsynced_of_not_touched (row : BookingRow) (hnone : args.sessions = none)
    (ht : ¬ TouchesTiming args (replacedRow args row)) :
    (unsynced args row).therapistId = row.therapistId ∧
      (unsynced args row).secondaryTherapistId = row.secondaryTherapistId ∧
      (unsynced args row).appointmentStart = row.appointmentStart ∧
      (unsynced args row).appointmentEnd = row.appointmentEnd ∧ extraDiff args row = 0 := by
  have hm : Moved args row (unsynced args row) := moved_unsynced hnone
  obtain ⟨hnt, hng, hns, hne⟩ := not_touchesTiming ht
  refine ⟨?_, hm.secondaryTherapistId hng, ?_, ?_, ?_⟩
  · rw [hm.therapistId, hnt]
    rfl
  · rw [hm.appointmentStart, hns]
    rfl
  · rw [hm.appointmentEnd, if_neg ht]
  · unfold extraDiff targetExtra
    rw [hne]
    exact sub_self _

theorem rearranged_updatedColumns (hnone : args.sessions = none) (hled : Led row)
    (hspan : SpanKept row) :
    Rearranged args row (getBookingSessions (updatedColumns args row)) := by
  have hm : Moved args row (unsynced args row) := moved_unsynced hnone
  have hlooks := looksFor_iff args row
  have hquiet := unsynced_of_not_touched row hnone
  have hsecondary := secondary_unsynced row hnone
  have hextra : (unsynced args row).extraMinutes - row.extraMinutes = extraDiff args row := by
    rw [hm.extraMinutes]
    rfl
  have hdelta : (unsynced args row).appointmentStart - row.appointmentStart =
      args.appointmentStart.getD row.appointmentStart - row.appointmentStart := by
    rw [hm.appointmentStart]
  rw [updatedColumns_of_none hnone]
  generalize unsynced args row = u at *
  generalize hgiven : (secondaryUpdate args (replacedRow args row)).given = given at *
  generalize effTotalDuration args (replacedRow args row) = total
  have hleads : ∀ s ∈ row.sessions.head?, ∀ t, (t = u.therapistId ∨ u.secondaryTherapistId = some t) →
      ¬ TouchesTiming args (replacedRow args row) → Serves s t := by
    intro s hs t ht htouched
    obtain ⟨htherapist, hsec, -⟩ := hquiet htouched
    obtain ⟨hfirst, hsecond⟩ := hled s hs
    rcases ht with rfl | ht
    · exact .inl (hfirst.trans (congrArg some htherapist.symm))
    · exact .inr (hsecond.trans (hsec.symm.trans ht))
  have hkeeps : ∀ s ∈ row.sessions.head?,
      given = false → s.secondaryTherapistId = u.secondaryTherapistId :=
    fun s hs hfalse => (hled s hs).2.trans (hsecondary hfalse).symm
  cases hs : row.sessions using List.bidirectionalRec with
  | nil =>
    rw [syncSessions_nil (hm.sessions.trans hs), getBookingSessions_of_nil rfl]
    refine ⟨_, [], rfl, fun t => ?_, fun htouched => ?_, fun s' hs' => (by cases hs')⟩
    · rw [hlooks t]
      exact or_congr_left ⟨fun h => (Option.some.inj h).symm, fun h => congrArg some h.symm⟩
    · obtain ⟨htherapist, hsec, hstart, hend, -⟩ := hquiet htouched
      refine ⟨sessionFromBooking row, ?_, fun t h => ?_, ?_⟩
      · rw [getBookingSessions_of_nil hs]
        exact List.mem_cons_self
      · rcases h with h | h
        · exact .inl ((congrArg some htherapist.symm).trans h)
        · exact .inr (hsec.symm.trans h)
      · exact Prod.ext hstart hend
  | singleton s =>
    have hhead : s ∈ row.sessions.head? := by
      rw [hs]
      rfl
    rw [syncSessions_single (hm.sessions.trans hs), getBookingSessions_of_stored (List.cons_ne_nil _ _)]
    have hserves : ∀ t, Serves (syncSingle given total u s) t ↔
        t = u.therapistId ∨ u.secondaryTherapistId = some t :=
      fun t => serves_assignTherapists (hkeeps s hhead) t
    refine ⟨_, [], rfl, fun t => (hserves t).trans (hlooks t).symm, fun htouched => ?_,
      fun s' hs' => (by cases hs')⟩
    obtain ⟨-, -, hstart, hend, -⟩ := hquiet htouched
    refine ⟨s, ?_, fun t h => hleads s hhead t ((hserves t).mp h) htouched, ?_⟩
    · rw [getBookingSessions_of_stored (by rw [hs]; exact List.cons_ne_nil _ _), hs]
      exact List.mem_cons_self
    · refine Prod.ext (hstart.trans (hspan.first s hhead)) (hend.trans (hspan.last s ?_))
      rw [hs]
      rfl
  | cons_append first mid last _ =>
    have hsessions : row.sessions = first :: (mid ++ [last]) := hs
    have hhead : first ∈ row.sessions.head? := by
      rw [hsessions]
      rfl
    rw [syncSessions_several (hm.sessions.trans hsessions), hextra, hdelta,
      getBookingSessions_of_stored (List.cons_ne_nil _ _)]
    have hserves : ∀ t delta, Serves (moveSession delta (assignTherapists given u first)) t ↔
        t = u.therapistId ∨ u.secondaryTherapistId = some t :=
      fun t _ => serves_assignTherapists (hkeeps first hhead) t
    refine ⟨_, _, rfl, fun t => (hserves t _).trans (hlooks t).symm, fun htouched => ?_, ?_⟩
    · obtain ⟨-, -, hstart, -, -⟩ := hquiet htouched
      refine ⟨first, ?_, fun t h => hleads first hhead t ((hserves t _).mp h) htouched, ?_⟩
      · rw [getBookingSessions_of_stored (by rw [hsessions]; exact List.cons_ne_nil _ _), hsessions]
        exact List.mem_cons_self
      · have hzero : args.appointmentStart.getD row.appointmentStart - row.appointmentStart = 0 := by
          rw [← hdelta, hstart]
          exact sub_self _
        obtain ⟨hwork, -⟩ := assignTherapists_work given u first
        rw [hzero]
        refine Prod.ext ?_ ?_
        · exact (add_zero _).trans (congrArg (·.appointmentStart) hwork)
        · exact (add_zero _).trans (congrArg (·.appointmentEnd) hwork)
    · intro s' hs'
      rw [hsessions, List.tail_cons]
      rcases List.mem_append.mp hs' with hs' | hs'
      · obtain ⟨s, hmem, rfl⟩ := List.mem_map.mp hs'
        exact ⟨s, List.mem_append_left _ hmem, rfl, rfl, rfl, .inl rfl⟩
      · rw [List.mem_singleton.mp hs']
        refine ⟨last, List.mem_append_right _ List.mem_cons_self, ?_⟩
        have hothers : ∀ s : Session, (extendSession (extraDiff args row) u.priceForExtraMinutes
            s).secondaryTherapistId = s.secondaryTherapistId := by
          intro s
          unfold extendSession
          split_ifs
          · rfl
          · rfl
        refine ⟨(extendSession_others _ _ _).2.2.1, hothers _, ?_, .inr ?_⟩
        · rw [extendSession_start, moveSession_start]
        · rw [extendSession_end, moveSession_end]

/-- The window an update without sessions looks up is the one the booking gets. -/
theorem targets_unsynced (row : BookingRow) (hnone : args.sessions = none)
    (ht : TouchesTiming args (replacedRow args row)) :
    targetStart args (replacedRow args row) = (unsynced args row).appointmentStart ∧
      targetEnd args (replacedRow args row) = (unsynced args row).appointmentEnd := by
  have hm : Moved args row (unsynced args row) := moved_unsynced hnone
  have hstart : targetStart args (replacedRow args row) = (unsynced args row).appointmentStart := by
    have hreplaced : (replacedRow args row).appointmentStart = row.appointmentStart := by
      rw [replacedRow_of_none hnone]
      exact (sameTiming_replaceServices args row).appointmentStart
    rw [hm.appointmentStart, ← hreplaced]
    unfold targetStart
    rw [hnone]
    rfl
  refine ⟨hstart, ?_⟩
  rw [hm.appointmentEnd, if_pos ht, ← hstart]
  unfold targetEnd
  rw [hnone]
  rfl

/-- A later session of a booking that stays where it is has its window in the one it had. -/
theorem Shifted.within {s s' : Session} (h : Shifted args row s s')
    (hstart : args.appointmentStart.getD row.appointmentStart = row.appointmentStart)
    (hextra : extraDiff args row ≤ 0) :
    (windowOf s).1 ≤ (windowOf s').1 ∧ (windowOf s').2 ≤ (windowOf s).2 := by
  have hdelta : args.appointmentStart.getD row.appointmentStart - row.appointmentStart = 0 := by
    rw [hstart]
    exact sub_self _
  have hminutes : minutes (extraDiff args row) ≤ 0 :=
    mul_nonpos_of_nonpos_of_nonneg hextra (by decide)
  constructor
  · show s.appointmentStart ≤ s'.appointmentStart
    rw [h.start, hdelta]
    exact (add_zero _).ge
  · show s'.appointmentEnd ≤ s.appointmentEnd
    rcases h.finish with hend | hend
    · rw [hend, hdelta]
      exact (add_zero _).le
    · rw [hend, hdelta, add_zero]
      exact add_le_of_nonpos_right hminutes

/-- A careful update that leaves the booking its slots takes none that another one holds. -/
theorem free_updatedColumns {plan : Option PlanRequest} {given : UpdateArgs} (h : Calendar d)
    (hrow : row ∈ d.bookings) (hfull : updateArgs plan given = .ok args)
    (hcare : UpdatesCarefully args row) (hlooked : LookedUp args row d)
    (hblocks : Blocks (args.status.getD row.status)) (t : Uuid) (w : Instant × Instant)
    (hw : w ∈ therapistBusyWindows (updatedColumns args row) t) : ¬ BookedByOthers row.id t w d := by
  have hparked : remainsParked args row = false := by
    unfold remainsParked
    rw [decide_eq_false_iff_not]
    rintro ⟨hstatus, hnone | hsame⟩
    · rw [hnone] at hblocks
      exact absurd (hstatus ▸ hblocks) (by decide)
    · rw [hsame] at hblocks
      have hnot : ¬ Blocks .parked := by decide
      exact hnot hblocks
  rw [mem_therapistBusyWindows] at hw
  rcases updateArgs_cases hfull with hnone | ⟨first, rest, -, hsome⟩
  · have hspan := spanKept_synchronized hnone (h.span row hrow) hcare.span
    have hinside := window_inside (t := t) (fun s hs => hspan.inside hs)
      (mem_therapistBusyWindows.mpr hw)
    have hheld : ∀ {s : Session}, s ∈ getBookingSessions row → Serves s t → Blocks row.status →
        (windowOf s).1 ≤ w.1 → w.2 ≤ (windowOf s).2 → ¬ BookedByOthers row.id t w d :=
      fun hs hserves hb => free_of_held h.single hrow hb
        (mem_therapistBusyWindows.mpr ⟨_, hs, hserves, rfl⟩)
    have htail : ∀ {s : Session}, s ∈ row.sessions.tail → s ∈ getBookingSessions row := by
      intro s hs
      have hmem : s ∈ row.sessions := List.mem_of_mem_tail hs
      rw [getBookingSessions_of_stored (List.ne_nil_of_mem hmem)]
      exact hmem
    have hserved : ∀ {s s' : Session}, Shifted args row s s' → Serves s' t → Serves s t := by
      intro s s' hshift hserves
      unfold Serves at hserves ⊢
      rwa [hshift.therapistId, hshift.secondaryTherapistId] at hserves
    obtain ⟨lead', later', hl, hlead, hquiet, hlater⟩ :=
      (rearranged_updatedColumns hnone (h.led row hrow) (h.span row hrow)).split
    rw [hl] at hw
    obtain ⟨s', hs', hserves, rfl⟩ := hw
    by_cases ht : TouchesTiming args (replacedRow args row)
    · -- the therapists that are looked up are free wherever the booking is now
      have hfree : LooksFor args (replacedRow args row) t →
          ¬ BookedByOthers row.id t (windowOf s') d := by
        intro hlooks hbooked
        obtain ⟨hstart, hend⟩ := targets_unsynced row hnone ht
        rw [updatedColumns_of_none hnone] at hinside
        refine hlooked.moved hnone hparked ht t hlooks (hbooked.widen ?_ ?_)
        · rw [hstart]
          exact hinside.1
        · rw [hend]
          exact hinside.2
      rcases List.mem_cons.mp hs' with rfl | hs'
      · exact hfree ((hlead t).mp hserves)
      · obtain ⟨s, hs, hshift⟩ := hlater s' hs'
        rcases hcare.later hnone hblocks ht with ⟨hb, hstart, hextra⟩ | hlooks
        · obtain ⟨hle, hge⟩ := hshift.within hstart hextra
          exact hheld (htail hs) (hserved hshift hserves) hb hle hge
        · refine hfree (hlooks s hs t ?_)
          rw [List.mem_append, Option.mem_toList, Option.mem_toList]
          exact hserved hshift hserves
    · -- a booking that is left where it is holds its slots already
      have hb : Blocks row.status := by
        by_contra hnot
        exact ht (hcare.revived hnone hnot hblocks)
      obtain ⟨-, -, hstart, -, hextra⟩ := unsynced_of_not_touched row hnone ht
      rcases List.mem_cons.mp hs' with rfl | hs'
      · obtain ⟨lead, hmem, hserves', hwindow⟩ := hquiet ht
        refine hheld hmem (hserves' t hserves) hb ?_ ?_
        · rw [hwindow]
        · rw [hwindow]
      · obtain ⟨s, hs, hshift⟩ := hlater s' hs'
        have hput : args.appointmentStart.getD row.appointmentStart = row.appointmentStart :=
          (moved_unsynced hnone).appointmentStart.symm.trans hstart
        obtain ⟨hle, hge⟩ := hshift.within hput hextra.le
        exact hheld (htail hs) (hserved hshift hserves) hb hle hge
  · have hb : Brings first rest (updatedColumns args row) := brings_updatedColumns hsome
    have hne : (updatedColumns args row).sessions ≠ [] := by
      rw [hb.sessions]
      exact List.cons_ne_nil _ _
    rw [getBookingSessions_of_stored hne, hb.sessions] at hw
    obtain ⟨s, hs, hserves, rfl⟩ := hw
    exact hlooked.sent _ hsome hparked s hs t hserves

theorem led_updatedColumns {plan : Option PlanRequest} {given : UpdateArgs}
    (hfull : updateArgs plan given = .ok args) (hrow : Led row) (hcare : UpdatesCarefully args row) :
    Led (updatedColumns args row) := by
  rcases updateArgs_cases hfull with hnone | ⟨first, rest, hplanned, hsome⟩
  · have hm : Moved args row (unsynced args row) := moved_unsynced hnone
    have hsecondary := secondary_unsynced row hnone
    rw [updatedColumns_of_none hnone]
    generalize unsynced args row = u at *
    generalize (secondaryUpdate args (replacedRow args row)).given = given at *
    have hassigned : ∀ s ∈ row.sessions.head?,
        (assignTherapists given u s).therapistId = some u.therapistId ∧
          (assignTherapists given u s).secondaryTherapistId = u.secondaryTherapistId := by
      intro s hs
      refine ⟨(assignTherapists_work given u s).2, ?_⟩
      cases given with
      | false => exact (hrow s hs).2.trans (hsecondary rfl).symm
      | true => rfl
    cases hs : row.sessions using List.bidirectionalRec with
    | nil =>
      rw [syncSessions_nil (hm.sessions.trans hs)]
      rintro s ⟨⟩
    | singleton s =>
      rw [syncSessions_single (hm.sessions.trans hs)]
      rintro s' ⟨rfl⟩
      exact hassigned s (by rw [hs]; rfl)
    | cons_append first mid last _ =>
      rw [syncSessions_several (hm.sessions.trans hs)]
      rintro s' ⟨rfl⟩
      exact hassigned first (by rw [hs]; rfl)
  · have hm : MirrorColumns (legacyMirror first rest) row (replaceSessions args row) :=
      mirrorColumns_replaceSessions hsome
    have hcols := columns_unsynced args row
    have hnames := hcare.sent _ hsome first rest rfl
    have htherapist : some (replaceSessions args row).therapistId = first.therapistId := by
      rw [hm.therapistId]
      exact hplanned.first_therapist row.therapistId
    unfold Led
    have hb : Brings first rest (updatedColumns args row) := brings_updatedColumns hsome
    rw [hb.sessions]
    rintro s ⟨rfl⟩
    rw [updatedColumns_of_some hsome, hcols.therapistId, hcols.secondaryTherapistId]
    constructor
    · cases ht : args.therapistId with
      | none => exact htherapist.symm
      | some t => exact (hnames.therapistId t ht).symm
    · exact (secondaryUpdate_mirror htherapist hm.secondaryTherapistId hnames).symm

/-- `update_booking` once the checks have passed. -/
def writeUpdate (bookingId : Uuid) (args : UpdateArgs) (row updated : BookingRow) : Tx BookingRow := do
  let status := args.status.getD row.status
  if status ≠ row.status then do
    checkParking status row.status updated
    let now ← ask Env.now
    if releasesHold status then deleteHold bookingId else pure ()
    let written ← flushBooking ((Orm.ofRow row).set
      (assignUpdated (applyStatus args status now updated)))
    addBookingHistory { bookingId := bookingId, oldStatus := some row.status, newStatus := status,
                        source := args.source, reason := Text.orEmpty args.reason }
    if internalSource args.source then pure () else dispatchStatusEvent written.row status
    pure written.row
  else do
    let written ← flushBooking ((Orm.ofRow row).set (assignUpdated updated))
    if ¬ internalSource args.source ∧ written.row.paymentStatus ≠ row.paymentStatus ∧
        written.row.status = .confirmed then
      emit (.bookingConfirmed bookingId)
    else pure ()
    pure written.row

/-- What an update that returns has written. -/
def Rewritten (u : BookingRow) (status : BookingStatus) (d : Db) (k : Uuid) (d' : Db) : Prop :=
  ∃ b', Table.Replaces d.bookings k b' d'.bookings ∧ SameSchedule u b' ∧ b'.status = status

/-- A booking is written in place of the one that was loaded. -/
theorem ensures_rewrite {u : BookingRow} {f : BookingRow → BookingRow} {d₀ : Db}
    (hrow : Table.get d₀.bookings row.id = some row) (hd : d.bookings = d₀.bookings)
    (hid : ∀ r, (f r).id = r.id) (hu : ∀ a, SameSchedule u ((f row).setAttribution a)) :
    Ensures (fun _ => True) (Returns fun _ d' _ => Rewritten u (f row).status d₀ row.id d')
      (flushBooking ((Orm.ofRow row).set f)) d es := by
  have hget : Table.get d.bookings row.id = some row := by
    rw [hd]
    exact hrow
  refine (Payment.ensures_changeBooking trivial hget hid).mono (fun _ h => h) ?_
  intro r d' es' hr
  cases r with
  | error e => exact hr
  | ok written =>
    obtain ⟨-, -, -, a, hrep⟩ := hr
    rw [hd] at hrep
    exact ⟨_, hrep, hu a, rfl⟩

theorem Rewritten.keeps {u : BookingRow} {status : BookingStatus} {d'' : Db}
    (h : Rewritten u status d k d') (heq : d''.bookings = d'.bookings) : Rewritten u status d k d'' := by
  obtain ⟨b', hrep, hu⟩ := h
  exact ⟨b', by rw [heq]; exact hrep, hu⟩

theorem rewritten_updateBooking {bookingId : Uuid} (hinside : SessionsInside d) :
    Ensures (fun _ => True)
      (fun r d' _ => ∀ x, r = .ok x → ∃ row, Table.get d.bookings bookingId = some row ∧
        LookedUp args row d ∧
        Rewritten (updatedColumns args row) (args.status.getD row.status) d bookingId d')
      (updateBooking bookingId args) d es := by
  refine ensures_getById.bind_reads ?_ fun _ _ h => (by cases h)
  intro row hrow
  obtain rfl : row.id = bookingId := (Table.get_some hrow).2
  refine ensures_lookedUp (f := fun _ => writeUpdate row.id args row (updatedColumns args row)) hinside
    args row fun hlooked => ?_
  have hsame := updatedColumns_status row args
  suffices h : ∀ u : BookingRow, u.status = row.status → Ensures (fun _ => True)
      (fun r d' _ => ∀ x, r = .ok x → Rewritten u (args.status.getD row.status) d row.id d')
      (writeUpdate row.id args row u) d es by
    refine (h _ hsame).mono (fun _ h => h) ?_
    exact fun _ _ _ hwritten x hx => ⟨row, hrow, hlooked, hwritten x hx⟩
  clear hsame hlooked
  intro u hu
  unfold writeUpdate
  dsimp only
  by_cases hstatus : args.status.getD row.status ≠ row.status
  · rw [if_pos hstatus]
    generalize args.status.getD row.status = status
    have hwrite : ∀ (d₁ : Db) (es : List Emission) (now : Instant) (rest : Orm BookingRow → Tx BookingRow),
        d₁.bookings = d.bookings → (∀ o, Keeps Db.bookings (rest o)) →
        Ensures (fun _ => True) (fun r d' _ => ∀ x, r = .ok x → Rewritten u status d row.id d')
          (flushBooking ((Orm.ofRow row).set (assignUpdated (applyStatus args status now u))) >>= rest)
          d₁ es := by
      intro d₁ es now rest hd₁ hrest
      refine (ensures_rewrite (f := assignUpdated (applyStatus args status now u)) hrow hd₁
        (fun _ => rfl) (sameSchedule_status args status now u row)).bind_returns ?_
      intro written d₂ es₂ hwritten
      exact ensures_keeps (hrest written) fun d₃ heq => hwritten.keeps heq
    refine Transactions.ensures_bind_keeps (keeps_checkParking _ _ _) fun _ d₁ es₁ h₁ => ?_
    refine Transactions.ensures_bind_keeps (g := Db.bookings) (keeps_ask _) fun now d₂ es₂ h₂ => ?_
    have hrest : ∀ o : Orm BookingRow, Keeps Db.bookings (do
        addBookingHistory { bookingId := row.id, oldStatus := some row.status, newStatus := status,
                            source := args.source, reason := Text.orEmpty args.reason }
        if internalSource args.source then pure () else dispatchStatusEvent o.row status
        pure o.row : Tx BookingRow) := by
      intro o
      refine (keeps_addBookingHistory _).bind fun _ => ?_
      split_ifs
      · exact (keeps_pure _).bind fun _ => keeps_pure _
      · exact (keeps_dispatchStatusEvent _ _).bind fun _ => keeps_pure _
    by_cases hrelease : releasesHold status
    · rw [if_pos hrelease]
      refine Transactions.ensures_bind_keeps (keeps_deleteHold _) fun _ d₃ es₃ h₃ => ?_
      exact hwrite d₃ es₃ now _ (h₃.trans (h₂.trans h₁)) hrest
    · rw [if_neg hrelease]
      exact hwrite d₂ es₂ now _ (h₂.trans h₁) hrest
  · rw [if_neg hstatus]
    rw [not_not.mp hstatus, ← hu]
    refine (ensures_rewrite (f := assignUpdated u) hrow rfl (fun _ => rfl)
      (sameSchedule_assign u row)).bind_returns ?_
    intro written d₁ es₁ hwritten
    refine ensures_keeps ?_ fun d₂ heq => hwritten.keeps heq
    split_ifs
    · exact (keeps_emit _).bind fun _ => keeps_pure _
    · exact (keeps_pure _).bind fun _ => keeps_pure _

end Update

/-! ## What a change of therapist takes -/

section Change

variable {args : ChangeArgs} {sessionId : Uuid} {target : Session}

/-- A new therapist of the session has been found free in its window. -/
def NewlyFree (args : ChangeArgs) (target : Session) (k : Uuid) (d : Db) : Prop :=
  ∀ t, newPrimary args target = some t ∨ newSecondary args target = some t → ¬ Serves target t →
    ¬ BookedByOthers k t (windowOf target) d

theorem ensures_checkNewTherapist {bookingId : Uuid} (hinside : SessionsInside d) :
    Ensures (fun _ => True)
      (Reads d es fun _ => ¬ Serves target t → ¬ BookedByOthers bookingId t (windowOf target) d)
      (checkNewTherapist bookingId target t) d es := by
  unfold checkNewTherapist
  split_ifs with hserves
  · exact ⟨rfl, rfl, fun _ _ hnot => absurd hserves hnot⟩
  · refine (ensures_checkFree (w := windowOf target) hinside).mono (fun _ h => h) ?_
    rintro r d' es' ⟨hd, hes, hfree⟩
    exact ⟨hd, hes, fun u hu _ => hfree u hu⟩

theorem rewritten_changeSessionTherapist {bookingId : Uuid} (hinside : SessionsInside d) :
    Ensures (fun _ => True)
      (fun r d' _ => ∀ x, r = .ok x → ∃ row target, Table.get d.bookings bookingId = some row ∧
        (getBookingSessions row).find? (·.sessionId = sessionId) = some target ∧
        NewlyFree args target bookingId d ∧
        Rewritten (changedColumns sessionId args row) row.status d bookingId d')
      (changeSessionTherapist bookingId sessionId args) d es := by
  have herr : ∀ {P : BookingRow → Prop} (e : Error) (x : BookingRow),
      (Except.error e : Except Error BookingRow) = .ok x → P x := fun e x h => (by cases h)
  refine ensures_getById.bind_reads ?_ herr
  intro row hrow
  obtain rfl : row.id = bookingId := (Table.get_some hrow).2
  cases hfind : (getBookingSessions row).find? (·.sessionId = sessionId) with
  | none => exact herr _
  | some target =>
    dsimp only
    rw [ensures_bind_raiseIf]
    refine ⟨fun _ => herr _, fun _ => ?_⟩
    refine (ensures_forSome_reads fun t => ensures_checkNewTherapist hinside).bind_reads ?_ herr
    intro _ hprimary
    refine (ensures_forSome_reads fun t => ensures_checkNewTherapist hinside).bind_reads ?_ herr
    intro _ hsecondary
    have hfree : NewlyFree args target row.id d := fun t ht => ht.elim (hprimary t) (hsecondary t)
    rw [ensures_bind_raiseIf]
    refine ⟨fun _ => herr _, fun _ => ?_⟩
    have hwrite : ∀ (d₁ : Db) (es : List Emission), d₁.bookings = d.bookings →
        Ensures (fun _ => True)
          (fun r d' _ => ∀ x, r = .ok x → ∃ row' target', Table.get d.bookings row.id = some row' ∧
            (getBookingSessions row').find? (·.sessionId = sessionId) = some target' ∧
            NewlyFree args target' row.id d ∧
            Rewritten (changedColumns sessionId args row') row'.status d row.id d')
          (flushBooking ((Orm.ofRow row).set (assignUpdated (changedColumns sessionId args row))) >>=
            fun written => pure written.row) d₁ es := by
      intro d₁ es hd₁
      refine (ensures_rewrite (f := assignUpdated (changedColumns sessionId args row)) hrow hd₁
        (fun _ => rfl) (sameSchedule_assign _ row)).bind_returns ?_
      intro written d₂ es₂ hwritten x _
      have hstatus : (assignUpdated (changedColumns sessionId args row) row).status = row.status :=
        changedColumns_status row sessionId args
      rw [hstatus] at hwritten
      exact ⟨row, target, hrow, hfind, hfree, hwritten⟩
    split_ifs
    · refine Transactions.ensures_bind_keeps (keeps_forSome _ fun _ => keeps_moveHold _ _ _) ?_
      exact fun _ d₁ es₁ h₁ => hwrite d₁ es₁ h₁
    · exact hwrite d es rfl

/-- A change of therapist takes no slot of another booking. -/
theorem free_changedColumns (h : Calendar d) (hrow : row ∈ d.bookings)
    (hfind : (getBookingSessions row).find? (·.sessionId = sessionId) = some target)
    (hfree : NewlyFree args target row.id d) (hblocks : Blocks row.status) (t : Uuid)
    (w : Instant × Instant) (hw : w ∈ therapistBusyWindows (changedColumns sessionId args row) t) :
    ¬ BookedByOthers row.id t w d := by
  have hheld : ∀ s ∈ getBookingSessions row, Serves s t → ¬ BookedByOthers row.id t (windowOf s) d :=
    fun s hs hserves => free_of_held h.single hrow hblocks
      (mem_therapistBusyWindows.mpr ⟨s, hs, hserves, rfl⟩) le_rfl le_rfl
  obtain ⟨before, after, hsessions, -, -, hchanged⟩ := changeSession_split (changeTherapists args) hfind
  have hstored : getBookingSessions (changedColumns sessionId args row) =
      before ++ changeTherapists args target :: after := by
    have hcolumns : (changedColumns sessionId args row).sessions =
        before ++ changeTherapists args target :: after := by
      unfold changedColumns
      rw [hchanged]
      cases before with
      | nil => rfl
      | cons first rest => rfl
    rw [getBookingSessions_of_stored (by rw [hcolumns]; simp), hcolumns]
  rw [mem_therapistBusyWindows, hstored, exists_around] at hw
  rcases hw with ⟨s, hs, hserves, rfl⟩ | ⟨hserves, rfl⟩
  · refine hheld s ?_ hserves
    rw [hsessions]
    rcases List.mem_append.mp hs with hs | hs
    · exact List.mem_append_left _ hs
    · exact List.mem_append_right _ (List.mem_cons_of_mem _ hs)
  · rw [windowOf_changeTherapists]
    obtain ⟨hprimary, hsecondary, -⟩ := changeTherapists_spec args target
    by_cases hold : Serves target t
    · refine hheld target ?_ hold
      rw [hsessions]
      exact List.mem_append_right _ List.mem_cons_self
    · unfold Serves at hserves
      rw [hprimary, hsecondary] at hserves
      exact hfree t hserves hold

theorem led_changedColumns (hrow : Led row) : Led (changedColumns sessionId args row) := by
  have hchanged : Changed row (changedColumns sessionId args row) := changed_changedColumns
  intro s hs
  refine ⟨(hchanged.therapistId ?_ s hs).symm, (hchanged.secondaryTherapistId s hs).symm⟩
  by_cases hstored : row.sessions = []
  · rw [getBookingSessions_of_nil hstored]
    rintro s' ⟨rfl⟩
    exact Option.some_ne_none _
  · rw [getBookingSessions_of_stored hstored]
    intro s' hs'
    rw [(hrow s' hs').1]
    exact Option.some_ne_none _

end Change

/-! ## Runs -/

theorem led_newBooking {plan : Option PlanRequest} {given full : CreateArgs}
    (hfull : createArgs plan given = .ok full) (id : Uuid) (number : String) :
    Led (newBooking full id number) := by
  obtain ⟨htherapist, hsecondary, -, -⟩ := newBooking_others full id number
  unfold Led
  rw [newBooking_sessions, htherapist, hsecondary]
  rcases createArgs_cases hfull with hnil | ⟨first, rest, hplanned, rfl⟩
  · rw [hnil]
    rintro s ⟨⟩
  · rintro s ⟨rfl⟩
    exact ⟨(hplanned.first_therapist given.therapistId).symm, rfl⟩

/-- A booking that is written in windows that are free. -/
theorem Rewritten.single {u : BookingRow} {status : BookingStatus} (h : Calendar d)
    (hwritten : Rewritten u status d k d')
    (hfree : Blocks status → ∀ t, ∀ w ∈ therapistBusyWindows u t, ¬ BookedByOthers k t w d) :
    Table.Unique d'.bookings ∧ NoDoubleBooking d' := by
  obtain ⟨b', hrep, hsame, hstatus⟩ := hwritten
  refine ⟨hrep.unique h.unique, noDoubleBooking_replaced h.unique h.single hrep ?_⟩
  intro hblocks t w hw
  rw [windows_of_sameSchedule hsame] at hw
  exact hfree (hstatus ▸ hblocks) t w hw

theorem single_bookingStep {x : BookingOp × (ℕ → Env)} (h : Calendar d)
    (hx : calendarConditions.Meets d x) :
    Table.Unique (bookingStep d x).bookings ∧ NoDoubleBooking (bookingStep d x) := by
  have hcommit : ∀ {α : Type} {p : Tx α}, (Ensures (fun _ => True)
      (fun r d' _ => ∀ x, r = .ok x → Table.Unique d'.bookings ∧ NoDoubleBooking d') p d []) →
      Table.Unique (atomically x.2 (discard p) d).bookings ∧
        NoDoubleBooking (atomically x.2 (discard p) d) := by
    intro α p hp
    rw [atomically_discard]
    refine Ensures.atomically (Q := fun d' => Table.Unique d'.bookings ∧ NoDoubleBooking d') ?_ x.2
    refine hp.mono (fun _ h => h) ?_
    intro r d' es' hr
    cases r with
    | ok a => exact hr a rfl
    | error e => exact ⟨h.unique, h.single⟩
  obtain ⟨op, env⟩ := x
  cases op with
  | createBooking plan args =>
    unfold bookingStep bookingCode
    dsimp only
    cases hfull : createArgs plan args with
    | error e => exact ⟨h.unique, h.single⟩
    | ok full =>
      show Table.Unique (atomically env (discard (createBooking full)) d).bookings ∧
        NoDoubleBooking (atomically env (discard (createBooking full)) d)
      rw [atomically_discard]
      exact calendar_createBooking h hfull env
  | updateBooking bookingId plan args =>
    unfold bookingStep bookingCode
    dsimp only
    cases hfull : updateArgs plan args with
    | error e => exact ⟨h.unique, h.single⟩
    | ok full =>
      refine hcommit ((rewritten_updateBooking h.inside).mono (fun _ h => h) ?_)
      intro r d' es' hr b hb
      obtain ⟨row, hrow, hlooked, hwritten⟩ := hr b hb
      obtain ⟨hmem, hid⟩ := Table.get_some hrow
      obtain rfl : row.id = bookingId := hid
      refine hwritten.single h fun hblocks => ?_
      exact free_updatedColumns h hmem hfull (hx full hfull row hrow) hlooked hblocks
  | changeSessionTherapist bookingId sessionId args =>
    refine hcommit ((rewritten_changeSessionTherapist h.inside).mono (fun _ h => h) ?_)
    intro r d' es' hr b hb
    obtain ⟨row, target, hrow, hfind, hfree, hwritten⟩ := hr b hb
    obtain ⟨hmem, hid⟩ := Table.get_some hrow
    obtain rfl : row.id = bookingId := hid
    exact hwritten.single h fun hblocks => free_changedColumns h hmem hfind hfree hblocks

theorem calendar_bookingStep {x : BookingOp × (ℕ → Env)} (h : Calendar d)
    (hx : calendarConditions.Meets d x) : Calendar (bookingStep d x) := by
  obtain ⟨hunique, hsingle⟩ := single_bookingStep h hx
  have hspan : spanConditions.Meets d x := by
    obtain ⟨op, env⟩ := x
    cases op with
    | createBooking plan args => exact fun _ _ => trivial
    | updateBooking bookingId plan args => exact fun full hfull row hrow => (hx full hfull row hrow).span
    | changeSessionTherapist bookingId sessionId args => exact fun _ _ => trivial
  refine ⟨hunique, spanKept_step h.span hspan, ?_, hsingle⟩
  refine everyBooking_step ofSchedule_led ?_ ?_ ?_ h.led hx
  · exact fun plan args full hfull _ id number => led_newBooking hfull id number
  · exact fun plan args full row hfull hrow hcare => led_updatedColumns hfull hrow hcare
  · exact fun sessionId args row hrow _ => led_changedColumns hrow

theorem calendar_step (settings : PaymentLinks.LinkSettings) {x : CalendarOp × (ℕ → Env)}
    (h : Calendar d) (hx : Careful d x) : Calendar (calendarStep settings d x) := by
  have hlight : ∀ {α : Type} {p : Tx α} (env : ℕ → Env), (Ensures (fun _ => True)
      (fun _ d' _ => Lightens d d') p d []) → Calendar (atomically env (discard p) d) := by
    intro α p env hp
    rw [atomically_discard]
    refine h.lightens (Ensures.atomically (Q := Lightens d) ?_ env)
    refine hp.mono (fun _ h => h) ?_
    intro r d' es' hr
    cases r with
    | ok a => exact hr
    | error e => exact lightens_of_same rfl
  obtain ⟨op, env⟩ := x
  cases op with
  | planned op => exact calendar_bookingStep h hx
  | confirmBooking bookingId paymentData source =>
    exact hlight env (lightens_confirmBooking h.unique hx)
  | cancelBooking bookingId args =>
    exact hlight env ((lightens_cancelBooking settings bookingId args).ensures d [])
  | requestReschedule bookingId newStart newEnd customerId source =>
    exact hlight env (lightens_requestReschedule h.unique)
  | settleLink linkId state source =>
    exact hlight env ((lightens_applyTo linkId state source).ensures d [])

/-- All along a run of calls, one after the other, whose updates are careful, no therapist is booked
twice. -/
theorem calendar_never_clashes (settings : PaymentLinks.LinkSettings)
    (ops : List (CalendarOp × (ℕ → Env)))
    (h : Runs.AllSteps (calendarStep settings) Careful {} ops) :
    Runs.Always (calendarStep settings) NoDoubleBooking {} ops := by
  have hempty : Calendar {} :=
    ⟨List.nodup_nil, fun b hb => (by cases hb), fun b hb => (by cases hb), List.Pairwise.nil⟩
  have hrun : Runs.Always (calendarStep settings) Calendar {} ops :=
    Runs.always_of_allSteps (fun d x hd hx => calendar_step settings hd hx) hempty h
  exact hrun.mono fun _ hd => hd.single

/-- A cancelled booking of two sessions, whose first slot another booking has taken, and what brings it
back. -/
def revival (args : UpdateArgs) : List (CalendarOp × (ℕ → Env)) :=
  [(.planned (createsHours [7, 11]).1, fun _ => { uuid := 1 }),
    (.cancelBooking 1 {}, fun _ => {}),
    (.planned (createsHours [7]).1, fun _ => { uuid := 2 }),
    (.confirmBooking 2 none "admin", fun _ => {}),
    (.planned (updates args).1, fun _ => {})]

/-- It comes back an hour later. -/
theorem calendar_never_clashes_revived :
    let settings : PaymentLinks.LinkSettings :=
      { adapter := fun name => { name := name, providerLabel := name } }
    let ops := revival
      { status := some .confirmed, appointmentStart := some (minutes 480), totalDuration := some 300 }
    (Runs.run (calendarStep settings) {} ops).bookings.map (fun b => (b.status, b.appointmentStart)) =
        [(.confirmed, minutes 480), (.confirmed, minutes 420)] ∧
      Runs.Always (calendarStep settings) NoDoubleBooking {} ops := by
  intro settings ops
  exact ⟨by decide +kernel, calendar_never_clashes settings ops (by decide +kernel)⟩

/-- A status alone brings it back to the slot it has lost. -/
theorem revival_clashes :
    let settings : PaymentLinks.LinkSettings :=
      { adapter := fun name => { name := name, providerLabel := name } }
    ¬ Runs.Always (calendarStep settings) NoDoubleBooking {}
      (revival { status := some .confirmed }) := by
  intro settings h
  have hsingle : NoDoubleBooking (Runs.run (calendarStep settings) {} _) := h.last
  have htwice : ∃ b ∈ (Runs.run (calendarStep settings) {} (revival { status := some .confirmed })).bookings,
      ∃ b' ∈ (Runs.run (calendarStep settings) {} (revival { status := some .confirmed })).bookings,
        b ≠ b' ∧ b.status ∉ nonBlockingBookingStatuses ∧ b'.status ∉ nonBlockingBookingStatuses ∧
          ∃ w ∈ therapistBusyWindows b 2, OverlapsPerSession 2 w.1 w.2 b' := by decide +kernel
  obtain ⟨b, hb, b', hb', hne, hblocks, hblocks', w, hw, hover⟩ := htwice
  exact hsingle.apart hb hb' hne ⟨hblocks, hblocks', 2, w, hw, hover⟩

end Booking
