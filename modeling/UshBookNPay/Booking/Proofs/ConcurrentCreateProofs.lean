import UshBookNPay.Booking.Interleavings
import UshBookNPay.Booking.Proofs.HoldProofs
import UshBookNPay.Booking.Proofs.SparingProofs
import UshBookNPay.Booking.Proofs.SpanProofs
import UshBookNPay.Lib.RelyGuarantee

/-!
# Bookings created at the same time

A call of `create_booking` relies on the others to leave the windows free that it has found free. Where a
call commits before any that clashes with it looks for overlaps, no therapist is booked twice.
-/

open Transactions
open Transactions.Prog (query update raiseIf ask emit forSome)

namespace Booking

/-! ## What the calls rely on -/

/-- What others commit keeps the windows free that are free of the therapists in `W`. -/
structure KeepsFree (W : Uuid → Instant × Instant → Prop) (d d' : Db) : Prop where
  inside : SessionsInside d → SessionsInside d'
  free : ∀ t w, W t w → ¬ BookedIn t w.1 w.2 d → ¬ BookedIn t w.1 w.2 d'

/-- The windows in `S` have been found free, as far as they are in `W`. -/
structure Cleared (W S : Uuid → Instant × Instant → Prop) (d : Db) : Prop where
  inside : SessionsInside d
  free : ∀ t w, S t w → W t w → ¬ BookedIn t w.1 w.2 d

section Checks

variable {W S : Uuid → Instant × Instant → Prop} {d d' : Db}

theorem keepsFree_refl (d : Db) : KeepsFree W d d := ⟨id, fun _ _ _ h => h⟩

theorem keepsFree_trans (d d' d'' : Db) (h : KeepsFree W d d') (h' : KeepsFree W d' d'') :
    KeepsFree W d d'' :=
  ⟨fun hd => h'.inside (h.inside hd), fun t w hw hd => h'.free t w hw (h.free t w hw hd)⟩

theorem Cleared.rely (h : Cleared W S d) (hd : KeepsFree W d d') : Cleared W S d' :=
  ⟨hd.inside h.inside, fun t w hs hw => hd.free t w hw (h.free t w hs hw)⟩

/-- Nothing is written yet, and the windows in `S` have been found free. -/
def Checking (W S : Uuid → Instant × Instant → Prop) (d : Db) (_ : Unit) (w : Db → Db) : Prop :=
  w = id ∧ Cleared W S d

/-- A check that passes finds one more window free. -/
theorem relies_checkSlot {start finish : Instant} {t : Uuid} (h : Cleared W S d) :
    Relies (KeepsFree W) (Checking W fun t' w => S t' w ∨ t' = t ∧ w = (start, finish))
      (checkSlot start finish t) id d := by
  intro d₁ hd₁ a
  have hcleared : Cleared W S d₁ := h.rely hd₁
  show Relies (KeepsFree W) _ (raiseIf _ _) _ d₁
  unfold raiseIf
  split_ifs with hbusy
  · trivial
  · intro d₂ hd₂
    refine ⟨rfl, Cleared.rely ⟨hcleared.inside, ?_⟩ hd₂⟩
    rintro t' w (hs | ⟨rfl, rfl⟩) hw
    · exact hcleared.free t' w hs hw
    · rw [← findTherapistOverlap_eq_none_iff hcleared.inside]
      simpa using hbusy

theorem relies_forSome_checkSlot {start finish : Instant} {o : Option Uuid} (h : Cleared W S d) :
    Relies (KeepsFree W) (Checking W fun t w => S t w ∨ o = some t ∧ w = (start, finish))
      (forSome o (checkSlot start finish)) id d := by
  cases o with
  | none =>
    intro d' hd'
    refine ⟨rfl, Cleared.rely ⟨h.inside, ?_⟩ hd'⟩
    rintro t w (hs | ⟨hnone, -⟩) hw
    · exact h.free t w hs hw
    · cases hnone
  | some t =>
    refine (relies_checkSlot h).mono fun d' _ w hchecking => ⟨hchecking.1, hchecking.2.inside, ?_⟩
    rintro t' w' (hs | ⟨ht, hw⟩) hW
    · exact hchecking.2.free t' w' (.inl hs) hW
    · exact hchecking.2.free t' w' (.inr ⟨(Option.some.inj ht).symm, hw⟩) hW

theorem relies_checkSessionSlots {l : List Session} (h : Cleared W S d) :
    Relies (KeepsFree W) (Checking W fun t w => S t w ∨
        ∃ s ∈ l, Serves s t ∧ w = (s.appointmentStart, s.appointmentEnd))
      (checkSessionSlots l) id d := by
  induction l generalizing S d with
  | nil =>
    intro d' hd'
    refine ⟨rfl, Cleared.rely ⟨h.inside, ?_⟩ hd'⟩
    rintro t w (hs | ⟨s, hs, -⟩) hw
    · exact h.free t w hs hw
    · cases hs
  | cons s rest ih =>
    refine (relies_forSome_checkSlot h).bind keepsFree_refl ?_
    rintro d₁ - w₁ ⟨rfl, h₁⟩
    refine (relies_forSome_checkSlot h₁).bind keepsFree_refl ?_
    rintro d₂ - w₂ ⟨rfl, h₂⟩
    refine (ih h₂).mono fun d₃ _ w hchecking => ⟨hchecking.1, hchecking.2.inside, ?_⟩
    rintro t w' (hs | ⟨s', hs', hserves, rfl⟩) hW
    · exact hchecking.2.free t w' (.inl (.inl (.inl hs))) hW
    · rcases List.mem_cons.mp hs' with rfl | hs'
      · rcases hserves with hfirst | hsecond
        · exact hchecking.2.free t _ (.inl (.inl (.inr ⟨hfirst, rfl⟩))) hW
        · exact hchecking.2.free t _ (.inl (.inr ⟨hsecond, rfl⟩)) hW
      · exact hchecking.2.free t _ (.inr ⟨s', hs', hserves, rfl⟩) hW

end Checks

/-! ## The new booking -/

theorem windows_newBooking (args : CreateArgs) (id : Uuid) (number : String) (t : Uuid) :
    therapistBusyWindows (newBooking args id number) t =
      therapistBusyWindows (newBooking args 0 "") t := by
  unfold newBooking
  cases args.services <;> rfl

/-- The windows the checks of a call look at. -/
def Asked (args : CreateArgs) (t : Uuid) (w : Instant × Instant) : Prop :=
  if args.sessions ≠ [] then
    ∃ s ∈ args.sessions, Serves s t ∧ w = (s.appointmentStart, s.appointmentEnd)
  else (t = args.therapistId ∨ args.secondaryTherapistId = some t) ∧
    w = (args.appointmentStart, args.appointmentEnd)

/-- A new booking blocks its therapists in windows that the checks look at. -/
theorem asked_of_window {args : CreateArgs} {t : Uuid} {w : Instant × Instant}
    (h : w ∈ therapistBusyWindows (newBooking args 0 "") t) : Asked args t w := by
  have hcolumns : (newBooking args 0 "").sessions = args.sessions ∧
      (newBooking args 0 "").therapistId = args.therapistId ∧
      (newBooking args 0 "").secondaryTherapistId = args.secondaryTherapistId ∧
      (newBooking args 0 "").appointmentStart = args.appointmentStart ∧
      (newBooking args 0 "").appointmentEnd = args.appointmentEnd := by
    unfold newBooking
    cases args.services <;> exact ⟨rfl, rfl, rfl, rfl, rfl⟩
  obtain ⟨hsessions, htherapist, hsecondary, hstart, hend⟩ := hcolumns
  unfold therapistBusyWindows at h
  rw [hsessions, htherapist, hsecondary, hstart, hend] at h
  unfold Asked
  split_ifs at h ⊢ with hstored ht
  · obtain ⟨s, hs, rfl⟩ := List.mem_map.mp h
    rw [List.mem_filter, decide_eq_true_eq] at hs
    exact ⟨s, hs.1, hs.2, rfl⟩
  · exact ⟨ht.imp_left Eq.symm, List.mem_singleton.mp h⟩
  · cases h

/-- The booking is the one of the call, in what concerns its therapists. -/
structure Books (call : CreateCall) (b : BookingRow) : Prop where
  status : b.status = call.args.status
  windows : ∀ t, therapistBusyWindows b t = therapistBusyWindows (newBooking call.args 0 "") t
  inside : ∀ s ∈ b.sessions,
    b.appointmentStart ≤ s.appointmentStart ∧ s.appointmentEnd ≤ b.appointmentEnd

theorem books_newBooking (call : CreateCall) (id : Uuid) (number : String)
    (a : PaymentAttribution.Attribution) :
    Books call ((newBooking call.args id number).setAttribution a) where
  status := by
    unfold newBooking
    cases call.args.services <;> rfl
  windows := windows_newBooking call.args id number
  inside := by
    obtain ⟨plan, given, hplanned⟩ := call.planned
    have hspan : SpanKept (newBooking call.args id number) := by
      rcases createArgs_cases hplanned with hnil | ⟨first, rest, hvalid, heq⟩
      · apply spanKept_of_no_sessions
        rw [newBooking_sessions, hnil]
      · rw [heq]
        exact (brings_newBooking given id number).spanKept hvalid.valid.inOrder
    exact fun s hs => hspan.inside hs

/-! ## What a call guarantees -/

/-- A call commits no booking, or the one it was made for, whose windows are free then. -/
def Guarantees (call : CreateCall) (d : Db) (_ : BookingRow) (w : Db → Db) : Prop :=
  (∀ d', (w d').bookings = d'.bookings) ∨
    ∃ b, Books call b ∧ (∀ d', (w d').bookings = d'.bookings ++ [b]) ∧
      ∀ t win, call.Wants t win → ¬ BookedIn t win.1 win.2 d

theorem spares_addBookingHistory (row : BookingStatusHistoryRow) :
    Spares Db.bookings (addBookingHistory row) :=
  spares_update fun _ => rfl

theorem relies_insertBooking {W S : Uuid → Instant × Instant → Prop} {b : BookingRow} {w : Db → Db}
    {d : Db} (h : Cleared W S d) :
    Relies (KeepsFree W) (fun d' b' w' => Cleared W S d' ∧ b' = b.beforeWrite ∧
        ∀ d₁, (w' d₁).bookings = (w d₁).bookings ++ [b.beforeWrite]) (insertBooking b) w d := by
  unfold insertBooking
  generalize b.beforeWrite = row
  refine relies_bind_checkedUpdate fun d₁ hd₁ _ => ?_
  exact fun d₂ hd₂ => ⟨(h.rely hd₁).rely hd₂, rfl, fun _ => rfl⟩

/-- What follows the checks of a call. -/
def writeNew (args : CreateArgs) : Tx BookingRow := do
  let bookingNumber ← generateBookingNumber args.appointmentStart
  let id ← ask Env.uuid
  let booking ← insertBooking (newBooking args id bookingNumber)
  holdBooking booking
  addBookingHistory { bookingId := booking.id, oldStatus := none, newStatus := booking.status,
                      source := args.source, reason := "" }
  if booking.status = .confirmed then emit (.bookingConfirmed booking.id) else pure ()
  pure booking

theorem createNew_eq (args : CreateArgs) : createNew args =
    (raiseIf (args.secondaryTherapistId = some args.therapistId)
      (.validation "The secondary therapist must differ from the primary therapist.") >>= fun _ =>
    if args.sessions ≠ [] then checkSessionSlots args.sessions >>= fun _ => writeNew args
    else checkSlot args.appointmentStart args.appointmentEnd args.therapistId >>= fun _ =>
      forSome args.secondaryTherapistId (checkSlot args.appointmentStart args.appointmentEnd) >>=
        fun _ => writeNew args) := rfl

section Guarantee

variable {call : CreateCall} {d : Db}

/-- Once its windows are found free, a call guarantees what it writes. -/
theorem relies_writeNew (h : Cleared call.Wants (Asked call.args) d) :
    Relies (KeepsFree call.Wants) (Guarantees call) (writeNew call.args) id d := by
  have hquiet : ∀ {α : Type} {p : Tx α}, Spares Db.bookings p → ∀ {w : Db → Db} {d : Db},
      Relies (KeepsFree call.Wants)
        (fun d' _ w' => KeepsFree call.Wants d d' ∧ ∀ d₁, (w' d₁).bookings = (w d₁).bookings) p w d :=
    fun hp => hp.relies keepsFree_refl keepsFree_trans
  refine (hquiet (spares_generateBookingNumber _)).bind keepsFree_refl ?_
  rintro d₁ number w₁ ⟨hd₁, hw₁⟩
  refine (hquiet (spares_ask _)).bind keepsFree_refl ?_
  rintro d₂ id w₂ ⟨hd₂, hw₂⟩
  have hcleared : Cleared call.Wants (Asked call.args) d₂ := (h.rely hd₁).rely hd₂
  refine (relies_insertBooking hcleared).bind keepsFree_refl ?_
  rintro d₃ booking w₃ ⟨hd₃, rfl, hw₃⟩
  generalize hrow : (newBooking call.args id number).beforeWrite = row at hw₃
  have hbooks : Books call row := by
    rw [← hrow]
    exact books_newBooking call id number _
  refine (hquiet (p := holdBooking row >>= fun _ => _) ?_).mono ?_
  · refine ((spares_holdBooking _).comp fun x => x.1.1).bind fun _ => (spares_addBookingHistory _).bind fun _ => ?_
    split_ifs
    · exact (spares_call _ _).bind fun _ => spares_pure _
    · exact (spares_pure _).bind fun _ => spares_pure _
  · rintro d₄ - w₄ ⟨hd₄, hw₄⟩
    refine .inr ⟨row, hbooks, fun d' => ?_, fun t win hwants => ?_⟩
    · rw [hw₄ d', hw₃ d', hw₂ d', hw₁ d']
      rfl
    · exact (hd₃.rely hd₄).free t win (asked_of_window hwants.2) hwants

theorem relies_createNew (hinside : SessionsInside d) :
    Relies (KeepsFree call.Wants) (Guarantees call) (createNew call.args) id d := by
  have hnone : Cleared call.Wants (fun _ _ => False) d := ⟨hinside, fun _ _ h => h.elim⟩
  rw [createNew_eq]
  refine relies_bind_raiseIf fun _ => ?_
  split_ifs with hsessions
  · refine (relies_checkSessionSlots hnone).bind keepsFree_refl ?_
    rintro d₁ - w₁ ⟨rfl, hchecked⟩
    refine relies_writeNew ⟨hchecked.inside, fun t w hasked hwants => ?_⟩
    unfold Asked at hasked
    rw [if_pos hsessions] at hasked
    exact hchecked.free t w (.inr hasked) hwants
  · refine (relies_checkSlot hnone).bind keepsFree_refl ?_
    rintro d₁ - w₁ ⟨rfl, hfirst⟩
    refine (relies_forSome_checkSlot hfirst).bind keepsFree_refl ?_
    rintro d₂ - w₂ ⟨rfl, hchecked⟩
    refine relies_writeNew ⟨hchecked.inside, fun t w hasked hwants => ?_⟩
    unfold Asked at hasked
    rw [if_neg hsessions] at hasked
    rcases hasked with ⟨hprimary | hsecondary, hw⟩
    · exact hchecked.free t w (.inl (.inr ⟨hprimary, hw⟩)) hwants
    · exact hchecked.free t w (.inr ⟨hsecondary, hw⟩) hwants

theorem relies_createBooking (hinside : SessionsInside d) :
    Relies (KeepsFree call.Wants) (Guarantees call) (createCode call) id d := by
  refine relies_bind_raiseIf fun _ => relies_bind_raiseIf fun _ => relies_bind_query ?_
  intro d' hd'
  split
  · exact fun _ _ => .inl fun _ => rfl
  · exact relies_createNew (hd'.inside hinside)

end Guarantee

/-! ## Runs -/

/-- What holds of the committed bookings. -/
structure Orderly (d : Db) : Prop where
  inside : SessionsInside d
  single : NoDoubleBooking d

section Runs

variable {call call' : CreateCall} {d : Db} {b : BookingRow} {w : Db → Db}

/-- What a call commits keeps the bookings in order. -/
theorem orderly_commit (h : Orderly d) (hw : Guarantees call d b w) : Orderly (w d) := by
  rcases hw with hsame | ⟨row, hrow, hbookings, hfree⟩
  · constructor
    · intro b hb
      rw [hsame d] at hb
      exact h.inside b hb
    · unfold NoDoubleBooking
      rw [hsame d]
      exact h.single
  constructor
  · intro b hb
    rw [hbookings d] at hb
    rcases List.mem_append.mp hb with hb | hb
    · exact h.inside b hb
    · rw [List.mem_singleton.mp hb]
      exact hrow.inside
  · unfold NoDoubleBooking
    rw [hbookings d, List.pairwise_append]
    refine ⟨h.single, List.pairwise_singleton _ _, fun b hb b' hb' => ?_⟩
    rw [List.mem_singleton.mp hb']
    rintro ⟨hblocks, hblocks', t, win, hwin, win', hwin', hlt, hgt⟩
    rw [hrow.windows t] at hwin'
    exact hfree t win' ⟨hrow.status ▸ hblocks', hwin'⟩ ⟨b, hb, hblocks, win, hwin, hgt, hlt⟩

/-- A call keeps the windows free that no booking of its own is to block. -/
theorem keepsFree_commit (hw : Guarantees call d b w) (hclash : ¬ Clash call call') :
    KeepsFree call'.Wants d (w d) := by
  rcases hw with hsame | ⟨row, hrow, hbookings, -⟩
  · constructor
    · intro hinside b hb
      rw [hsame d] at hb
      exact hinside b hb
    · rintro t win - hfree ⟨b, hb, hover⟩
      rw [hsame d] at hb
      exact hfree ⟨b, hb, hover⟩
  constructor
  · intro hinside b hb
    rw [hbookings d] at hb
    rcases List.mem_append.mp hb with hb | hb
    · exact hinside b hb
    · rw [List.mem_singleton.mp hb]
      exact hrow.inside
  · rintro t win hwants hfree ⟨b, hb, hblocks, win', hwin', hlt, hgt⟩
    rw [hbookings d] at hb
    rcases List.mem_append.mp hb with hb | hb
    · exact hfree ⟨b, hb, hblocks, win', hwin', hlt, hgt⟩
    · rw [List.mem_singleton.mp hb] at hblocks hwin'
      rw [hrow.windows t] at hwin'
      exact hclash ⟨t, win', win, ⟨hrow.status ▸ hblocks, hwin'⟩, hwants, hlt, hgt⟩

/-- A call for one hour of a therapist. -/
def hourArgs (t : Uuid) : CreateArgs :=
  { customerId := 1, therapistId := t, services := [{}], appointmentStart := minutes 600
    appointmentEnd := minutes 660 }

def hourCall (t : Uuid) : CreateCall := ⟨hourArgs t, none, hourArgs t, rfl⟩

/-- Both calls look for overlaps before one of them commits. -/
def checksTogether : List (Event CreateCall Env) :=
  List.replicate 2 (.exec 0 {}) ++ List.replicate 2 (.exec 1 {}) ++
    List.replicate 6 (.exec 0 { uuid := 10 })

def together (t t' : Uuid) : List (Event CreateCall Env) :=
  .start 0 (hourCall t) :: .start 1 (hourCall t') :: checksTogether ++
    .finish 0 :: List.replicate 6 (.exec 1 { uuid := 11 }) ++ [.finish 1]

theorem wants_hour {call : CreateCall} {t t' : Uuid} {w : Instant × Instant}
    (hargs : call.args = hourArgs t) (h : call.Wants t' w) : t' = t := by
  have hasked := asked_of_window h.2
  rw [hargs] at hasked
  rcases (show (t' = t ∨ none = some t') ∧ _ from hasked).1 with ht | hnone
  · exact ht
  · cases hnone

/-- In every interleaving of calls of `create_booking` in which a call commits before any other that
clashes with it begins to look for overlaps, no therapist is ever booked twice. -/
theorem never_double_booked (d : Db) (evs : List (Event CreateCall Env)) (hinside : SessionsInside d)
    (hsingle : NoDoubleBooking d)
    (h : Runs.AllSteps (System.step createCode) CommitsFirst ({ db := d } : CreateSystem) evs) :
    Runs.Always (System.step createCode) (fun s => NoDoubleBooking s.db)
      ({ db := d } : CreateSystem) evs := by
  let R : CreateCall → Db → Db → Prop := fun call => KeepsFree call.Wants
  have hcode : ∀ d call, Orderly d → Relies (R call) (Guarantees call) (createCode call) id d :=
    fun d call hd => relies_createBooking hd.inside
  have hrun := Runs.always_of_allSteps (P := Guaranteed Orderly R Guarantees)
    (Q := CommitsFirst) ?_ ⟨⟨hinside, hsingle⟩, fun sid t ht => by cases ht⟩ h
  · exact hrun.mono fun s hs => hs.inv.single
  intro s ev hs hev
  refine hs.step (fun call => keepsFree_refl) hcode
    (fun d call b w hd hw => orderly_commit hd hw) ev ?_
  rintro t b sid u rfl ht hprog hw hne hu
  have hmem := Table.get_some hu
  by_cases hclash : Clash t.op u.op
  · -- the other session has not read anything yet that the commit could change
    have hcommitting : t.committing := by
      unfold Transactions.Session.committing
      rw [hprog]
    obtain ⟨hwrites, hstart⟩ := hev t ht hcommitting u hmem.1 (fun h => hne (hmem.2 ▸ h)) hclash
    have hd : Orderly (t.writes s.db) := orderly_commit hs.inv hw
    rw [hwrites]
    rcases hstart with hprog' | hprog'
    · rw [hprog']
      exact relies_createBooking hd.inside
    · rw [hprog']
      exact relies_createNew hd.inside
  · exact (hs.sessions sid u hu).rely keepsFree_trans (keepsFree_commit hw hclash)

/-- Two calls for different therapists may go on together. -/
theorem never_double_booked_together :
    Runs.Always (System.step createCode) (fun s => NoDoubleBooking s.db)
      ({ db := {} } : CreateSystem) (together 2 3) := by
  refine never_double_booked {} (together 2 3) (by rintro b ⟨⟩) .nil ?_
  have hquiet : ∀ (s : CreateSystem) (evs : List (Event CreateCall Env)),
      (∀ ev ∈ evs, ∀ sid, ev ≠ .finish sid) →
      Runs.AllSteps (System.step createCode) CommitsFirst s evs := by
    intro s evs hevs
    refine Runs.allSteps_of_allSteps (I := fun _ => True) (Q := fun _ ev => ∀ sid, ev ≠ .finish sid)
      (fun s ev _ hev => ⟨trivial, ?_⟩) trivial (Runs.allSteps_of_mem hevs)
    cases ev with
    | finish sid => exact (hev sid rfl).elim
    | start _ _ => trivial
    | exec _ _ => trivial
    | crash _ => trivial
  have hapart : ∀ (s : CreateSystem) (sid : ℕ),
      (∀ u ∈ s.sessions, u.op.args = hourArgs (u.sid + 2)) → CommitsFirst s (.finish sid) := by
    rintro s sid hops t ht - u hu hne ⟨t₀, w, w', hw, hw', -⟩
    obtain ⟨hmem, hsid⟩ := Table.get_some ht
    have hsame := (wants_hour (hops u hu) hw').symm.trans (wants_hour (hops t hmem) hw)
    exact (hne (Nat.add_right_cancel hsame |>.trans hsid)).elim
  unfold together
  rw [Runs.AllSteps.append_iff, Runs.AllSteps.append_iff]
  refine ⟨⟨hquiet _ _ ?_, hapart _ 0 ?_, hquiet _ _ ?_⟩, hapart _ 1 ?_, trivial⟩
  · simp [checksTogether]
  · decide +kernel
  · simp
  · decide +kernel

/-- Two calls for one therapist that look for overlaps together are both stored. -/
example : (Runs.run (System.step createCode) ({ db := {} } : CreateSystem)
    (together 2 2)).db.bookings.map (therapistBusyWindows · 2) =
      [[(minutes 600, minutes 660)], [(minutes 600, minutes 660)]] := by
  decide +kernel

end Runs

end Booking
