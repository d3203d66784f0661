import UshBookNPay.Booking.Proofs.SessionProofs

/-!
# The columns of an updated booking

What `update_booking` makes of the columns that concern the sessions, and of the sessions when it is
not given any.
-/

namespace Booking

variable {args : UpdateArgs} {b row : BookingRow}

/-! ## The parts of an update -/

/-- The columns of the schedule that the services, the arrangement, the payment and the prices of an
update leave alone. -/
structure SameTiming (b b' : BookingRow) : Prop where
  sessions : b'.sessions = b.sessions
  therapistId : b'.therapistId = b.therapistId
  secondaryTherapistId : b'.secondaryTherapistId = b.secondaryTherapistId
  appointmentDate : b'.appointmentDate = b.appointmentDate
  appointmentStart : b'.appointmentStart = b.appointmentStart
  appointmentEnd : b'.appointmentEnd = b.appointmentEnd
  extraMinutes : b'.extraMinutes = b.extraMinutes

theorem SameTiming.trans {b' b'' : BookingRow} (h : SameTiming b b') (h' : SameTiming b' b'') :
    SameTiming b b'' where
  sessions := h'.sessions.trans h.sessions
  therapistId := h'.therapistId.trans h.therapistId
  secondaryTherapistId := h'.secondaryTherapistId.trans h.secondaryTherapistId
  appointmentDate := h'.appointmentDate.trans h.appointmentDate
  appointmentStart := h'.appointmentStart.trans h.appointmentStart
  appointmentEnd := h'.appointmentEnd.trans h.appointmentEnd
  extraMinutes := h'.extraMinutes.trans h.extraMinutes

/-- What an update without sessions does to the services, the add-ons and the durations. -/
structure SamePrices (b b' : BookingRow) : Prop where
  addons : b'.addons = b.addons
  addonsDuration : b'.addonsDuration = b.addonsDuration
  totalDuration : b'.totalDuration = b.totalDuration

theorem sameTiming_replaceServices (args : UpdateArgs) (b : BookingRow) :
    SameTiming b (replaceServices args b) := by
  unfold replaceServices
  cases args.services with
  | none => constructor <;> rfl
  | some entries => cases entries <;> constructor <;> rfl

theorem samePrices_replaceServices (args : UpdateArgs) (b : BookingRow) :
    SamePrices b (replaceServices args b) := by
  unfold replaceServices
  cases args.services with
  | none => constructor <;> rfl
  | some entries => cases entries <;> constructor <;> rfl

theorem replaceServices_services (args : UpdateArgs) (b : BookingRow) :
    (replaceServices args b).services = args.services.getD b.services := by
  unfold replaceServices
  cases args.services with
  | none => rfl
  | some entries => cases entries <;> rfl

theorem replaceServices_durationMinutes (args : UpdateArgs) (b : BookingRow)
    (h : ∀ entries ∈ args.services, totalServicesDuration entries = 0 ∨
      totalServicesDuration entries = b.durationMinutes) :
    (replaceServices args b).durationMinutes = b.durationMinutes := by
  unfold replaceServices
  cases hs : args.services with
  | none => rfl
  | some entries =>
    show Voucher.intOr (totalServicesDuration entries) b.durationMinutes = b.durationMinutes
    unfold Voucher.intOr
    split_ifs with hzero
    · rfl
    · rcases h entries hs with heq | heq
      · exact absurd heq hzero
      · exact heq

/-- An arrangement is one of the first service: the services stay, where they are stored. -/
theorem applyArrangement_services (h : args.services = none → b.services ≠ []) :
    (applyArrangement args b).services.map (·.serviceId) = b.services.map (·.serviceId) := by
  unfold applyArrangement
  dsimp only
  split_ifs with harr
  · cases hs : b.services with
    | nil => exact absurd hs (h harr.1)
    | cons first rest => simp [getBookingServices]
  · rfl

theorem sameTiming_applyArrangement (args : UpdateArgs) (b : BookingRow) :
    SameTiming b (applyArrangement args b) := by
  unfold applyArrangement
  dsimp only
  split_ifs
  · split
    · constructor <;> rfl
    · constructor <;> rfl
  · constructor <;> rfl

/-- The columns that the arrangement, the payment and the prices are not about. -/
structure Finished (args : UpdateArgs) (b b' : BookingRow) : Prop where
  timing : SameTiming b b'
  services : (args.services = none → b.services ≠ []) →
    b'.services.map (·.serviceId) = b.services.map (·.serviceId)
  durationMinutes : b'.durationMinutes = b.durationMinutes
  addons : b'.addons = args.addons.getD b.addons
  addonsDuration : b'.addonsDuration = args.addonsDuration.or b.addonsDuration
  totalDuration : b'.totalDuration = args.totalDuration.or b.totalDuration

theorem applyArrangement_durationMinutes (args : UpdateArgs) (b : BookingRow) :
    (applyArrangement args b).durationMinutes = b.durationMinutes ∧
      SamePrices b (applyArrangement args b) := by
  unfold applyArrangement
  dsimp only
  split_ifs
  · split
    · exact ⟨rfl, rfl, rfl, rfl⟩
    · exact ⟨rfl, rfl, rfl, rfl⟩
  · exact ⟨rfl, rfl, rfl, rfl⟩

theorem finished_apply (args : UpdateArgs) (b : BookingRow) :
    Finished args b (applyPricing args (applyPayment args (applyArrangement args b))) := by
  obtain ⟨hduration, haddons, haddonsDuration, htotal⟩ := applyArrangement_durationMinutes args b
  have hpayment : ∀ b : BookingRow, SameTiming b (applyPricing args (applyPayment args b)) ∧
      (applyPricing args (applyPayment args b)).services = b.services ∧
      (applyPricing args (applyPayment args b)).durationMinutes = b.durationMinutes ∧
      (applyPricing args (applyPayment args b)).addons = args.addons.getD b.addons ∧
      (applyPricing args (applyPayment args b)).addonsDuration =
        args.addonsDuration.or b.addonsDuration ∧
      (applyPricing args (applyPayment args b)).totalDuration =
        args.totalDuration.or b.totalDuration := by
    intro b
    unfold applyPricing applyPayment mergePaymentData
    cases args.paymentData with
    | none => exact ⟨by constructor <;> rfl, rfl, rfl, rfl, rfl, rfl⟩
    | some fields => exact ⟨by constructor <;> rfl, rfl, rfl, rfl, rfl, rfl⟩
  obtain ⟨htiming, hs, hd, ha, had, ht⟩ := hpayment (applyArrangement args b)
  refine ⟨(sameTiming_applyArrangement args b).trans htiming, fun h => ?_, hd.trans hduration, ?_, ?_,
    ?_⟩
  · rw [hs]
    exact applyArrangement_services h
  · rw [ha, haddons]
  · rw [had, haddonsDuration]
  · rw [ht, htotal]

/-- What an update makes of the columns `b`, in which sessions it brings have been replaced. -/
structure Columns (args : UpdateArgs) (b u : BookingRow) : Prop where
  therapistId : u.therapistId = args.therapistId.getD b.therapistId
  secondaryTherapistId : u.secondaryTherapistId = (secondaryUpdate args b).therapistId
  services : (args.services = none → b.services ≠ []) →
    u.services.map (·.serviceId) = (args.services.getD b.services).map (·.serviceId)
  durationMinutes : (∀ entries ∈ args.services, totalServicesDuration entries = 0 ∨
    totalServicesDuration entries = b.durationMinutes) → u.durationMinutes = b.durationMinutes
  extraMinutes : u.extraMinutes = args.extraMinutes.getD b.extraMinutes
  addons : u.addons = args.addons.getD b.addons
  addonsDuration : u.addonsDuration = args.addonsDuration.or b.addonsDuration
  totalDuration : u.totalDuration = args.totalDuration.or b.totalDuration

theorem secondaryUpdate_of_not_given (h : (secondaryUpdate args b).given = false) :
    (secondaryUpdate args b).therapistId = b.secondaryTherapistId := by
  unfold secondaryUpdate at h ⊢
  dsimp only at h ⊢
  split_ifs at h ⊢
  rfl

/-- What an update gives that does not concern the therapists, the times or the services. -/
theorem not_touchesTiming (h : ¬ TouchesTiming args b) :
    args.therapistId = none ∧ (secondaryUpdate args b).given = false ∧
      args.appointmentStart = none ∧ args.extraMinutes = none := by
  unfold TouchesTiming at h
  simp only [not_or, Option.not_isSome_iff_eq_none] at h
  exact ⟨h.1, Bool.not_eq_true _ ▸ h.2.1, h.2.2.1, h.2.2.2.1⟩

theorem applyTiming_therapists (args : UpdateArgs) (b : BookingRow) :
    (applyTiming args b).therapistId = args.therapistId.getD b.therapistId ∧
      (applyTiming args b).secondaryTherapistId = (secondaryUpdate args b).therapistId ∧
      (applyTiming args b).extraMinutes = args.extraMinutes.getD b.extraMinutes := by
  unfold applyTiming
  by_cases ht : TouchesTiming args b
  · rw [if_pos ht]
    exact ⟨rfl, rfl, rfl⟩
  · obtain ⟨hnt, hng, -, hne⟩ := not_touchesTiming ht
    rw [if_neg ht, hnt, hne, secondaryUpdate_of_not_given hng]
    split_ifs
    · exact ⟨rfl, rfl, rfl⟩
    · exact ⟨rfl, rfl, rfl⟩

theorem applyTiming_others (args : UpdateArgs) (b : BookingRow) :
    (applyTiming args b).services = b.services ∧
      (applyTiming args b).durationMinutes = b.durationMinutes ∧
      SamePrices b (applyTiming args b) := by
  unfold applyTiming
  dsimp only
  split_ifs <;> exact ⟨rfl, rfl, rfl, rfl, rfl⟩

/-- Other services do not change who serves. -/
theorem secondaryUpdate_replaceServices (args : UpdateArgs) (b : BookingRow) :
    (secondaryUpdate args (replaceServices args b)).therapistId =
      (secondaryUpdate args b).therapistId := by
  have hdata : (replaceServices args b).therapistId = b.therapistId ∧
      (replaceServices args b).secondaryTherapistId = b.secondaryTherapistId ∧
      (replaceServices args b).therapistData = b.therapistData := by
    unfold replaceServices
    cases args.services with
    | none => exact ⟨rfl, rfl, rfl⟩
    | some entries => cases entries <;> exact ⟨rfl, rfl, rfl⟩
  unfold secondaryUpdate targetTherapistId
  rw [hdata.1, hdata.2.1, hdata.2.2]

/-! ## Without sessions -/

/-- The booking after an update without sessions, before its stored sessions are synchronized. -/
def unsynced (args : UpdateArgs) (row : BookingRow) : BookingRow :=
  applyPricing args (applyPayment args (applyArrangement args (applyTiming args (replacedRow args row))))

theorem columns_unsynced (args : UpdateArgs) (row : BookingRow) :
    Columns args (replaceSessions args row) (unsynced args row) := by
  have hf := finished_apply args (applyTiming args (replacedRow args row))
  have ht := applyTiming_therapists args (replacedRow args row)
  obtain ⟨hservices, hduration, hprices⟩ := applyTiming_others args (replacedRow args row)
  have hs := sameTiming_replaceServices args (replaceSessions args row)
  have hp := samePrices_replaceServices args (replaceSessions args row)
  have hreplaced := replaceServices_services args (replaceSessions args row)
  constructor
  · exact hf.timing.therapistId.trans (ht.1.trans (by rw [← hs.therapistId]; rfl))
  · refine hf.timing.secondaryTherapistId.trans (ht.2.1.trans ?_)
    exact secondaryUpdate_replaceServices args (replaceSessions args row)
  · intro hstored
    have hservices' : (applyTiming args (replacedRow args row)).services =
        args.services.getD (replaceSessions args row).services := hservices.trans hreplaced
    rw [← hservices']
    refine hf.services fun hnone => ?_
    rw [hservices', hnone]
    exact hstored hnone
  · intro hentries
    refine hf.durationMinutes.trans (hduration.trans ?_)
    exact replaceServices_durationMinutes args _ hentries
  · exact hf.timing.extraMinutes.trans (ht.2.2.trans (by rw [← hs.extraMinutes]; rfl))
  · exact hf.addons.trans (by rw [hprices.addons, ← hp.addons]; rfl)
  · exact hf.addonsDuration.trans (by rw [hprices.addonsDuration, ← hp.addonsDuration]; rfl)
  · exact hf.totalDuration.trans (by rw [hprices.totalDuration, ← hp.totalDuration]; rfl)

theorem updatedColumns_of_none (h : args.sessions = none) : updatedColumns args row =
    { unsynced args row with
      sessions := syncSessions row (secondaryUpdate args (replacedRow args row)).given
        (effTotalDuration args (replacedRow args row)) (unsynced args row) } := by
  unfold updatedColumns
  rw [h]
  rfl

theorem updatedColumns_of_some {sessions : List Session} (h : args.sessions = some sessions) :
    updatedColumns args row = unsynced args row := by
  unfold updatedColumns
  rw [h]
  rfl

theorem replacedRow_of_none (h : args.sessions = none) :
    replacedRow args row = replaceServices args row := by
  unfold replacedRow replaceSessions
  rw [h]

/-- What an update without sessions leaves in the columns. -/
structure Moved (args : UpdateArgs) (row u : BookingRow) : Prop where
  sessions : u.sessions = row.sessions
  therapistId : u.therapistId = args.therapistId.getD row.therapistId
  secondaryTherapistId : (secondaryUpdate args (replacedRow args row)).given = false →
    u.secondaryTherapistId = row.secondaryTherapistId
  appointmentStart : u.appointmentStart = args.appointmentStart.getD row.appointmentStart
  appointmentEnd : u.appointmentEnd = if TouchesTiming args (replacedRow args row) then
      u.appointmentStart + minutes (effTotalDuration args (replacedRow args row))
    else row.appointmentEnd
  appointmentDate : u.appointmentDate = if TouchesTiming args (replacedRow args row) then
    localMidnight u.appointmentStart else row.appointmentDate
  extraMinutes : u.extraMinutes = args.extraMinutes.getD row.extraMinutes

/-- The timing columns of an update without sessions. -/
theorem moved_applyTiming (h : args.sessions = none) :
    Moved args row (applyTiming args (replacedRow args row)) := by
  obtain ⟨hsessions, htherapist, hsecondary, hdate, hstart, hend, hextra⟩ :
      SameTiming row (replacedRow args row) := by
    rw [replacedRow_of_none h]
    exact sameTiming_replaceServices args row
  unfold applyTiming targetTherapistId targetExtra targetEnd targetStart
  rw [h]
  by_cases ht : TouchesTiming args (replacedRow args row)
  · rw [if_pos ht]
    refine ⟨hsessions, ?_, fun hgiven => ?_, ?_, ?_, ?_, ?_⟩
    · show args.therapistId.getD _ = _
      rw [htherapist]
    · show (secondaryUpdate args (replacedRow args row)).therapistId = _
      rw [secondaryUpdate_of_not_given hgiven, hsecondary]
    · show args.appointmentStart.getD _ = _
      rw [hstart]
    · rw [if_pos ht]
      rfl
    · rw [if_pos ht]
    · show args.extraMinutes.getD _ = _
      rw [hextra]
  · obtain ⟨hnt, -, hns, hne⟩ := not_touchesTiming ht
    rw [if_neg ht]
    have hsame : Moved args row (replacedRow args row) := by
      refine ⟨hsessions, ?_, fun _ => hsecondary, ?_, ?_, ?_, ?_⟩
      · rw [hnt]
        exact htherapist
      · rw [hns]
        exact hstart
      · rw [if_neg ht]
        exact hend
      · rw [if_neg ht]
        exact hdate
      · rw [hne]
        exact hextra
    split_ifs
    · obtain ⟨h1, h2, h3, h4, h5, h6, h7⟩ := hsame
      exact ⟨h1, h2, h3, h4, h5, h6, h7⟩
    · exact hsame

theorem Moved.sameTiming {u u' : BookingRow} (h : Moved args row u) (h' : SameTiming u u') :
    Moved args row u' where
  sessions := h'.sessions.trans h.sessions
  therapistId := h'.therapistId.trans h.therapistId
  secondaryTherapistId := fun hgiven => h'.secondaryTherapistId.trans (h.secondaryTherapistId hgiven)
  appointmentStart := h'.appointmentStart.trans h.appointmentStart
  appointmentEnd := by rw [h'.appointmentEnd, h'.appointmentStart, h.appointmentEnd]
  appointmentDate := by rw [h'.appointmentDate, h'.appointmentStart, h.appointmentDate]
  extraMinutes := h'.extraMinutes.trans h.extraMinutes

theorem moved_unsynced (h : args.sessions = none) : Moved args row (unsynced args row) :=
  (moved_applyTiming h).sameTiming (finished_apply args _).timing

/-! ## Synchronized sessions -/

variable {given : Bool} {total : ℤ}

theorem minutes_zero : minutes 0 = 0 := rfl

theorem moveSession_start (delta : Instant) (s : Session) :
    (moveSession delta s).appointmentStart = s.appointmentStart + delta := rfl

theorem moveSession_end (delta : Instant) (s : Session) :
    (moveSession delta s).appointmentEnd = s.appointmentEnd + delta := rfl

theorem extendSession_start (diff : ℤ) (price : Fils) (s : Session) :
    (extendSession diff price s).appointmentStart = s.appointmentStart := by
  unfold extendSession
  split_ifs <;> rfl

theorem extendSession_end (diff : ℤ) (price : Fils) (s : Session) :
    (extendSession diff price s).appointmentEnd = s.appointmentEnd + minutes diff := by
  unfold extendSession
  split_ifs with h
  · rw [h, minutes_zero, add_zero]
  · rfl

theorem shiftSessions_append (delta : Instant) (diff : ℤ) (price : Fils) (init : List Session)
    (last : Session) : shiftSessions delta diff price (init ++ [last]) =
      init.map (moveSession delta) ++ [extendSession diff price (moveSession delta last)] := by
  induction init with
  | nil => rfl
  | cons s rest ih =>
    have hcons : ∃ s' rest', rest ++ [last] = s' :: rest' := by
      cases rest with
      | nil => exact ⟨last, [], rfl⟩
      | cons s' rest => exact ⟨s', rest ++ [last], rfl⟩
    obtain ⟨s', rest', hrest⟩ := hcons
    show shiftSessions delta diff price (s :: (rest ++ [last])) = _
    rw [hrest] at ih ⊢
    rw [shiftSessions, ih]
    · rfl
    · rintro ⟨⟩

theorem syncSessions_nil (h : b.sessions = []) : syncSessions row given total b = [] := by
  unfold syncSessions
  rw [h]

theorem syncSessions_single {s : Session} (h : b.sessions = [s]) :
    syncSessions row given total b = [syncSingle given total b s] := by
  unfold syncSessions
  rw [h]

/-- Several sessions are moved by as much as the booking, and the last one takes the change of the extra
minutes. -/
theorem syncSessions_several {first last : Session} {mid : List Session}
    (h : b.sessions = first :: (mid ++ [last])) : syncSessions row given total b =
      moveSession (b.appointmentStart - row.appointmentStart) (assignTherapists given b first) ::
        (mid.map (moveSession (b.appointmentStart - row.appointmentStart)) ++
          [extendSession (b.extraMinutes - row.extraMinutes) b.priceForExtraMinutes
            (moveSession (b.appointmentStart - row.appointmentStart) last)]) := by
  have hshift := shiftSessions_append (b.appointmentStart - row.appointmentStart)
    (b.extraMinutes - row.extraMinutes) b.priceForExtraMinutes (assignTherapists given b first :: mid)
    last
  unfold syncSessions
  rw [h]
  cases mid with
  | nil => exact hshift
  | cons s rest => exact hshift

/-- A property of all sessions of a booking of several, once they are synchronized. -/
theorem forall_shifted {P : Session → Prop} {delta : Instant} {diff : ℤ} {price : Fils}
    {first last : Session} {mid : List Session} (hfirst : P (moveSession delta first))
    (hmid : ∀ s ∈ mid, P (moveSession delta s))
    (hlast : P (extendSession diff price (moveSession delta last))) :
    ∀ s ∈ moveSession delta first :: (mid.map (moveSession delta) ++
      [extendSession diff price (moveSession delta last)]), P s := by
  intro s hs
  rcases List.mem_cons.mp hs with rfl | hs
  · exact hfirst
  rcases List.mem_append.mp hs with hs | hs
  · obtain ⟨s₀, hs₀, rfl⟩ := List.mem_map.mp hs
    exact hmid s₀ hs₀
  · rw [List.mem_singleton.mp hs]
    exact hlast

/-- A column that neither the move nor the extension of a session concerns. -/
theorem map_shifted {β : Type} (f : Session → β) {delta : Instant} {diff : ℤ} {price : Fils}
    {first first' last : Session} (mid : List Session)
    (hf : ∀ s, f (moveSession delta s) = f s) (hfirst : f first' = f first)
    (hlast : f (extendSession diff price (moveSession delta last)) = f last) :
    (moveSession delta first' :: (mid.map (moveSession delta) ++
      [extendSession diff price (moveSession delta last)])).map f =
      (first :: (mid ++ [last])).map f := by
  have hmid : (mid.map (moveSession delta)).map f = mid.map f := by
    rw [List.map_map]
    exact List.map_congr_left fun s _ => hf s
  simp only [List.map_cons, List.map_append, List.map_nil, hmid, hf, hfirst, hlast]

/-- What the extension of a session leaves alone. -/
theorem extendSession_others (diff : ℤ) (price : Fils) (s : Session) :
    (extendSession diff price s).position = s.position ∧
      (extendSession diff price s).sessionId = s.sessionId ∧
      (extendSession diff price s).therapistId = s.therapistId ∧
      (extendSession diff price s).services = s.services ∧
      (extendSession diff price s).addons = s.addons ∧
      (extendSession diff price s).servicesDuration = s.servicesDuration ∧
      (extendSession diff price s).addonsDuration = s.addonsDuration := by
  unfold extendSession
  split_ifs <;> exact ⟨rfl, rfl, rfl, rfl, rfl, rfl, rfl⟩

theorem extendSession_durations (diff : ℤ) (price : Fils) (s : Session)
    (h : diff ≠ 0 → 0 ≤ s.extraMinutes + diff) :
    (extendSession diff price s).totalSessionDuration = s.totalSessionDuration + diff ∧
      (extendSession diff price s).extraMinutes = s.extraMinutes + diff := by
  unfold extendSession
  split_ifs with hzero
  · rw [hzero, add_zero, add_zero]
    exact ⟨rfl, rfl⟩
  · exact ⟨rfl, max_eq_right (h hzero)⟩

theorem assignTherapists_work (given : Bool) (b : BookingRow) (s : Session) :
    withoutTherapists (assignTherapists given b s) = withoutTherapists s ∧
      (assignTherapists given b s).therapistId = some b.therapistId := by
  cases given with
  | false => exact ⟨rfl, rfl⟩
  | true => exact ⟨rfl, rfl⟩

/-! ## With sessions -/

variable {first : Session} {rest : List Session}

/-- What an update with the sessions `first :: rest` leaves in the timing columns. -/
structure Brings (first : Session) (rest : List Session) (u : BookingRow) : Prop where
  sessions : u.sessions = first :: rest
  appointmentStart : u.appointmentStart = first.appointmentStart
  appointmentEnd : u.appointmentEnd =
    ((first :: rest).getLast (List.cons_ne_nil _ _)).appointmentEnd
  appointmentDate : u.appointmentDate = localMidnight first.appointmentStart

theorem Brings.sameTiming {u u' : BookingRow} (h : Brings first rest u) (h' : SameTiming u u') :
    Brings first rest u' where
  sessions := h'.sessions.trans h.sessions
  appointmentStart := h'.appointmentStart.trans h.appointmentStart
  appointmentEnd := h'.appointmentEnd.trans h.appointmentEnd
  appointmentDate := h'.appointmentDate.trans h.appointmentDate

theorem brings_replaceSessions (h : args.sessions = some (first :: rest)) :
    Brings first rest (replaceSessions args row) := by
  unfold replaceSessions
  rw [h]
  dsimp only
  have hmirror : Brings first rest
      (mirrorColumns (legacyMirror first rest) { row with sessions := first :: rest }) := by
    unfold mirrorColumns
    cases hs : (legacyMirror first rest).services <;> exact ⟨rfl, rfl, rfl, rfl⟩
  split_ifs
  · exact ⟨hmirror.sessions, hmirror.appointmentStart, hmirror.appointmentEnd, hmirror.appointmentDate⟩
  · exact hmirror

/-- The columns that mirror the sessions an update brings. -/
structure MirrorColumns (m : Mirror) (row b : BookingRow) : Prop where
  therapistId : b.therapistId = m.therapistId.getD row.therapistId
  secondaryTherapistId : b.secondaryTherapistId = m.secondaryTherapistId
  services : b.services = m.services
  addons : b.addons = m.addons
  durationMinutes : b.durationMinutes = Voucher.intOr m.durationMinutes row.durationMinutes
  extraMinutes : b.extraMinutes = m.extraMinutes
  addonsDuration : b.addonsDuration = some m.addonsDuration
  totalDuration : b.totalDuration = some m.totalDuration

theorem mirrorColumns_replaceSessions (h : args.sessions = some (first :: rest)) :
    MirrorColumns (legacyMirror first rest) row (replaceSessions args row) := by
  have hmirror : MirrorColumns (legacyMirror first rest) row
      (mirrorColumns (legacyMirror first rest) { row with sessions := first :: rest }) := by
    unfold mirrorColumns
    cases hs : (legacyMirror first rest).services <;>
      exact ⟨rfl, rfl, hs.symm, rfl, rfl, rfl, rfl, rfl⟩
  unfold replaceSessions
  rw [h]
  dsimp only
  split_ifs
  · obtain ⟨h1, h2, h3, h4, h5, h6, h7, h8⟩ := hmirror
    exact ⟨h1, h2, h3, h4, h5, h6, h7, h8⟩
  · exact hmirror

theorem replaceSessions_of_none (h : args.sessions = none) : replaceSessions args row = row := by
  unfold replaceSessions
  rw [h]

/-- The durations of a new booking are those of its arguments. -/
theorem newBooking_durations (args : CreateArgs) (id : Uuid) (bookingNumber : String) :
    (newBooking args id bookingNumber).durationMinutes = args.durationMinutes ∧
      (newBooking args id bookingNumber).extraMinutes = args.extraMinutes ∧
      (newBooking args id bookingNumber).addonsDuration = args.addonsDuration ∧
      (newBooking args id bookingNumber).totalDuration = args.totalDuration := by
  unfold newBooking
  cases args.services <;> exact ⟨rfl, rfl, rfl, rfl⟩

theorem newBooking_sessions (args : CreateArgs) (id : Uuid) (bookingNumber : String) :
    (newBooking args id bookingNumber).sessions = args.sessions := by
  unfold newBooking
  cases args.services <;> rfl

theorem brings_newBooking (args : CreateArgs) (id : Uuid) (bookingNumber : String) :
    Brings first rest (newBooking (plannedArgs (first :: rest) args) id bookingNumber) := by
  unfold newBooking plannedArgs
  dsimp only
  cases (legacyMirror first rest).services <;> exact ⟨rfl, rfl, rfl, rfl⟩

/-- New sessions bring their window. -/
theorem brings_applyTiming (h : args.sessions = some (first :: rest))
    (hb : Brings first rest b) : Brings first rest (applyTiming args b) := by
  have hstart : targetStart args b = b.appointmentStart := by simp [targetStart, h]
  have hend : targetEnd args b = b.appointmentEnd := by simp [targetEnd, h]
  unfold applyTiming
  by_cases ht : TouchesTiming args b
  · rw [if_pos ht, hstart, hend]
    refine ⟨hb.sessions, hb.appointmentStart, hb.appointmentEnd, ?_⟩
    rw [hb.appointmentStart]
  · rw [if_neg ht]
    split_ifs
    · exact ⟨hb.sessions, hb.appointmentStart, hb.appointmentEnd, hb.appointmentDate⟩
    · exact hb

theorem brings_updatedColumns (h : args.sessions = some (first :: rest)) :
    Brings first rest (updatedColumns args row) := by
  rw [updatedColumns_of_some h]
  refine Brings.sameTiming ?_ (finished_apply args _).timing
  refine brings_applyTiming h ?_
  exact (brings_replaceSessions h).sameTiming (sameTiming_replaceServices args _)

end Booking
