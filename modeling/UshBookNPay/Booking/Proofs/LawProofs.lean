import UshBookNPay.Booking.Proofs.SpanProofs

/-!
# The law of the durations

Sessions stay valid and as long as their parts, where every update names a total duration that is the
sum of the parts and moves no session to another day.
-/

namespace Booking

variable {b row : BookingRow} {s : Session}

/-! ## The invariant -/

theorem windowsLawful_iff : WindowsLawful b ↔ (b.sessions ≠ [] → Planned b.sessions) := by
  unfold WindowsLawful
  constructor
  · intro h hne
    obtain ⟨hvalid, hlaw⟩ := h hne
    exact ⟨validateSessions_eq_self_iff.mp hvalid, hlaw⟩
  · intro h hne
    obtain ⟨hvalid, hlaw⟩ := h hne
    exact ⟨validateSessions_eq_self_iff.mpr hvalid, hlaw⟩

theorem ofSchedule_lawKept : OfSchedule LawKept := by
  intro b b' hsame h
  constructor
  · rw [windowsLawful_iff, hsame.sessions]
    exact windowsLawful_iff.mp h.lawful
  · rw [hsame.sessions]
    intro s hs
    obtain ⟨h1, h2, h3, h4, h5, h6⟩ := h.single s hs
    constructor
    · rw [hsame.appointmentStart, h1]
    · rw [hsame.appointmentEnd, h2]
    · rw [hsame.durationMinutes, h3]
    · rw [hsame.extraMinutes, h4]
    · rw [hsame.addonsDuration, h5]
    · rw [hsame.totalDuration, h6]

theorem lawKept_of_no_sessions (h : b.sessions = []) : LawKept b := by
  constructor
  · rw [windowsLawful_iff, h]
    exact fun hne => absurd rfl hne
  · rw [h]
    rintro s ⟨⟩

/-! ## New sessions -/

theorem lawKept_newBooking {first : Session} {rest : List Session} (args : CreateArgs) (id : Uuid)
    (bookingNumber : String) (hplanned : Planned (first :: rest))
    (hcreate : CreatesLawfully (plannedArgs (first :: rest) args)) :
    LawKept (newBooking (plannedArgs (first :: rest) args) id bookingNumber) := by
  have hb : Brings first rest (newBooking (plannedArgs (first :: rest) args) id bookingNumber) :=
    brings_newBooking args id bookingNumber
  obtain ⟨hduration, hextra, haddons, htotal⟩ :=
    newBooking_durations (plannedArgs (first :: rest) args) id bookingNumber
  constructor
  · rw [windowsLawful_iff, hb.sessions]
    exact fun _ => hplanned
  · intro s hs
    have hsessions : (plannedArgs (first :: rest) args).sessions = [s] := by
      rw [← hs, newBooking_sessions]
    obtain ⟨h1, h2, h3, h4⟩ := hcreate s hsessions
    rw [hb.sessions] at hs
    obtain ⟨rfl, rfl⟩ := List.cons_eq_cons.mp hs
    exact ⟨hb.appointmentStart, hb.appointmentEnd, hduration.trans h1, hextra.trans h2,
      haddons.trans h3, htotal.trans h4⟩

theorem legacyMirror_single (s : Session) :
    (legacyMirror s []).durationMinutes = s.servicesDuration ∧
      (legacyMirror s []).extraMinutes = s.extraMinutes ∧
      (legacyMirror s []).addonsDuration = s.addonsDuration ∧
      (legacyMirror s []).totalDuration = s.totalSessionDuration := by
  simp [legacyMirror, bookingTotals]

theorem getD_of_agrees {α : Type} {o : Option α} {a : α} (h : ∀ x ∈ o, x = a) : o.getD a = a := by
  cases o with
  | none => rfl
  | some x => exact h x rfl

theorem or_of_agrees {α : Type} {o : Option α} {a : α} (h : ∀ x ∈ o, x = a) :
    o.or (some a) = some a := by
  cases o with
  | none => rfl
  | some x => exact congrArg some (h x rfl)

theorem lawKept_replaced {args : UpdateArgs} {first : Session} {rest : List Session}
    (hsome : args.sessions = some (first :: rest)) (hplanned : Planned (first :: rest))
    (hk : KeepsLaw args row) : LawKept (updatedColumns args row) := by
  have hb : Brings first rest (updatedColumns args row) := brings_updatedColumns hsome
  constructor
  · rw [windowsLawful_iff, hb.sessions]
    exact fun _ => hplanned
  · intro s hs
    rw [hb.sessions] at hs
    obtain ⟨rfl, rfl⟩ := List.cons_eq_cons.mp hs
    have hagree := hk.planned _ hsome first rfl
    have hmirror : MirrorColumns (legacyMirror first []) row (replaceSessions args row) :=
      mirrorColumns_replaceSessions hsome
    have hcols := columns_unsynced args row
    obtain ⟨hm1, hm2, hm3, hm4⟩ := legacyMirror_single first
    have hduration : (replaceSessions args row).durationMinutes = first.servicesDuration := by
      rw [hmirror.durationMinutes, hm1]
      unfold Voucher.intOr
      split_ifs with hzero
      · rw [hagree.durationMinutes hzero, hzero]
      · rfl
    rw [updatedColumns_of_some hsome] at hb ⊢
    refine ⟨hb.appointmentStart, hb.appointmentEnd, ?_, ?_, ?_, ?_⟩
    · rw [hcols.durationMinutes, hduration]
      intro entries hentries
      exact .inr ((hagree.services entries hentries).trans hduration.symm)
    · rw [hcols.extraMinutes, hmirror.extraMinutes, hm2]
      exact getD_of_agrees hagree.extraMinutes
    · rw [hcols.addonsDuration, hmirror.addonsDuration, hm3]
      exact or_of_agrees hagree.addonsDuration
    · rw [hcols.totalDuration, hmirror.totalDuration, hm4]
      exact or_of_agrees hagree.totalDuration

/-! ## Synchronized sessions -/

/-- What the total duration of the update is: the sum of the parts it leaves. -/
theorem effTotalDuration_single {args : UpdateArgs} (hnone : args.sessions = none)
    (hagrees : SingleAgrees row s) (hk : MovesSingle args row s) :
    effTotalDuration args (replacedRow args row) =
      args.totalDuration.getD s.totalSessionDuration := by
  have hreplaced : replacedRow args row = replaceServices args row := replacedRow_of_none hnone
  have hduration : (replacedRow args row).durationMinutes = s.servicesDuration := by
    rw [hreplaced, replaceServices_durationMinutes args row hk.services, hagrees.durationMinutes]
  have hextra : (replacedRow args row).extraMinutes = s.extraMinutes := by
    rw [hreplaced, (sameTiming_replaceServices args row).extraMinutes, hagrees.extraMinutes]
  have haddons : (replacedRow args row).addonsDuration = some s.addonsDuration := by
    rw [hreplaced, (samePrices_replaceServices args row).addonsDuration, hagrees.addonsDuration]
  unfold effTotalDuration targetExtra
  rw [hduration, hextra, haddons]
  cases htotal : args.totalDuration with
  | some t => rfl
  | none =>
    have := hk.total
    rw [htotal] at this
    simp only [Option.getD_none, Option.getD_some] at this ⊢
    linarith

theorem syncSingle_others (given : Bool) (total : ℤ) (b : BookingRow) (s : Session) :
    (syncSingle given total b s).therapistId = some b.therapistId ∧
      (syncSingle given total b s).position = s.position ∧
      (syncSingle given total b s).services = s.services ∧
      (syncSingle given total b s).servicesDuration = s.servicesDuration := by
  cases given <;> exact ⟨rfl, rfl, rfl, rfl⟩

theorem minutes_pos {n : ℤ} (h : 0 < n) : 0 < minutes n := by
  unfold minutes
  linarith

theorem valid_singleton {s : Session} (ht : s.therapistId ≠ none) (hs : s.services ≠ [])
    (hw : s.appointmentStart < s.appointmentEnd)
    (hd : localDay s.appointmentEnd = localDay s.appointmentStart) (hp : s.position = 0) :
    Valid MAX_PACKAGE_SESSIONS_PER_BOOKING [s] where
  nonempty := List.cons_ne_nil _ _
  length := (by decide : 1 ≤ MAX_PACKAGE_SESSIONS_PER_BOOKING)
  therapist := fun _ h => List.mem_singleton.mp h ▸ ht
  services := fun _ h => List.mem_singleton.mp h ▸ hs
  window := fun _ h => List.mem_singleton.mp h ▸ hw
  ordered := List.pairwise_singleton _ _
  day := by
    intro s' h
    rw [List.mem_singleton.mp h]
    exact ⟨rfl, hd⟩
  positions := congrArg (fun n => [n]) hp

theorem lawKept_single {args : UpdateArgs} (hnone : args.sessions = none) (hs : row.sessions = [s])
    (hrow : LawKept row) (hk : MovesSingle args row s) : LawKept (updatedColumns args row) := by
  have hagrees := hrow.single s hs
  have hplanned : Planned [s] := by
    have := windowsLawful_iff.mp hrow.lawful
    rw [hs] at this
    exact this (List.cons_ne_nil _ _)
  have hslaw : SessionLaw s := hplanned.law s List.mem_cons_self
  have heff := effTotalDuration_single hnone hagrees hk
  have hm : Moved args row (unsynced args row) := moved_unsynced hnone
  have hcols := columns_unsynced args row
  rw [replaceSessions_of_none hnone] at hcols
  rw [updatedColumns_of_none hnone]
  generalize unsynced args row = u at hm hcols
  generalize (secondaryUpdate args (replacedRow args row)).given = given
  rw [syncSessions_single (hm.sessions.trans hs)]
  set total := args.totalDuration.getD s.totalSessionDuration with htotal
  have haddons : u.addonsDuration = some (args.addonsDuration.getD s.addonsDuration) := by
    rw [hcols.addonsDuration, hagrees.addonsDuration]
    cases args.addonsDuration <;> rfl
  have hextra : u.extraMinutes = args.extraMinutes.getD s.extraMinutes := by
    rw [hcols.extraMinutes, hagrees.extraMinutes]
  have hutotal : u.totalDuration = some total := by
    rw [hcols.totalDuration, hagrees.totalDuration, htotal]
    cases args.totalDuration <;> rfl
  have hduration : u.durationMinutes = s.servicesDuration := by
    rw [hcols.durationMinutes hk.services, hagrees.durationMinutes]
  have hstart : u.appointmentStart = args.appointmentStart.getD s.appointmentStart := by
    rw [hm.appointmentStart, hagrees.appointmentStart]
  -- the window is as long as the total duration
  have hend : u.appointmentEnd = u.appointmentStart + minutes total := by
    rw [hm.appointmentEnd]
    by_cases ht : TouchesTiming args (replacedRow args row)
    · rw [if_pos ht, heff]
    · have hsame : total = s.totalSessionDuration := hk.window.resolve_right ht
      obtain ⟨-, -, hnostart, -⟩ := not_touchesTiming ht
      rw [if_neg ht, hstart, hnostart, hagrees.appointmentEnd, hsame, Option.getD_none]
      linarith [hslaw.window]
  generalize htotal' : effTotalDuration args (replacedRow args row) = eff at heff
  have hs' : (syncSingle given eff u s).totalSessionDuration = total := by
    show Voucher.intOr (u.totalDuration.getD 0) eff = total
    rw [hutotal, heff]
    unfold Voucher.intOr
    split_ifs <;> rfl
  have haddons' : (syncSingle given eff u s).addonsDuration =
      args.addonsDuration.getD s.addonsDuration := by
    show u.addonsDuration.getD s.addonsDuration = _
    rw [haddons]
    rfl
  obtain ⟨htherapist, hposition, hservices, hparts⟩ := syncSingle_others given eff u s
  generalize hsync : syncSingle given eff u s = s' at *
  have hstart' : s'.appointmentStart = u.appointmentStart := by
    rw [← hsync]
    rfl
  have hend' : s'.appointmentEnd = u.appointmentEnd := by
    rw [← hsync]
    rfl
  have hextra' : s'.extraMinutes = u.extraMinutes := by
    rw [← hsync]
    rfl
  have hlaw : SessionLaw s' := by
    constructor
    · rw [hstart', hend', hend, hs', add_sub_cancel_left]
    · rw [hs', hparts, haddons', hextra', hextra]
      exact hk.total
  constructor
  · rw [windowsLawful_iff]
    refine fun _ => ⟨?_, fun s₀ hs₀ => List.mem_singleton.mp hs₀ ▸ hlaw⟩
    refine valid_singleton ?_ ?_ ?_ ?_ ?_
    · rw [htherapist]
      exact Option.some_ne_none _
    · rw [hservices]
      exact hplanned.valid.services s List.mem_cons_self
    · rw [hstart', hend', hend]
      have : 0 < minutes total := minutes_pos hk.positive
      linarith
    · rw [hstart', hend', hend, hstart]
      exact hk.day.symm
    · rw [hposition]
      have := hplanned.valid.positions
      simpa using this
  · intro s₀ hs₀
    cases hs₀
    exact ⟨hstart'.symm, hend'.symm, hduration.trans hparts.symm, hextra'.symm,
      haddons.trans (congrArg some haddons'.symm), hutotal.trans (congrArg some hs'.symm)⟩

/-- Planned sessions that are moved together to one day, the last one growing by `diff` minutes, are
planned sessions. -/
theorem Planned.shift {first first' last : Session} {mid : List Session} {delta : Instant} {diff : ℤ}
    (price : Fils) (h : Planned (first :: (mid ++ [last])))
    (hwork : withoutTherapists first' = withoutTherapists first)
    (htherapist : first'.therapistId ≠ none) (hminutes : 0 ≤ last.extraMinutes + diff)
    (hpositive : 0 < last.totalSessionDuration + diff)
    (hday : ∀ s ∈ first :: (mid ++ [last]),
      localDay (s.appointmentStart + delta) = localDay (first.appointmentStart + delta) ∧
        localDay (s.appointmentEnd + delta) = localDay (first.appointmentStart + delta))
    (hlastday : localDay (last.appointmentEnd + delta + minutes diff) =
      localDay (first.appointmentStart + delta)) :
    Planned (moveSession delta first' :: (mid.map (moveSession delta) ++
      [extendSession diff price (moveSession delta last)])) := by
  obtain ⟨hvalid, hlaws⟩ := h
  have hlastmem : last ∈ first :: (mid ++ [last]) :=
    List.mem_cons_of_mem _ (List.mem_append_right _ List.mem_cons_self)
  have hmidmem : ∀ s ∈ mid, s ∈ first :: (mid ++ [last]) :=
    fun s hs => List.mem_cons_of_mem _ (List.mem_append_left _ hs)
  obtain ⟨hposition, -, htherapists, hservices, -, hdurations, haddons⟩ :=
    extendSession_others diff price (moveSession delta last)
  obtain ⟨htotal, hextra⟩ :=
    extendSession_durations diff price (moveSession delta last) fun _ => hminutes
  have hstart := extendSession_start diff price (moveSession delta last)
  have hend := extendSession_end diff price (moveSession delta last)
  have hlastlaw : SessionLaw last := hlaws last hlastmem
  have hgrown : last.appointmentStart < last.appointmentEnd + minutes diff := by
    have hpos := minutes_pos hpositive
    have hwindow := hlastlaw.window
    unfold minutes at hpos hwindow ⊢
    linarith
  have hfirststart : first'.appointmentStart = first.appointmentStart :=
    congrArg (·.appointmentStart) hwork
  have hfirstend : first'.appointmentEnd = first.appointmentEnd := congrArg (·.appointmentEnd) hwork
  have hfirstservices : first'.services = first.services := congrArg (·.services) hwork
  -- a session that is only moved keeps its law
  have hmoved : ∀ s, SessionLaw s → SessionLaw (moveSession delta s) := by
    intro s hs
    constructor
    · rw [moveSession_end, moveSession_start, add_sub_add_right_eq_sub]
      exact hs.window
    · exact hs.total
  refine ⟨⟨List.cons_ne_nil _ _, ?_, ?_, ?_, ?_, ?_, ?_, ?_⟩, ?_⟩
  · have := hvalid.length
    simpa using this
  · refine forall_shifted htherapist (fun s hs => hvalid.therapist s (hmidmem s hs)) ?_
    rw [htherapists]
    exact hvalid.therapist last hlastmem
  · refine forall_shifted ?_ (fun s hs => hvalid.services s (hmidmem s hs)) ?_
    · show first'.services ≠ []
      rw [hfirstservices]
      exact hvalid.services first List.mem_cons_self
    · rw [hservices]
      exact hvalid.services last hlastmem
  · refine forall_shifted ?_ ?_ ?_
    · rw [moveSession_start, moveSession_end, hfirststart, hfirstend]
      exact Int.add_lt_add_right (hvalid.window first List.mem_cons_self) delta
    · exact fun s hs => Int.add_lt_add_right (hvalid.window s (hmidmem s hs)) delta
    · rw [hstart, hend, moveSession_start, moveSession_end, add_right_comm]
      exact Int.add_lt_add_right hgrown delta
  · exact (hvalid.inOrder.shift hwork (le_of_lt hgrown)).follow
  · show ∀ s : Session, s ∈ _ →
      localDay s.appointmentStart = localDay (first'.appointmentStart + delta) ∧
        localDay s.appointmentEnd = localDay (first'.appointmentStart + delta)
    rw [hfirststart]
    refine forall_shifted ?_ (fun s hs => hday s (hmidmem s hs)) ?_
    · rw [moveSession_start, moveSession_end, hfirststart, hfirstend]
      exact hday first List.mem_cons_self
    · rw [hstart, hend, moveSession_start, moveSession_end]
      exact ⟨(hday last hlastmem).1, hlastday⟩
  · rw [map_shifted (·.position) mid (fun _ => rfl)
      (congrArg (·.position) hwork : first'.position = first.position) hposition, hvalid.positions]
    simp
  · refine forall_shifted (hmoved _ ((hlaws first List.mem_cons_self).sameWork hwork))
      (fun s hs => hmoved s (hlaws s (hmidmem s hs))) ?_
    constructor
    · rw [hstart, hend, htotal, moveSession_start, moveSession_end]
      have hwindow := hlastlaw.window
      show _ = minutes (last.totalSessionDuration + diff)
      unfold minutes at hwindow ⊢
      linarith
    · rw [htotal, hextra, hdurations, haddons]
      have hsum := hlastlaw.total
      show last.totalSessionDuration + diff =
        last.servicesDuration + last.addonsDuration + (last.extraMinutes + diff)
      linarith

theorem lawKept_several {args : UpdateArgs} (hnone : args.sessions = none) {first last : Session}
    {mid : List Session} (hs : row.sessions = first :: (mid ++ [last])) (hrow : LawKept row)
    (hk : MovesSeveral args row last) : LawKept (updatedColumns args row) := by
  have hplanned : Planned (first :: (mid ++ [last])) := by
    have := windowsLawful_iff.mp hrow.lawful
    rw [hs] at this
    exact this (List.cons_ne_nil _ _)
  have hm : Moved args row (unsynced args row) := moved_unsynced hnone
  rw [updatedColumns_of_none hnone]
  generalize unsynced args row = u at hm
  generalize (secondaryUpdate args (replacedRow args row)).given = given
  have hextra : u.extraMinutes - row.extraMinutes = extraDiff args row := by
    rw [hm.extraMinutes]
    rfl
  obtain ⟨hminutes, hpositive, hday, hlastday⟩ := hk
  dsimp only at hday
  rw [hs, ← hm.appointmentStart] at hday hlastday
  obtain ⟨hwork, htherapist⟩ := assignTherapists_work given u first
  rw [syncSessions_several (hm.sessions.trans hs), hextra]
  have hshift := hplanned.shift u.priceForExtraMinutes hwork
    (by rw [htherapist]; exact Option.some_ne_none _) hminutes hpositive hday hlastday
  constructor
  · exact windowsLawful_iff.mpr fun _ => hshift
  · intro s hs
    have := congrArg List.length hs
    simp at this

theorem lawKept_changed {u : BookingRow} (h : Changed row u) (hrow : LawKept row)
    (hstored : row.sessions ≠ []) : LawKept u := by
  obtain ⟨hvalid, hlaw⟩ := windowsLawful_iff.mp hrow.lawful hstored
  have hwork : SameWork row.sessions u.sessions := by
    rw [← getBookingSessions_of_stored hstored]
    exact h.work
  have htherapists : ∀ s ∈ u.sessions, s.therapistId ≠ none := by
    apply h.therapists
    rw [getBookingSessions_of_stored hstored]
    exact hvalid.therapist
  constructor
  · rw [windowsLawful_iff]
    refine fun _ => ⟨hvalid.sameWork hwork htherapists, fun s hs => ?_⟩
    obtain ⟨s₀, hs₀, heq⟩ := hwork.mem hs
    exact (hlaw s₀ hs₀).sameWork heq.symm
  · intro s hs
    have hone : row.sessions.length = 1 := by
      have := congrArg List.length hwork
      rw [hs] at this
      simpa using this.symm
    obtain ⟨s₀, hs₀⟩ := List.length_eq_one_iff.mp hone
    have heq : withoutTherapists s = withoutTherapists s₀ := by
      unfold SameWork at hwork
      rw [hs, hs₀] at hwork
      exact List.singleton_injective hwork
    obtain ⟨h1, h2, h3, h4, h5, h6⟩ := hrow.single s₀ hs₀
    constructor
    · exact (h.appointmentStart.trans h1).trans (congrArg (·.appointmentStart) heq).symm
    · exact (h.appointmentEnd.trans h2).trans (congrArg (·.appointmentEnd) heq).symm
    · exact (h.durationMinutes.trans h3).trans (congrArg (·.servicesDuration) heq).symm
    · exact (h.extraMinutes.trans h4).trans (congrArg (·.extraMinutes) heq).symm
    · exact (h.addonsDuration.trans h5).trans (congrArg (some ·.addonsDuration) heq).symm
    · exact (h.totalDuration.trans h6).trans (congrArg (some ·.totalSessionDuration) heq).symm

/-! ## Runs -/

/-- The conditions on the calls. A booking whose therapist is changed stores sessions. -/
abbrev lawConditions : Conditions where
  C := CreatesLawfully
  U := KeepsLaw
  T := fun row => row.sessions ≠ []

theorem lawKept_step {d : Db} {x : BookingOp × (ℕ → Env)} (hd : EveryBooking LawKept d)
    (hx : lawConditions.Meets d x) : EveryBooking LawKept (bookingStep d x) := by
  refine everyBooking_step ofSchedule_lawKept ?_ ?_ ?_ hd hx
  · intro plan args full hfull hc id bookingNumber
    rcases createArgs_cases hfull with hnil | ⟨first, rest, hplanned, rfl⟩
    · apply lawKept_of_no_sessions
      rw [newBooking_sessions, hnil]
    · exact lawKept_newBooking args id bookingNumber hplanned hc
  · intro plan args full row hfull hrow hk
    rcases updateArgs_cases hfull with hnone | ⟨first, rest, hplanned, hsome⟩
    · cases hs : row.sessions using List.bidirectionalRec with
      | nil =>
        apply lawKept_of_no_sessions
        rw [updatedColumns_of_none hnone]
        exact syncSessions_nil ((moved_unsynced hnone).sessions.trans hs)
      | singleton s => exact lawKept_single hnone hs hrow (hk.single hnone s hs)
      | cons_append first mid last _ =>
        have hlast : last ∈ row.sessions.getLast? := by
          rw [hs]
          exact getLast?_several first last mid
        have hlen : 2 ≤ row.sessions.length := by
          rw [hs]
          simp
        exact lawKept_several hnone hs hrow (hk.several hnone hlen last hlast)
    · exact lawKept_replaced hsome hplanned hk
  · intro sessionId args row hrow hstored
    exact lawKept_changed changed_changedColumns hrow hstored

/-- All along a run, from no bookings, whose calls meet the conditions, the stored sessions of every
booking are valid as they stand, and each is as long as its parts. -/
theorem windows_lawful (ops : List (BookingOp × (ℕ → Env)))
    (h : Runs.AllSteps bookingStep lawConditions.Meets {} ops) :
    Runs.Always bookingStep (EveryBooking WindowsLawful) {} ops := by
  have hempty : EveryBooking LawKept {} := by
    rintro b ⟨⟩
  have hkept : Runs.Always bookingStep (EveryBooking LawKept) {} ops := by
    refine Runs.always_of_allSteps ?_ hempty h
    intro d x hd hx
    exact lawKept_step hd hx
  exact hkept.mono fun _ hd b hb => (hd b hb).lawful

/-- A booking of one session is moved and takes half an hour more, the total duration being sent with
it; one of two sessions is moved. -/
theorem windows_lawful_moved :
    let extended := updates { appointmentStart := some (minutes 480), extraMinutes := some 30
                              totalDuration := some 90 }
    let moved := updates { appointmentStart := some (minutes 480) }
    Runs.Always bookingStep (EveryBooking WindowsLawful) {} [createsHours [7], extended] ∧
      Runs.Always bookingStep (EveryBooking WindowsLawful) {} [createsHours [7, 11], moved] :=
  ⟨windows_lawful _ (by decide +kernel), windows_lawful _ (by decide +kernel)⟩

/-- Half an hour more without a total duration makes a session of ninety minutes that counts sixty; and
two sessions moved to the evening reach into the next day. -/
theorem windows_unlawful :
    let extended := [createsHours [7], updates { extraMinutes := some 30 }]
    let moved := [createsHours [7, 17], updates { appointmentStart := some (minutes 720) }]
    ¬ Runs.Always bookingStep (EveryBooking WindowsLawful) {} extended ∧
      ¬ Runs.Always bookingStep (EveryBooking WindowsLawful) {} moved := by
  intro extended moved
  have hextended : ∃ b ∈ (Runs.run bookingStep {} extended).bookings, b.sessions ≠ [] ∧
      ∃ s ∈ b.sessions, s.appointmentEnd - s.appointmentStart = minutes 90 ∧
        s.totalSessionDuration = 60 := by decide +kernel
  have hmoved : ∃ b ∈ (Runs.run bookingStep {} moved).bookings, b.sessions ≠ [] ∧
      validateSessions b.sessions MAX_PACKAGE_SESSIONS_PER_BOOKING ≠ .ok b.sessions := by
    decide +kernel
  constructor
  · intro h
    obtain ⟨b, hb, hne, s, hs, hwindow, htotal⟩ := hextended
    have hlaw := ((h.last b hb) hne).2 s hs
    rw [hlaw.window, htotal] at hwindow
    exact absurd hwindow (by decide)
  · intro h
    obtain ⟨b, hb, hne, hrefused⟩ := hmoved
    exact hrefused ((h.last b hb) hne).1

end Booking
