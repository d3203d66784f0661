import UshBookNPay.Booking.Proofs.LawProofs

/-!
# The legacy columns mirror the sessions

An update changes the columns and the sessions in two places. The columns stay those of
`legacy_mirror` where what the update sends besides agrees with the sessions it brings, or is what the
stored sessions take over.
-/

namespace Booking

variable {b row : BookingRow} {s : Session} {l l' : List Session}

/-! ## Mirrors of lists that agree -/

theorem flattenServices_ids (l : List Session) :
    (flattenServices l).map (·.serviceId) =
      (l.map (·.services)).flatMap fun entries => entries.map (·.serviceId) := by
  unfold flattenServices
  rw [List.map_map, Lists.map_zipIdx (g := (·.serviceId)) fun _ _ => rfl, List.map_flatMap,
    List.flatMap_map]
  refine List.flatMap_congr fun s _ => ?_
  rw [List.map_map]
  rfl

theorem flattenAddons_eq (l : List Session) :
    flattenAddons l = (l.map fun s => (s.sessionId, s.addons)).flatMap fun x =>
      x.2.map fun a => Json.withField (some a) "session_id" (.str (uuidStr x.1)) := by
  unfold flattenAddons
  rw [List.flatMap_map]

/-- What the mirror of `l` needs of `l`, its first session aside. -/
structure SameSums (l l' : List Session) : Prop where
  services : l'.map (·.services) = l.map (·.services)
  addons : (l'.map fun s => (s.sessionId, s.addons)) = l.map fun s => (s.sessionId, s.addons)
  servicesDuration : (l'.map (·.servicesDuration)).sum = (l.map (·.servicesDuration)).sum
  extraMinutes : (l'.map (·.extraMinutes)).sum = (l.map (·.extraMinutes)).sum
  addonsDuration : (l'.map (·.addonsDuration)).sum = (l.map (·.addonsDuration)).sum
  totalDuration : (l'.map (·.totalSessionDuration)).sum = (l.map (·.totalSessionDuration)).sum

theorem SameWork.sums (h : SameWork l l') : SameSums l l' where
  services := h.map _ fun _ => rfl
  addons := h.map _ fun _ => rfl
  servicesDuration := congrArg List.sum (h.map _ fun _ => rfl)
  extraMinutes := congrArg List.sum (h.map _ fun _ => rfl)
  addonsDuration := congrArg List.sum (h.map _ fun _ => rfl)
  totalDuration := congrArg List.sum (h.map _ fun _ => rfl)

theorem ofSchedule_mirrored : OfSchedule Mirrored := by
  intro b b' hsame h first rest hs
  rw [hsame.sessions] at hs
  obtain ⟨h1, h2, h3, h4, h5, h6, h7, h8⟩ := h first rest hs
  constructor
  · rw [hsame.therapistId, h1]
  · rw [hsame.secondaryTherapistId, h2]
  · rw [hsame.services, h3]
  · rw [hsame.addons, h4]
  · rw [hsame.durationMinutes, h5]
  · rw [hsame.extraMinutes, h6]
  · rw [hsame.addonsDuration, h7]
  · rw [hsame.totalDuration, h8]

theorem mirrored_of_no_sessions (h : b.sessions = []) : Mirrored b := by
  intro first rest hs
  rw [h] at hs
  cases hs

/-! ## New sessions -/

theorem Planned.first_therapist {first : Session} {rest : List Session}
    (h : Planned (first :: rest)) (t : Uuid) : some (first.therapistId.getD t) = first.therapistId := by
  cases ht : first.therapistId with
  | none => exact absurd ht (h.valid.therapist first List.mem_cons_self)
  | some t' => rfl

theorem Planned.services_ne_nil {first : Session} {rest : List Session}
    (h : Planned (first :: rest)) : (legacyMirror first rest).services ≠ [] := by
  intro hnil
  have hids := flattenServices_ids (first :: rest)
  have hflat : flattenServices (first :: rest) = [] := hnil
  rw [hflat, List.map_cons, List.flatMap_cons] at hids
  have hfirst := (List.append_eq_nil_iff.mp hids.symm).1
  exact h.valid.services first List.mem_cons_self (List.map_eq_nil_iff.mp hfirst)

theorem newBooking_others (args : CreateArgs) (id : Uuid) (bookingNumber : String) :
    (newBooking args id bookingNumber).therapistId = args.therapistId ∧
      (newBooking args id bookingNumber).secondaryTherapistId = args.secondaryTherapistId ∧
      (newBooking args id bookingNumber).services = args.services ∧
      (newBooking args id bookingNumber).addons = args.addons := by
  unfold newBooking
  cases args.services <;> exact ⟨rfl, rfl, rfl, rfl⟩

theorem mirrored_newBooking {first : Session} {rest : List Session} (args : CreateArgs) (id : Uuid)
    (bookingNumber : String) (hplanned : Planned (first :: rest))
    (hcreate : CreatesMirrored (plannedArgs (first :: rest) args)) :
    Mirrored (newBooking (plannedArgs (first :: rest) args) id bookingNumber) := by
  obtain ⟨haddons, hduration, hextra, haddonsDuration, htotal⟩ := hcreate first rest rfl
  obtain ⟨hd, he, ha, ht⟩ :=
    newBooking_durations (plannedArgs (first :: rest) args) id bookingNumber
  obtain ⟨htherapist, hsecondary, hservices, haddons'⟩ :=
    newBooking_others (plannedArgs (first :: rest) args) id bookingNumber
  intro first' rest' hs
  rw [newBooking_sessions] at hs
  obtain ⟨rfl, rfl⟩ := List.cons_eq_cons.mp hs
  refine ⟨?_, hsecondary, ?_, haddons'.trans haddons, hd.trans hduration, he.trans hextra,
    ha.trans haddonsDuration, ht.trans htotal⟩
  · rw [htherapist]
    exact hplanned.first_therapist args.therapistId
  · rw [hservices]
    rfl

theorem AgreesWithPlan.names {args : UpdateArgs} {m : Mirror} (h : AgreesWithPlan args row m) :
    NamesTherapists args m := ⟨h.therapistId, h.secondary, h.distinct⟩

/-- The second therapist an update with sessions leaves is that of the first session. -/
theorem secondaryUpdate_mirror {args : UpdateArgs} {m : Mirror}
    (htherapist : some b.therapistId = m.therapistId)
    (hsecondary : b.secondaryTherapistId = m.secondaryTherapistId)
    (hk : NamesTherapists args m) :
    (secondaryUpdate args b).therapistId = m.secondaryTherapistId := by
  have htarget : some (targetTherapistId args b) = m.therapistId := by
    unfold targetTherapistId
    cases ht : args.therapistId with
    | none => exact htherapist
    | some t => exact hk.therapistId t ht
  unfold secondaryUpdate
  dsimp only
  by_cases hgiven : args.secondaryTherapistProvided ∨ args.secondaryTherapistId.isSome
  · rw [if_pos hgiven]
    exact hk.secondary hgiven
  · have hdistinct : b.secondaryTherapistId ≠ some (targetTherapistId args b) := by
      rw [hsecondary, htarget]
      intro heq
      refine hk.distinct ?_ heq
      rw [heq, ← htarget]
      rfl
    rw [if_neg hgiven, if_neg hdistinct]
    exact hsecondary

theorem mirrored_replaced {args : UpdateArgs} {first : Session} {rest : List Session}
    (hsome : args.sessions = some (first :: rest)) (hplanned : Planned (first :: rest))
    (hk : KeepsMirror args row) : Mirrored (updatedColumns args row) := by
  have hb : Brings first rest (updatedColumns args row) := brings_updatedColumns hsome
  have hm : MirrorColumns (legacyMirror first rest) row (replaceSessions args row) :=
    mirrorColumns_replaceSessions hsome
  have hagree := hk.planned _ hsome first rest rfl
  have hcols := columns_unsynced args row
  intro first' rest' hs
  rw [hb.sessions] at hs
  obtain ⟨rfl, rfl⟩ := List.cons_eq_cons.mp hs
  rw [updatedColumns_of_some hsome]
  generalize hmirror : legacyMirror first rest = m at *
  have htherapist : some (replaceSessions args row).therapistId = m.therapistId := by
    rw [hm.therapistId, ← hmirror]
    exact hplanned.first_therapist row.therapistId
  have hstored : (replaceSessions args row).services ≠ [] := by
    rw [hm.services, ← hmirror]
    exact hplanned.services_ne_nil
  have hduration : (replaceSessions args row).durationMinutes = m.durationMinutes := by
    rw [hm.durationMinutes]
    unfold Voucher.intOr
    split_ifs with hzero
    · rw [hagree.durationMinutes hzero, hzero]
    · rfl
  constructor
  · rw [hcols.therapistId]
    cases ht : args.therapistId with
    | none => exact htherapist
    | some t => exact hagree.therapistId t ht
  · rw [hcols.secondaryTherapistId]
    exact secondaryUpdate_mirror htherapist hm.secondaryTherapistId hagree.names
  · rw [hcols.services fun _ => hstored, hm.services]
    cases hs : args.services with
    | none => rfl
    | some entries => exact (hagree.services entries hs).1
  · rw [hcols.addons, hm.addons]
    exact getD_of_agrees hagree.addons
  · rw [hcols.durationMinutes, hduration]
    intro entries hs
    exact .inr ((hagree.services entries hs).2.trans hduration.symm)
  · rw [hcols.extraMinutes, hm.extraMinutes]
    exact getD_of_agrees hagree.extraMinutes
  · rw [hcols.addonsDuration, hm.addonsDuration]
    exact or_of_agrees hagree.addonsDuration
  · rw [hcols.totalDuration, hm.totalDuration]
    exact or_of_agrees hagree.totalDuration

/-! ## Other therapists -/

theorem mirrored_changed {u : BookingRow} (h : Changed row u) (hrow : Mirrored row)
    (hstored : row.sessions ≠ []) : Mirrored u := by
  obtain ⟨first, rest, hs⟩ := List.exists_cons_of_ne_nil hstored
  have hm := hrow first rest hs
  have hwork : SameWork (first :: rest) u.sessions := by
    rw [← hs, ← getBookingSessions_of_stored hstored]
    exact h.work
  intro first' rest' hs'
  rw [hs'] at hwork
  obtain ⟨hservices, haddons, h1, h2, h3, h4⟩ := hwork.sums
  constructor
  · refine h.therapistId ?_ first' (by rw [hs']; rfl)
    rw [getBookingSessions_of_stored hstored, hs]
    rintro s ⟨rfl⟩
    have hfirst : some row.therapistId = first.therapistId := hm.therapistId
    rw [← hfirst]
    exact Option.some_ne_none _
  · exact h.secondaryTherapistId first' (by rw [hs']; rfl)
  · rw [h.services, hm.services]
    show (flattenServices _).map _ = (flattenServices _).map _
    rw [flattenServices_ids, flattenServices_ids, hservices]
  · rw [h.addons, hm.addons]
    show flattenAddons _ = flattenAddons _
    rw [flattenAddons_eq, flattenAddons_eq, haddons]
  · exact (h.durationMinutes.trans hm.durationMinutes).trans h1.symm
  · exact (h.extraMinutes.trans hm.extraMinutes).trans h2.symm
  · exact (h.addonsDuration.trans hm.addonsDuration).trans (congrArg some h3.symm)
  · exact (h.totalDuration.trans hm.totalDuration).trans (congrArg some h4.symm)

/-! ## Synchronized sessions -/

/-- What an update without sessions leaves in the columns, the services being those of the booking. -/
theorem services_kept {args : UpdateArgs} (hnone : args.sessions = none)
    (hk : KeepsServices args row) :
    (unsynced args row).services.map (·.serviceId) = row.services.map (·.serviceId) ∧
      (unsynced args row).durationMinutes = row.durationMinutes := by
  have hcols := columns_unsynced args row
  rw [replaceSessions_of_none hnone] at hcols
  constructor
  · rw [hcols.services fun _ => hk.stored]
    cases hs : args.services with
    | none => rfl
    | some entries => exact (hk.same entries hs).1
  · exact hcols.durationMinutes fun entries hs => (hk.same entries hs).2

theorem syncSingle_addons (given : Bool) (total : ℤ) (b : BookingRow) (s : Session) :
    (syncSingle given total b s).sessionId = s.sessionId ∧
      (syncSingle given total b s).addons = normaliseAddons b.addons := by
  cases given <;> exact ⟨rfl, rfl⟩

/-- The first session gets the second therapist of the booking, or has him already. -/
theorem assignTherapists_secondary {given : Bool} {u : BookingRow}
    (h : given = false → u.secondaryTherapistId = s.secondaryTherapistId) :
    u.secondaryTherapistId = (assignTherapists given u s).secondaryTherapistId := by
  cases given with
  | false => exact h rfl
  | true => rfl

theorem mirrored_single {args : UpdateArgs} (hnone : args.sessions = none) (hs : row.sessions = [s])
    (hrow : Mirrored row) (hservices : KeepsServices args row) (hk : KeepsSingle args row s) :
    Mirrored (updatedColumns args row) := by
  obtain ⟨hm1, hm2, hm3, hm4⟩ := legacyMirror_single s
  have hmatch := hrow s [] hs
  obtain ⟨hids, hduration⟩ := services_kept hnone hservices
  have hm : Moved args row (unsynced args row) := moved_unsynced hnone
  have hcols := columns_unsynced args row
  rw [replaceSessions_of_none hnone] at hcols
  have hsecond : (secondaryUpdate args (replacedRow args row)).given = false →
      (unsynced args row).secondaryTherapistId = s.secondaryTherapistId :=
    fun h => (hm.secondaryTherapistId h).trans hmatch.secondaryTherapistId
  obtain ⟨haddons, htotal⟩ := hk
  rw [updatedColumns_of_none hnone]
  generalize unsynced args row = u at hm hcols hids hduration hsecond
  generalize effTotalDuration args (replacedRow args row) = eff at htotal
  generalize (secondaryUpdate args (replacedRow args row)).given = given at hsecond
  rw [syncSessions_single (hm.sessions.trans hs)]
  have hutotal : u.totalDuration = args.totalDuration.or (some s.totalSessionDuration) := by
    rw [hcols.totalDuration, hmatch.totalDuration, hm4]
  intro first' rest' hs'
  obtain ⟨rfl, rfl⟩ := List.cons_eq_cons.mp hs'
  obtain ⟨htherapist, -, hentries, hparts⟩ := syncSingle_others given eff u s
  obtain ⟨hid, hstored⟩ := syncSingle_addons given eff u s
  obtain ⟨hn1, hn2, hn3, hn4⟩ := legacyMirror_single (syncSingle given eff u s)
  constructor
  · exact htherapist.symm
  · exact assignTherapists_secondary hsecond
  · refine (hids.trans hmatch.services).trans ?_
    show (flattenServices _).map _ = (flattenServices _).map _
    rw [flattenServices_ids, flattenServices_ids, List.map_singleton, List.map_singleton, hentries]
  · show u.addons = flattenAddons [syncSingle given eff u s]
    have hsame : flattenAddons [syncSingle given eff u s] =
        flattenAddons [{ s with addons := normaliseAddons (args.addons.getD row.addons) }] := by
      rw [flattenAddons_eq, flattenAddons_eq, List.map_singleton, List.map_singleton, hid, hstored,
        hcols.addons]
    rw [hsame, haddons]
    exact hcols.addons
  · rw [hn1, hparts, ← hm1, ← hmatch.durationMinutes]
    exact hduration
  · rw [hn2]
    rfl
  · rw [hn3]
    show u.addonsDuration = some (u.addonsDuration.getD s.addonsDuration)
    rw [hcols.addonsDuration, hmatch.addonsDuration, hm3]
    cases args.addonsDuration <;> rfl
  · rw [hn4]
    show u.totalDuration = some (Voucher.intOr (u.totalDuration.getD 0) eff)
    rw [hmatch.totalDuration, hm4, ← hutotal] at htotal
    cases ht : u.totalDuration with
    | none =>
      rw [ht] at hutotal
      cases harg : args.totalDuration <;> rw [harg] at hutotal <;> cases hutotal
    | some total =>
      rw [Option.getD_some]
      unfold Voucher.intOr
      split_ifs with hzero
      · rw [htotal (by rw [ht, hzero]), hzero]
      · rfl

/-- The sum of a column the last session takes a change of. -/
theorem sum_shifted (f : Session → ℤ) {delta : Instant} {diff : ℤ} {price : Fils}
    {first first' last : Session} (mid : List Session)
    (hf : ∀ s, f (moveSession delta s) = f s) (hfirst : f first' = f first)
    (hlast : f (extendSession diff price (moveSession delta last)) = f last + diff) :
    ((moveSession delta first' :: (mid.map (moveSession delta) ++
      [extendSession diff price (moveSession delta last)])).map f).sum =
      ((first :: (mid ++ [last])).map f).sum + diff := by
  have hmid : (mid.map (moveSession delta)).map f = mid.map f := by
    rw [List.map_map]
    exact List.map_congr_left fun s _ => hf s
  simp only [List.map_cons, List.map_append, List.map_nil, hmid, hf, hfirst, hlast, List.sum_cons,
    List.sum_append, List.sum_nil]
  ring

theorem mirrored_several {args : UpdateArgs} (hnone : args.sessions = none) {first last : Session}
    {mid : List Session} (hs : row.sessions = first :: (mid ++ [last])) (hrow : Mirrored row)
    (hservices : KeepsServices args row) (hk : KeepsSeveral args row last) :
    Mirrored (updatedColumns args row) := by
  have hmatch := hrow _ _ hs
  obtain ⟨hids, hduration⟩ := services_kept hnone hservices
  have hm : Moved args row (unsynced args row) := moved_unsynced hnone
  have hcols := columns_unsynced args row
  rw [replaceSessions_of_none hnone] at hcols
  have hsecond : (secondaryUpdate args (replacedRow args row)).given = false →
      (unsynced args row).secondaryTherapistId = first.secondaryTherapistId :=
    fun h => (hm.secondaryTherapistId h).trans hmatch.secondaryTherapistId
  rw [updatedColumns_of_none hnone]
  generalize unsynced args row = u at hm hcols hids hduration hsecond
  generalize (secondaryUpdate args (replacedRow args row)).given = given at hsecond
  have hextra : u.extraMinutes - row.extraMinutes = extraDiff args row := by
    rw [hm.extraMinutes]
    rfl
  rw [syncSessions_several (hm.sessions.trans hs), hextra]
  obtain ⟨hwork, htherapist⟩ := assignTherapists_work given u first
  obtain ⟨haddonsArg, haddonsDurationArg, hminutes, htotalArg⟩ := hk
  have hadded : u.extraMinutes = row.extraMinutes + extraDiff args row := by
    rw [← hextra]
    ring
  generalize extraDiff args row = diff at *
  generalize u.appointmentStart - row.appointmentStart = delta
  obtain ⟨-, hid, -, hentries, hstored, hparts, haddonsDuration⟩ :=
    extendSession_others diff u.priceForExtraMinutes (moveSession delta last)
  obtain ⟨htotal, hextra'⟩ :=
    extendSession_durations diff u.priceForExtraMinutes (moveSession delta last) hminutes
  have hsecondary := assignTherapists_secondary hsecond
  generalize assignTherapists given u first = first' at *
  intro s rest hs'
  obtain ⟨rfl, rfl⟩ := List.cons_eq_cons.mp hs'
  constructor
  · exact htherapist.symm
  · exact hsecondary
  · refine (hids.trans hmatch.services).trans ?_
    show (flattenServices _).map _ = (flattenServices _).map _
    rw [flattenServices_ids, flattenServices_ids, map_shifted (·.services) mid (fun _ => rfl)
      (congrArg (·.services) hwork : first'.services = first.services) hentries]
  · show u.addons = flattenAddons _
    rw [hcols.addons, getD_of_agrees haddonsArg, hmatch.addons]
    show flattenAddons _ = flattenAddons _
    have hpair : (first'.sessionId, first'.addons) = (first.sessionId, first.addons) := by
      have heq := congrArg (fun s : Session => (s.sessionId, s.addons)) hwork
      exact heq
    rw [flattenAddons_eq, flattenAddons_eq, map_shifted (fun s => (s.sessionId, s.addons)) mid
      (fun _ => rfl) hpair (Prod.ext hid hstored)]
  · refine (hduration.trans hmatch.durationMinutes).trans ?_
    exact congrArg List.sum (map_shifted (·.servicesDuration) mid (fun _ => rfl)
      (congrArg (·.servicesDuration) hwork : first'.servicesDuration = _) hparts).symm
  · rw [hadded, hmatch.extraMinutes]
    exact (sum_shifted (·.extraMinutes) mid (fun _ => rfl)
      (congrArg (·.extraMinutes) hwork : first'.extraMinutes = _) hextra').symm
  · have hkept : u.addonsDuration = row.addonsDuration := by
      rw [hcols.addonsDuration]
      cases harg : args.addonsDuration with
      | none => rfl
      | some n => exact haddonsDurationArg n harg
    refine (hkept.trans hmatch.addonsDuration).trans (congrArg some ?_)
    exact congrArg List.sum (map_shifted (·.addonsDuration) mid (fun _ => rfl)
      (congrArg (·.addonsDuration) hwork : first'.addonsDuration = _) haddonsDuration).symm
  · rw [hcols.totalDuration, htotalArg, hmatch.totalDuration, Option.map_some]
    exact congrArg some (sum_shifted (·.totalSessionDuration) mid (fun _ => rfl)
      (congrArg (·.totalSessionDuration) hwork : first'.totalSessionDuration = _) htotal).symm

/-! ## Runs -/

/-- The conditions on the calls. A booking whose therapist is changed stores sessions. -/
abbrev mirrorConditions : Conditions where
  C := CreatesMirrored
  U := KeepsMirror
  T := fun row => row.sessions ≠ []

theorem mirrored_step {d : Db} {x : BookingOp × (ℕ → Env)} (hd : EveryBooking Mirrored d)
    (hx : mirrorConditions.Meets d x) : EveryBooking Mirrored (bookingStep d x) := by
  refine everyBooking_step ofSchedule_mirrored ?_ ?_ ?_ hd hx
  · intro plan args full hfull hc id bookingNumber
    rcases createArgs_cases hfull with hnil | ⟨first, rest, hplanned, rfl⟩
    · apply mirrored_of_no_sessions
      rw [newBooking_sessions, hnil]
    · exact mirrored_newBooking args id bookingNumber hplanned hc
  · intro plan args full row hfull hrow hk
    rcases updateArgs_cases hfull with hnone | ⟨first, rest, hplanned, hsome⟩
    · cases hs : row.sessions using List.bidirectionalRec with
      | nil =>
        apply mirrored_of_no_sessions
        rw [updatedColumns_of_none hnone]
        exact syncSessions_nil ((moved_unsynced hnone).sessions.trans hs)
      | singleton s =>
        exact mirrored_single hnone hs hrow (hk.services hnone) (hk.single hnone s hs)
      | cons_append first mid last _ =>
        have hlast : last ∈ row.sessions.getLast? := by
          rw [hs]
          exact getLast?_several first last mid
        have hlen : 2 ≤ row.sessions.length := by
          rw [hs]
          simp
        exact mirrored_several hnone hs hrow (hk.services hnone) (hk.several hnone hlen last hlast)
    · exact mirrored_replaced hsome hplanned hk
  · intro sessionId args row hrow hstored
    exact mirrored_changed changed_changedColumns hrow hstored

/-- All along a run whose calls meet the conditions, the legacy columns of every booking are those of
the mirror of its sessions, where they are so at its start. -/
theorem columns_mirrored (d : Db) (ops : List (BookingOp × (ℕ → Env)))
    (hd : EveryBooking Mirrored d) (h : Runs.AllSteps bookingStep mirrorConditions.Meets d ops) :
    Runs.Always bookingStep (EveryBooking Mirrored) d ops := by
  refine Runs.always_of_allSteps ?_ hd h
  intro d x hd hx
  exact mirrored_step hd hx

/-- Two sessions get another first therapist and half an hour more, with the total duration they then
make. -/
theorem columns_mirrored_extended :
    let extended := updates { therapistId := some 5, extraMinutes := some 30
                              totalDuration := some 150 }
    Runs.Always bookingStep (EveryBooking Mirrored) {} [createsHours [7, 11], extended] :=
  columns_mirrored {} _ (by rintro b ⟨⟩) (by decide +kernel)

/-- Without a total duration the columns keep the old one, which is not that of the sessions; other
services are not those of the sessions at all. -/
theorem columns_drift :
    let extended := [createsHours [7, 11], updates { extraMinutes := some 30 }]
    let replaced := [createsHours [7], updates { services := some [{ serviceId := some 8 }] }]
    ¬ Runs.Always bookingStep (EveryBooking Mirrored) {} extended ∧
      ¬ Runs.Always bookingStep (EveryBooking Mirrored) {} replaced := by
  intro extended replaced
  have hextended : ∃ b ∈ (Runs.run bookingStep {} extended).bookings, b.sessions ≠ [] ∧
      b.totalDuration = some 120 ∧ (b.sessions.map (·.totalSessionDuration)).sum = 150 := by
    decide +kernel
  have hreplaced : ∃ b ∈ (Runs.run bookingStep {} replaced).bookings, b.sessions ≠ [] ∧
      b.services.map (·.serviceId) = [some 8] ∧
      (flattenServices b.sessions).map (·.serviceId) = [some 3] := by
    decide +kernel
  constructor
  · intro h
    obtain ⟨b, hb, hne, htotal, hsum⟩ := hextended
    obtain ⟨first, rest, hs⟩ := List.exists_cons_of_ne_nil hne
    have hmatch := (h.last b hb first rest hs).totalDuration
    rw [hs] at hsum
    rw [htotal] at hmatch
    have heq : (120 : ℤ) = ((first :: rest).map (·.totalSessionDuration)).sum :=
      Option.some.inj hmatch
    rw [hsum] at heq
    exact absurd heq (by decide)
  · intro h
    obtain ⟨b, hb, hne, hids, hflat⟩ := hreplaced
    obtain ⟨first, rest, hs⟩ := List.exists_cons_of_ne_nil hne
    have hmatch := (h.last b hb first rest hs).services
    rw [hs] at hflat
    rw [hids] at hmatch
    exact absurd (hmatch.trans hflat) (by decide)

end Booking
