import UshBookNPay.Booking.SessionPlans
import UshBookNPay.Booking.Proofs.PackageProofs

/-!
# The therapists of a plan

The availability service may put another therapist in the place of the one that is sent. The data of
the therapist and the second therapist stay what they were.
-/

namespace Booking

variable {up : Records} {profiles : Uuid → Option Dict} {call : PlanCall} {plan : SessionPlan}
  {res : AvailabilityAnswer} {s : Session}

/-! ## Snapshots -/

/-- The last value under a key counts, before what was there. -/
theorem lookup_mergeDict (d fields : Dict) (key : String) :
    (mergeDict d fields).lookup key = (fields.reverse.lookup key).or (d.lookup key) := by
  unfold mergeDict
  induction fields generalizing d with
  | nil => rfl
  | cons kv fields ih =>
    obtain ⟨k, value⟩ := kv
    rw [List.foldl_cons, ih, Json.lookup_setField, List.reverse_cons, List.lookup_append,
      List.lookup_cons, List.lookup_nil]
    cases fields.reverse.lookup key with
    | some v => rfl
    | none =>
      by_cases hkey : key = k
      · subst hkey
        simp
      · have hbeq : (key == k) = false := by simpa using hkey
        rw [if_neg hkey, hbeq]
        rfl

theorem lookup_setDefault_of_ne (d : Dict) {key k : String} (value : Json) (h : k ≠ key) :
    (setDefault d key value).lookup k = d.lookup k := by
  have hbeq : (k == key) = false := by simpa using h
  unfold setDefault
  split_ifs
  · rfl
  · rw [List.lookup_append, List.lookup_cons, hbeq, List.lookup_nil, Option.or_none]

theorem lookup_id_therapistSnapshot (therapistId : Uuid) (provided : Dict) (name : Option String) :
    (therapistSnapshot profiles therapistId provided name).lookup "id" =
      some ((provided.reverse.lookup "id").getD (.str (uuidStr therapistId))) := by
  have hsnap : ∀ nm : Json, (mergeDict [("id", .str (uuidStr therapistId)), ("name", nm),
      ("therapist_name", nm), ("full_name", nm)] provided).lookup "id" =
      some ((provided.reverse.lookup "id").getD (.str (uuidStr therapistId))) := by
    intro nm
    rw [lookup_mergeDict, List.lookup_cons_self]
    cases provided.reverse.lookup "id" <;> rfl
  unfold therapistSnapshot
  dsimp only
  split
  · rw [lookup_setDefault_of_ne _ _ (by decide), lookup_setDefault_of_ne _ _ (by decide), hsnap]
  · rw [hsnap]

/-! ## An answered session -/

/-- What the answer makes of a session. -/
def answered (res : AvailabilityAnswer) (s : Session) : Session :=
  if s.serviceArrangementId = none then s else takeSecondary res (takeTherapist res s)

theorem answered_of_check {edited : Bool} {s' : Session}
    (h : checkSessionAvailability edited res s = .ok s') : s' = answered res s := by
  unfold checkSessionAvailability at h
  unfold answered
  dsimp only at h
  split_ifs at h ⊢
  · exact (Except.ok.inj h).symm
  · exact (Except.ok.inj h).symm

theorem checkAll_answered {edited : Bool} {answers : List AvailabilityAnswer} {l l' : List Session}
    (h : checkAll edited answers l = .ok l') (i : ℕ) :
    l'[i]? = l[i]?.map (answered ((answers[i]?).getD {})) := by
  induction l generalizing answers l' i with
  | nil =>
    cases h
    rfl
  | cons s rest ih =>
    unfold checkAll at h
    obtain ⟨checked, hchecked, h⟩ := Fallible.bind_eq_ok.mp h
    obtain ⟨others, hothers, h⟩ := Fallible.bind_eq_ok.mp h
    obtain rfl := Fallible.pure_eq_ok.mp h
    cases i with
    | zero =>
      have hhead : answers.headD {} = (answers[0]?).getD {} := by cases answers <;> rfl
      rw [answered_of_check hchecked, hhead]
      rfl
    | succ i =>
      have htail : answers.tail[i]? = answers[i + 1]? := by cases answers <;> rfl
      have hrest := ih hothers i
      rw [htail] at hrest
      exact hrest

theorem takeTherapist_therapistId (res : AvailabilityAnswer) (s : Session) {t : Uuid}
    (h : s.therapistId = some t) :
    (takeTherapist res s).therapistId = some (res.therapistId.getD t) ∧
      (takeTherapist res s).therapistData = s.therapistData ∧
      (takeTherapist res s).secondaryTherapistId = s.secondaryTherapistId := by
  unfold takeTherapist
  cases res.therapistId with
  | none => exact ⟨h, rfl, rfl⟩
  | some chosen =>
    dsimp only
    split_ifs with hsame
    · exact ⟨hsame, rfl, rfl⟩
    · exact ⟨rfl, rfl, rfl⟩

/-- A second therapist that the answer brings is not the first. -/
theorem takeSecondary_distinct_iff (res : AvailabilityAnswer) {t : Uuid}
    (h : s.therapistId = some t) :
    (takeSecondary res s).therapistId = some t ∧
      (takeSecondary res s).therapistData = s.therapistData ∧
      ((takeSecondary res s).secondaryTherapistId = some t ↔ s.secondaryTherapistId = some t) := by
  unfold takeSecondary
  split_ifs with hneeds
  · dsimp only
    cases (uniqueIds (res.therapistId :: res.therapistIds.map some ++
        [res.secondaryTherapistId]))[1]? with
    | none => exact ⟨h, rfl, Iff.rfl⟩
    | some sec =>
      dsimp only
      split_ifs with hsame
      · exact ⟨h, rfl, Iff.rfl⟩
      · refine ⟨h, rfl, iff_of_false ?_ ?_⟩
        · intro hsec
          have hsec' : sec = t := Option.some.inj hsec
          rw [h, hsec'] at hsame
          exact hsame rfl
        · rw [hneeds.2]
          exact Option.some_ne_none t ∘ Eq.symm
  · exact ⟨h, rfl, Iff.rfl⟩

/-- The therapists of the stored session. -/
structure SessionSound (s : Session) : Prop where
  distinct : ∀ t, s.therapistId = some t → s.secondaryTherapistId ≠ some t
  described : ∃ t, s.therapistId = some t ∧ Describes s.therapistData t

/-- The session is built from what is sent. -/
structure FromSent (x : SentSession) (s : Session) : Prop where
  start : s.appointmentStart = x.item.start
  therapist : s.therapistId = some x.item.therapistId
  data : s.therapistData.field? "id" = some (shownId x)
  secondary : s.secondaryTherapistId = x.item.secondaryTherapistId
  arrangement : s.serviceArrangementId = x.item.serviceArrangementId

theorem sessionSound_iff {t : Uuid} {x : SentSession} (ht : s.therapistId = some t)
    (hdata : s.therapistData.field? "id" = some (shownId x))
    (hsecondary : s.secondaryTherapistId = some t ↔ x.item.secondaryTherapistId = some t) :
    SessionSound s ↔ ReservesShown t x := by
  constructor
  · rintro ⟨hdistinct, t', ht', hdescribed⟩
    obtain rfl : t = t' := Option.some.inj (ht.symm.trans ht')
    exact ⟨Option.some.inj (hdata.symm.trans hdescribed), fun h => hdistinct t ht (hsecondary.mpr h)⟩
  · rintro ⟨hshown, hdistinct⟩
    refine ⟨fun t' ht' h => ?_, t, ht, ?_⟩
    · obtain rfl : t = t' := Option.some.inj (ht.symm.trans ht')
      exact hdistinct (hsecondary.mp h)
    · unfold Describes
      rw [hdata, hshown]

theorem answered_sound_iff {x : SentSession} (h : FromSent x s) :
    SessionSound (answered res s) ↔ ReservesShown (reserved true res x) x := by
  unfold answered reserved
  rw [h.arrangement]
  by_cases harr : x.item.serviceArrangementId = none
  · rw [if_pos harr, if_neg (by simp [harr])]
    exact sessionSound_iff h.therapist h.data (by rw [h.secondary])
  · rw [if_neg harr, if_pos ⟨rfl, harr⟩]
    obtain ⟨htaken, hdata, hsecondary⟩ := takeTherapist_therapistId res s h.therapist
    obtain ⟨ht, hdata', hsecondary'⟩ := takeSecondary_distinct_iff res htaken
    refine sessionSound_iff ht ?_ ?_
    · rw [hdata', hdata, h.data]
    · rw [hsecondary', hsecondary, h.secondary]

/-! ## The sessions in turn -/

/-- The answers of an availability service that looks at the sessions are some answers. -/
theorem planAnswered_of_planSessionItems {service : Ushauth} {req : SessionsRequest}
    {P : List Session} (h : planSessionItems service req = .ok P) :
    ∃ answers, planAnswered service.toRecords req answers = .ok P := by
  unfold planSessionItems at h
  obtain ⟨ctx, hctx, h⟩ := Fallible.bind_eq_ok.mp h
  obtain ⟨built, hbuilt, h⟩ := Fallible.bind_eq_ok.mp h
  unfold finishPlan at h
  obtain ⟨⟨⟩, hexclusive, h⟩ := Fallible.bind_eq_ok.mp h
  obtain ⟨sessions, hsessions, h⟩ := Fallible.bind_eq_ok.mp h
  simp only [decide_eq_true_eq] at hsessions
  refine ⟨sessions.map (availabilityOf service req), ?_⟩
  unfold planAnswered
  refine Fallible.bind_eq_ok.mpr ⟨ctx, hctx, Fallible.bind_eq_ok.mpr ⟨built, hbuilt, ?_⟩⟩
  exact Fallible.bind_eq_ok.mpr ⟨(), hexclusive, Fallible.bind_eq_ok.mpr ⟨sessions, hsessions, h⟩⟩

theorem fromSent_buildAt {ctx : List (Uuid × PackageInfo)} {loyal : Bool} {i : ℕ} {x : SentSession}
    (h : buildAt up ctx loyal i (x.resolved profiles) = .ok s) : FromSent x s := by
  obtain ⟨parts, hparts, hbuild⟩ := Fallible.bind_eq_ok.mp h
  obtain ⟨entries, -, -, rfl⟩ := sessionParts_spec.mp hparts
  unfold buildSession at hbuild
  dsimp only at hbuild
  split_ifs at hbuild
  cases hbuild
  refine ⟨rfl, rfl, ?_, rfl, rfl⟩
  show (therapistSnapshot profiles x.item.therapistId x.therapist.data x.therapist.name).lookup "id" =
    some (shownId x)
  rw [lookup_id_therapistSnapshot]
  rfl

theorem FromSent.numbered {x : SentSession} (h : FromSent x s) (i : ℕ) :
    FromSent x { s with position := i } := ⟨h.start, h.therapist, h.data, h.secondary, h.arrangement⟩

/-- The sorted sessions are the sent ones in turn. -/
theorem fromSent_sortSessions {built : List Session}
    (h : List.Forall₂ FromSent call.sent built) :
    List.Forall₂ FromSent (inTurn call.sent) (sortSessions built) := by
  have hsorted : List.Forall₂ FromSent (inTurn call.sent) (byStart built) :=
    Lists.forall₂_insertionSort h fun hx hy => by rw [hx.start, hy.start]
  unfold sortSessions
  rw [List.forall₂_map_right_iff]
  exact (Lists.forall₂_zipIdx_right.mpr hsorted).imp fun x y hxy => hxy.numbered y.2

/-- A plan, taken apart: the sent sessions in turn, and what the answers make of them. -/
theorem planCall_spec (h : planCall profiles up call = .ok plan) : ∃ sessions n,
    List.Forall₂ FromSent (inTurn call.sent) sessions ∧ Valid n sessions ∧
      SameWork sessions plan.sessions ∧ some plan.mirror = mirrorOf plan.sessions ∧
      ∀ i : ℕ, plan.sessions[i]? = sessions[i]?.map fun s =>
        if call.checkAvailability then answered ((call.answers[i]?).getD {}) s else s := by
  obtain ⟨P, hP, h⟩ := Fallible.bind_eq_ok.mp h
  have hplan : some plan.mirror = mirrorOf P ∧ plan.sessions = P := by
    cases hmirror : mirrorOf P with
    | none =>
      rw [hmirror] at h
      cases h
    | some mirror =>
      rw [hmirror] at h
      obtain rfl := Fallible.pure_eq_ok.mp h
      exact ⟨rfl, rfl⟩
  obtain ⟨hmirror, rfl⟩ := hplan
  obtain ⟨ctx, -, hP⟩ := Fallible.bind_eq_ok.mp hP
  obtain ⟨built, hbuilt, hP⟩ := Fallible.bind_eq_ok.mp hP
  obtain ⟨⟨⟩, -, hP⟩ := Fallible.bind_eq_ok.mp hP
  obtain ⟨sessions, hsessions, hP⟩ := Fallible.bind_eq_ok.mp hP
  have hfrom : List.Forall₂ FromSent call.sent built := by
    have hbuilds : BuiltFrom up ctx (call.request profiles).isLoyaltyBooking
        (call.sent.map (·.resolved profiles)) built := Fallible.forall₂_of_mapM_eq_ok hbuilt
    unfold BuiltFrom at hbuilds
    rw [List.zipIdx_map, List.forall₂_map_left_iff] at hbuilds
    exact Lists.forall₂_zipIdx_left.mp (hbuilds.imp fun x b hb => fromSent_buildAt hb)
  have hvalid := valid_of_validateSessions hsessions
  refine ⟨sessions, _, ?_, hvalid, ?_⟩
  · rw [validateSessions_eq_sorted hsessions]
    exact fromSent_sortSessions hfrom
  · split_ifs at hP with hday hcheck
    · have hcheck' : call.checkAvailability = true := hcheck
      refine ⟨(checkAll_work hP hvalid.therapist).1, hmirror, fun i => ?_⟩
      simp only [hcheck', if_true]
      exact checkAll_answered hP i
    · have hcheck' : ¬ call.checkAvailability = true := hcheck
      have heq : sessions = plan.sessions := Fallible.pure_eq_ok.mp hP
      refine ⟨by rw [heq]; rfl, hmirror, fun i => ?_⟩
      simp only [hcheck', heq]
      exact (Option.map_id' ).symm

/-- The therapists of a plan are as they should be exactly where each session keeps the therapist whose
data is sent, and this is not its second one. -/
theorem plan_sound_iff (h : planCall profiles up call = .ok plan) :
    PlanSound plan ↔ EachReservesShown call := by
  obtain ⟨sessions, n, hsent, hvalid, hwork, hmirror, hindex⟩ := planCall_spec h
  have hsound : ∀ x s (i : ℕ), FromSent x s →
      (SessionSound (if call.checkAvailability then answered ((call.answers[i]?).getD {}) s else s) ↔
        ReservesShown (reserved call.checkAvailability ((call.answers[i]?).getD {}) x) x) := by
    intro x s i hx
    by_cases hcheck : call.checkAvailability
    · rw [if_pos hcheck, hcheck]
      exact answered_sound_iff hx
    · have hkept : reserved call.checkAvailability ((call.answers[i]?).getD {}) x =
          x.item.therapistId := by
        unfold reserved
        rw [if_neg]
        simp [hcheck]
      rw [if_neg hcheck, hkept]
      exact sessionSound_iff hx.therapist hx.data (by rw [hx.secondary])
  have heach : (∀ s ∈ plan.sessions, SessionSound s) ↔ EachReservesShown call := by
    constructor
    · intro hall i x hx
      rcases Lists.getElem?_forall₂ hsent i with ⟨hnone, -⟩ | ⟨x', s, hx', hs, hfrom⟩
      · rw [hnone] at hx
        cases hx
      · obtain rfl : x' = x := Option.some.inj (hx'.symm.trans hx)
        refine (hsound x' s i hfrom).mp (hall _ (List.mem_of_getElem? (i := i) ?_))
        rw [hindex, hs]
        rfl
    · intro hshown s hs
      obtain ⟨i, hi⟩ := List.mem_iff_getElem?.mp hs
      rw [hindex] at hi
      obtain ⟨s₀, hs₀, rfl⟩ := Option.map_eq_some_iff.mp hi
      rcases Lists.getElem?_forall₂ hsent i with ⟨-, hnone⟩ | ⟨x, s', hx, hs', hfrom⟩
      · rw [hnone] at hs₀
        cases hs₀
      · obtain rfl : s' = s₀ := Option.some.inj (hs'.symm.trans hs₀)
        exact (hsound x s' i hfrom).mpr (hshown i x hx)
  rw [← heach]
  constructor
  · intro hplan s hs
    exact ⟨hplan.distinct s hs, hplan.described s hs⟩
  · intro hall
    refine ⟨fun s hs => (hall s hs).distinct, fun s hs => (hall s hs).described, ?_, hmirror⟩
    have hordered : plan.sessions.Pairwise fun s s' => s.appointmentEnd ≤ s'.appointmentStart := by
      have hwindows : plan.sessions.map (fun s => (s.appointmentStart, s.appointmentEnd)) =
          sessions.map fun s => (s.appointmentStart, s.appointmentEnd) := hwork.map _ fun _ => rfl
      rw [pairwise_ordered_iff, hwindows, ← pairwise_ordered_iff]
      exact hvalid.ordered
    exact hordered.imp fun hle t _ _ => hle

/-- A session for two therapists in a couple room, which the service answers for. -/
def coupleCall (chosen : Option Uuid) : PlanCall :=
  { sent := [
      { item :=
          { sessionId := 10
            therapistId := 5
            secondaryTherapistId := some 6
            serviceArrangementId := some 3
            arrangementType := some "couple_room"
            services := [{ serviceId := some 1 }]
            start := 32400000000 }
        therapist := { name := some "Mary" } }]
    day := 0
    answers := [{ therapistId := chosen }] }

/-- The plan of a call, or an empty one. -/
def planOf (call : PlanCall) : SessionPlan :=
  (planCall (fun _ => none) exampleUshauth.toRecords call).toOption.getD
    { sessions := []
      mirror := legacyMirror
        { sessionId := 0
          therapistId := none
          appointmentStart := 0
          appointmentEnd := 0 } []
      totals := bookingTotals []
      serviceEntries := [] }

theorem planOf_eq {call : PlanCall}
    (h : (planCall (fun _ => none) exampleUshauth.toRecords call).toOption.isSome) :
    planCall (fun _ => none) exampleUshauth.toRecords call = .ok (planOf call) := by
  unfold planOf
  cases hplan : planCall (fun _ => none) exampleUshauth.toRecords call with
  | error e =>
    rw [hplan] at h
    cases h
  | ok plan => rfl

/-- The service reserves the therapist that is asked for. -/
theorem plan_sound_example : PlanSound (planOf (coupleCall (some 5))) := by
  refine (plan_sound_iff (planOf_eq (by decide +kernel))).mpr ?_
  intro i s hs
  cases i with
  | zero =>
    cases hs
    exact ⟨by decide +kernel, by decide⟩
  | succ i => cases hs

/-- It reserves the second therapist as the first: both are the same, and the data is another's. -/
theorem second_reserved_first :
    planCall (fun _ => none) exampleUshauth.toRecords (coupleCall (some 6)) =
        .ok (planOf (coupleCall (some 6))) ∧
      (planOf (coupleCall (some 6))).sessions.map
          (fun s => (s.therapistId, s.secondaryTherapistId, s.therapistData.field? "id")) =
        [(some 6, some 6, some (.str (uuidStr 5)))] ∧
      ¬ PlanSound (planOf (coupleCall (some 6))) := by
  have htherapists : (planOf (coupleCall (some 6))).sessions.map
      (fun s => (s.therapistId, s.secondaryTherapistId, s.therapistData.field? "id")) =
      [(some 6, some 6, some (.str (uuidStr 5)))] := by decide +kernel
  refine ⟨planOf_eq (by decide +kernel), htherapists, ?_⟩
  intro hsound
  obtain ⟨s, hs⟩ : ∃ s, (planOf (coupleCall (some 6))).sessions = [s] := by
    apply List.length_eq_one_iff.mp
    have hlen := congrArg List.length htherapists
    rwa [List.length_map] at hlen
  have hmem : s ∈ (planOf (coupleCall (some 6))).sessions := by
    rw [hs]
    exact List.mem_cons_self
  rw [hs] at htherapists
  have hone := (List.cons.inj htherapists).1
  have ht : s.therapistId = some 6 := congrArg Prod.fst hone
  have hsec : s.secondaryTherapistId = some 6 := congrArg (fun x => x.2.1) hone
  exact hsound.distinct s hmem 6 ht hsec

end Booking
