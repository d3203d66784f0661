import UshBookNPay.Booking.SessionRuns
import UshBookNPay.Lib.Fallible
import UshBookNPay.Lib.Lists

/-!
# Valid sessions

What `validate_sessions` accepts: numbered sessions of one day, one after the other. Planned sessions
are valid, and each obeys the law of the durations.
-/

namespace Booking

variable {sessions l : List Session} {s : Session}

/-! ## What is accepted -/

/-- The sessions are at most `n`, complete, numbered, on one day and one after the other. -/
structure Valid (n : ℕ) (l : List Session) : Prop where
  nonempty : l ≠ []
  length : l.length ≤ n
  therapist : ∀ s ∈ l, s.therapistId ≠ none
  services : ∀ s ∈ l, s.services ≠ []
  window : ∀ s ∈ l, s.appointmentStart < s.appointmentEnd
  ordered : l.Pairwise fun s s' => s.appointmentEnd ≤ s'.appointmentStart
  day : ∀ s ∈ l, localDay s.appointmentStart = localDay ((l.map (·.appointmentStart)).headD 0) ∧
    localDay s.appointmentEnd = localDay ((l.map (·.appointmentStart)).headD 0)
  positions : l.map (·.position) = List.range l.length

theorem sessionError_eq_none {i : ℕ} : sessionError s i = none ↔
    s.therapistId ≠ none ∧ s.services ≠ [] ∧ s.appointmentStart < s.appointmentEnd := by
  unfold sessionError
  dsimp only
  split_ifs with ht hs hw
  · exact ⟨fun h => (by cases h), fun h => absurd ht h.1⟩
  · exact ⟨fun h => (by cases h), fun h => absurd hs h.2.1⟩
  · exact ⟨fun h => (by cases h), fun h => absurd hw (not_le.mpr h.2.2)⟩
  · exact ⟨fun _ => ⟨ht, hs, not_le.mp hw⟩, fun _ => rfl⟩

/-- The induction is on the sessions; `prevEnd` is the end of the one before. -/
theorem orderError_eq_none {day : ℤ} {prevEnd : Option Instant} {i : ℕ}
    (hwindow : ∀ s ∈ l, s.appointmentStart < s.appointmentEnd) :
    orderError day prevEnd i l = none ↔
      (∀ s ∈ l, localDay s.appointmentStart = day ∧ localDay s.appointmentEnd = day) ∧
      (∀ p ∈ prevEnd, ∀ s ∈ l, p ≤ s.appointmentStart) ∧
      l.Pairwise fun s s' => s.appointmentEnd ≤ s'.appointmentStart := by
  induction l generalizing prevEnd i with
  | nil => simp [orderError]
  | cons s rest ih =>
    have hs : s.appointmentStart < s.appointmentEnd := hwindow s List.mem_cons_self
    have hrest : ∀ s' ∈ rest, s'.appointmentStart < s'.appointmentEnd :=
      fun s' h => hwindow s' (List.mem_cons_of_mem _ h)
    unfold orderError
    split_ifs with hday hprev
    · constructor
      · intro h
        cases h
      · intro h
        obtain ⟨hstart, hend⟩ := h.1 s List.mem_cons_self
        exact absurd hday (by simp [hstart, hend])
    · constructor
      · intro h
        cases h
      · intro h
        cases prevEnd with
        | none => simp at hprev
        | some p =>
          have hlt : s.appointmentStart < p := by simpa using hprev
          exact absurd (h.2.1 p rfl s List.mem_cons_self) (not_le.mpr hlt)
    · rw [not_or, not_not, not_not] at hday
      rw [ih hrest]
      constructor
      · rintro ⟨hdays, hfollow, hordered⟩
        have hfollow' : ∀ s' ∈ rest, s.appointmentEnd ≤ s'.appointmentStart := hfollow _ rfl
        refine ⟨?_, ?_, List.pairwise_cons.mpr ⟨hfollow', hordered⟩⟩
        · intro s' hs'
          rcases List.mem_cons.mp hs' with rfl | hs'
          · exact hday
          · exact hdays s' hs'
        · intro p hp s' hs'
          have hps : p ≤ s.appointmentStart := by
            by_contra hlt
            apply hprev
            rw [Option.mem_def.mp hp]
            simpa using not_le.mp hlt
          rcases List.mem_cons.mp hs' with rfl | hs'
          · exact hps
          · calc p ≤ s.appointmentStart := hps
              _ ≤ s.appointmentEnd := le_of_lt hs
              _ ≤ s'.appointmentStart := hfollow' s' hs'
      · rintro ⟨hdays, hfollow, hordered⟩
        rw [List.pairwise_cons] at hordered
        refine ⟨fun s' hs' => hdays s' (List.mem_cons_of_mem _ hs'), ?_, hordered.2⟩
        intro p hp s' hs'
        cases hp
        exact hordered.1 s' hs'

/-! ## Sorting -/

theorem map_positions (l : List Session) :
    ((l.zipIdx.map fun (s, i) => { s with position := i : Session}).map (·.position)) =
      List.range l.length := by
  rw [List.map_map]
  have hsnd : ((fun s : Session => s.position) ∘ fun (x : Session × ℕ) =>
      ({ x.1 with position := x.2 } : Session)) = Prod.snd := rfl
  rw [hsnd, List.zipIdx_map_snd, List.range_eq_range']

/-- Numbering does not concern the other columns. -/
theorem map_numbered {β : Type} (f : Session → β)
    (hf : ∀ (s : Session) (i : ℕ), f { s with position := i } = f s) (l : List Session) :
    (l.zipIdx.map fun (s, i) => { s with position := i : Session}).map f = l.map f := by
  rw [List.map_map]
  exact Lists.map_zipIdx hf l 0

theorem mem_numbered {l : List Session} (h : s ∈ l.zipIdx.map fun (s, i) =>
    { s with position := i : Session}) : ∃ s₀ ∈ l, ∃ i, s = { s₀ with position := i } := by
  obtain ⟨⟨s₀, i⟩, hmem, rfl⟩ := List.mem_map.mp h
  exact ⟨s₀, List.fst_mem_of_mem_zipIdx hmem, i, rfl⟩

/-- A sorted and numbered list stays as it is. -/
theorem sortSessions_eq_self (hordered : l.Pairwise fun s s' =>
      s.appointmentStart ≤ s'.appointmentStart)
    (hpositions : l.map (·.position) = List.range l.length) : sortSessions l = l := by
  unfold sortSessions
  rw [hordered.insertionSort_eq]
  have hself : ∀ (s : Session) (i : ℕ), s.position = i → { s with position := i } = s := by
    rintro s _ rfl
    rfl
  refine List.ext_getElem (by simp) fun i h₁ h₂ => ?_
  have hpos : l[i].position = i := by
    have hget : (l.map (·.position))[i]? = some i := by
      rw [hpositions, List.getElem?_range h₂]
    rw [List.getElem?_map, List.getElem?_eq_getElem h₂] at hget
    exact Option.some.inj hget
  simp only [List.getElem_map, List.getElem_zipIdx, Nat.zero_add]
  exact hself _ _ hpos

/-- What `validate_sessions` accepts: complete sessions, which are in order once they are sorted. -/
theorem validateSessions_accepted {n : ℕ} (h : validateSessions sessions n = .ok l) :
    l = sortSessions sessions ∧ sessions ≠ [] ∧ sessions.length ≤ n ∧
      (∀ s ∈ sessions, s.therapistId ≠ none ∧ s.services ≠ [] ∧
        s.appointmentStart < s.appointmentEnd) ∧
      orderError (localDay (((sortSessions sessions).map (·.appointmentStart)).headD 0)) none 0
        (sortSessions sessions) = none := by
  unfold validateSessions at h
  split_ifs at h with hempty hlength
  cases herror : sessions.zipIdx.findSome? fun (s, i) => sessionError s i with
  | some e =>
    rw [herror] at h
    cases h
  | none =>
    rw [herror] at h
    dsimp only at h
    cases horder : orderError
        (localDay (((sortSessions sessions).map (·.appointmentStart)).headD 0)) none 0
        (sortSessions sessions) with
    | some e =>
      rw [horder] at h
      cases h
    | none =>
      rw [horder] at h
      cases h
      refine ⟨rfl, hempty, not_lt.mp hlength, fun s hs => ?_, rfl⟩
      obtain ⟨i, hi, hget⟩ := List.mem_iff_getElem.mp hs
      have hmem : (s, i) ∈ sessions.zipIdx := by
        rw [List.mem_zipIdx_iff_getElem?, ← hget]
        exact List.getElem?_eq_getElem hi
      exact sessionError_eq_none.mp (List.findSome?_eq_none_iff.mp herror _ hmem)

theorem validateSessions_eq_sorted {n : ℕ} (h : validateSessions sessions n = .ok l) :
    l = sortSessions sessions := (validateSessions_accepted h).1

/-- What `validate_sessions` returns is valid. -/
theorem valid_of_validateSessions {n : ℕ} (h : validateSessions sessions n = .ok l) : Valid n l := by
  obtain ⟨rfl, hempty, hlength, heach, horder⟩ := validateSessions_accepted h
  have hsorted : ∀ s ∈ sortSessions sessions, s.therapistId ≠ none ∧ s.services ≠ [] ∧
      s.appointmentStart < s.appointmentEnd := by
    intro s hs
    obtain ⟨s₀, hmem, i, rfl⟩ := mem_numbered hs
    exact heach s₀ ((List.mem_insertionSort _).mp hmem)
  have hlen : (sortSessions sessions).length = sessions.length := by
    simp [sortSessions, List.length_insertionSort]
  obtain ⟨hday, -, hordered⟩ := (orderError_eq_none fun s hs => (hsorted s hs).2.2).mp horder
  refine ⟨?_, ?_, fun s hs => (hsorted s hs).1, fun s hs => (hsorted s hs).2.1,
    fun s hs => (hsorted s hs).2.2, hordered, hday, ?_⟩
  · intro hnil
    rw [hnil] at hlen
    exact hempty (List.length_eq_zero_iff.mp hlen.symm)
  · rw [hlen]
    exact hlength
  · rw [hlen]
    unfold sortSessions
    rw [map_positions, List.length_insertionSort]

/-- Valid sessions are returned as they are. -/
theorem validateSessions_of_valid {n : ℕ} (h : Valid n l) : validateSessions l n = .ok l := by
  have hstarts : l.Pairwise fun s s' => s.appointmentStart ≤ s'.appointmentStart := by
    refine h.ordered.imp_of_mem ?_
    intro s s' hs _ hle
    exact (le_of_lt (h.window s hs)).trans hle
  have herror : (l.zipIdx.findSome? fun (s, i) => sessionError s i) = none := by
    rw [List.findSome?_eq_none_iff]
    rintro ⟨s, i⟩ hmem
    have hs : s ∈ l := List.fst_mem_of_mem_zipIdx hmem
    exact sessionError_eq_none.mpr ⟨h.therapist s hs, h.services s hs, h.window s hs⟩
  unfold validateSessions
  rw [if_neg h.nonempty, if_neg (not_lt.mpr h.length), herror]
  dsimp only
  rw [sortSessions_eq_self hstarts h.positions]
  rw [(orderError_eq_none h.window).mpr ⟨h.day, (by rintro p ⟨⟩), h.ordered⟩]

theorem validateSessions_eq_self_iff {n : ℕ} : validateSessions l n = .ok l ↔ Valid n l :=
  ⟨valid_of_validateSessions, validateSessions_of_valid⟩

/-! ## Therapists aside -/

/-- The session without its therapists. -/
def withoutTherapists (s : Session) : Session :=
  { s with
    therapistId := none
    therapistData := .null
    secondaryTherapistId := none
    secondaryTherapistData := none }

/-- The sessions differ in their therapists only. -/
def SameWork (l l' : List Session) : Prop := l'.map withoutTherapists = l.map withoutTherapists

variable {l' : List Session}

/-- A column that does not concern the therapists is the same. -/
theorem SameWork.map {β : Type} (h : SameWork l l') (f : Session → β)
    (hf : ∀ s, f (withoutTherapists s) = f s) : l'.map f = l.map f := by
  have hcomp : ∀ l : List Session, l.map f = (l.map withoutTherapists).map f := by
    intro l
    rw [List.map_map]
    exact List.map_congr_left fun s _ => (hf s).symm
  rw [hcomp l', hcomp l]
  exact congrArg (List.map f) h

theorem SameWork.mem (h : SameWork l l') (hs : s ∈ l') :
    ∃ s₀ ∈ l, withoutTherapists s₀ = withoutTherapists s := by
  have hmem : withoutTherapists s ∈ l'.map withoutTherapists := List.mem_map_of_mem hs
  rw [h] at hmem
  exact List.mem_map.mp hmem

theorem pairwise_ordered_iff (l : List Session) :
    (l.Pairwise fun s s' => s.appointmentEnd ≤ s'.appointmentStart) ↔
      (l.map fun s => (s.appointmentStart, s.appointmentEnd)).Pairwise fun w w' => w.2 ≤ w'.1 := by
  rw [List.pairwise_map]

/-- Other therapists leave valid sessions valid. -/
theorem Valid.sameWork {n : ℕ} (hv : Valid n l) (h : SameWork l l')
    (ht : ∀ s ∈ l', s.therapistId ≠ none) : Valid n l' := by
  have hlen : l'.length = l.length := by
    have := congrArg List.length h
    simpa using this
  have hstarts : l'.map (·.appointmentStart) = l.map (·.appointmentStart) := h.map _ fun _ => rfl
  refine ⟨?_, hlen ▸ hv.length, ht, ?_, ?_, ?_, ?_, ?_⟩
  · intro hnil
    apply hv.nonempty
    rw [hnil] at hlen
    exact List.length_eq_zero_iff.mp hlen.symm
  · intro s hs
    obtain ⟨s₀, hs₀, heq⟩ := h.mem hs
    have : s₀.services = s.services := congrArg (·.services) heq
    rw [← this]
    exact hv.services s₀ hs₀
  · intro s hs
    obtain ⟨s₀, hs₀, heq⟩ := h.mem hs
    have hstart : s₀.appointmentStart = s.appointmentStart := congrArg (·.appointmentStart) heq
    have hend : s₀.appointmentEnd = s.appointmentEnd := congrArg (·.appointmentEnd) heq
    rw [← hstart, ← hend]
    exact hv.window s₀ hs₀
  · rw [pairwise_ordered_iff, h.map _ fun _ => rfl, ← pairwise_ordered_iff]
    exact hv.ordered
  · intro s hs
    obtain ⟨s₀, hs₀, heq⟩ := h.mem hs
    have hstart : s₀.appointmentStart = s.appointmentStart := congrArg (·.appointmentStart) heq
    have hend : s₀.appointmentEnd = s.appointmentEnd := congrArg (·.appointmentEnd) heq
    rw [← hstart, ← hend, hstarts]
    exact hv.day s₀ hs₀
  · rw [h.map _ fun _ => rfl, hlen]
    exact hv.positions

/-- So do they leave the law. -/
theorem SessionLaw.sameWork {s' : Session} (hlaw : SessionLaw s)
    (h : withoutTherapists s' = withoutTherapists s) : SessionLaw s' := by
  have hstart : s'.appointmentStart = s.appointmentStart := congrArg (·.appointmentStart) h
  have hend : s'.appointmentEnd = s.appointmentEnd := congrArg (·.appointmentEnd) h
  have htotal : s'.totalSessionDuration = s.totalSessionDuration :=
    congrArg (·.totalSessionDuration) h
  have hservices : s'.servicesDuration = s.servicesDuration := congrArg (·.servicesDuration) h
  have haddons : s'.addonsDuration = s.addonsDuration := congrArg (·.addonsDuration) h
  have hextra : s'.extraMinutes = s.extraMinutes := congrArg (·.extraMinutes) h
  constructor
  · rw [hstart, hend, htotal]
    exact hlaw.window
  · rw [htotal, hservices, haddons, hextra]
    exact hlaw.total

/-! ## Planning -/

theorem sessionLaw_buildSession {i : ℕ} {p : SessionParts} (h : buildSession i p = .ok s) :
    SessionLaw s := by
  unfold buildSession at h
  dsimp only at h
  split_ifs at h
  cases h
  constructor
  · show p.start + minutes _ - p.start = minutes _
    rw [add_sub_cancel_left]
  · rfl

theorem sessionLaw_sorted (hlaw : ∀ s ∈ l, SessionLaw s) : ∀ s ∈ sortSessions l, SessionLaw s := by
  intro s hs
  obtain ⟨s₀, hmem, i, rfl⟩ := mem_numbered hs
  obtain ⟨hwindow, htotal⟩ := hlaw s₀ ((List.mem_insertionSort _).mp hmem)
  exact ⟨hwindow, htotal⟩

theorem takeTherapist_work (res : AvailabilityAnswer) (s : Session) :
    withoutTherapists (takeTherapist res s) = withoutTherapists s ∧
      (s.therapistId ≠ none → (takeTherapist res s).therapistId ≠ none) := by
  unfold takeTherapist
  cases res.therapistId with
  | none => exact ⟨rfl, fun h => h⟩
  | some chosen =>
    dsimp only
    split_ifs
    · exact ⟨rfl, fun h => h⟩
    · exact ⟨rfl, fun _ => Option.some_ne_none _⟩

theorem takeSecondary_work (res : AvailabilityAnswer) (s : Session) :
    withoutTherapists (takeSecondary res s) = withoutTherapists s ∧
      (takeSecondary res s).therapistId = s.therapistId := by
  unfold takeSecondary
  split_ifs
  · dsimp only
    cases (uniqueIds (res.therapistId :: res.therapistIds.map some ++
        [res.secondaryTherapistId]))[1]? with
    | none => exact ⟨rfl, rfl⟩
    | some sec =>
      dsimp only
      split_ifs
      · exact ⟨rfl, rfl⟩
      · exact ⟨rfl, rfl⟩
  · exact ⟨rfl, rfl⟩

theorem checkSessionAvailability_work {edited : Bool} {res : AvailabilityAnswer} {s' : Session}
    (h : checkSessionAvailability edited res s = .ok s') :
    withoutTherapists s' = withoutTherapists s ∧ (s.therapistId ≠ none → s'.therapistId ≠ none) := by
  unfold checkSessionAvailability at h
  dsimp only at h
  split_ifs at h
  · cases h
    exact ⟨rfl, fun h => h⟩
  · cases h
    obtain ⟨htake, hkeep⟩ := takeTherapist_work res s
    obtain ⟨hsec, hid⟩ := takeSecondary_work res (takeTherapist res s)
    refine ⟨hsec.trans htake, fun ht => ?_⟩
    rw [hid]
    exact hkeep ht

theorem checkAll_work {edited : Bool} {answers : List AvailabilityAnswer}
    (h : checkAll edited answers l = .ok l') (ht : ∀ s ∈ l, s.therapistId ≠ none) :
    SameWork l l' ∧ ∀ s ∈ l', s.therapistId ≠ none := by
  induction l generalizing answers l' with
  | nil =>
    cases h
    exact ⟨rfl, by simp⟩
  | cons s rest ih =>
    unfold checkAll at h
    obtain ⟨checked, hchecked, h⟩ := Fallible.bind_eq_ok.mp h
    obtain ⟨others, hothers, h⟩ := Fallible.bind_eq_ok.mp h
    rw [← Fallible.pure_eq_ok.mp h]
    obtain ⟨hwork, hkeep⟩ := checkSessionAvailability_work hchecked
    obtain ⟨hrest, hkeeps⟩ := ih hothers fun s' hs' => ht s' (List.mem_cons_of_mem _ hs')
    constructor
    · unfold SameWork at hrest ⊢
      rw [List.map_cons, List.map_cons, hwork, hrest]
    · intro s' hs'
      rcases List.mem_cons.mp hs' with rfl | hs'
      · exact hkeep (ht s List.mem_cons_self)
      · exact hkeeps s' hs'

/-- Planned sessions: valid, and each obeys the law. -/
structure Planned (l : List Session) : Prop where
  valid : Valid MAX_PACKAGE_SESSIONS_PER_BOOKING l
  law : ∀ s ∈ l, SessionLaw s

theorem Valid.mono {n m : ℕ} (h : Valid n l) (hnm : n ≤ m) : Valid m l :=
  { h with length := h.length.trans hnm }

theorem planned_of_planSessions {req : PlanRequest} {edited : Bool}
    (h : planSessions req edited = .ok l) : Planned l := by
  unfold planSessions at h
  obtain ⟨built, hbuilt, h⟩ := Fallible.bind_eq_ok.mp h
  obtain ⟨sorted, hsorted, h⟩ := Fallible.bind_eq_ok.mp h
  have hlaw : ∀ s ∈ sorted, SessionLaw s := by
    rw [validateSessions_eq_sorted hsorted]
    refine sessionLaw_sorted fun s hs => ?_
    obtain ⟨x, -, hx⟩ := Fallible.mem_of_mapM_eq_ok hbuilt hs
    exact sessionLaw_buildSession hx
  have hvalid : Valid MAX_PACKAGE_SESSIONS_PER_BOOKING sorted := by
    refine (valid_of_validateSessions hsorted).mono ?_
    split_ifs <;> decide
  split_ifs at h with hday hcheck
  · obtain ⟨hwork, hkeep⟩ := checkAll_work h hvalid.therapist
    refine ⟨hvalid.sameWork hwork hkeep, fun s hs => ?_⟩
    obtain ⟨s₀, hs₀, heq⟩ := hwork.mem hs
    exact (hlaw s₀ hs₀).sameWork heq.symm
  · rw [← Fallible.pure_eq_ok.mp h]
    exact ⟨hvalid, hlaw⟩

/-! ## Sessions of a call -/

/-- A new booking has no sessions or planned ones. -/
theorem createArgs_cases {plan : Option PlanRequest} {args full : CreateArgs}
    (h : createArgs plan args = .ok full) : full.sessions = [] ∨
      ∃ first rest, Planned (first :: rest) ∧ full = plannedArgs (first :: rest) args := by
  cases plan with
  | none =>
    cases h
    exact .inl rfl
  | some req =>
    obtain ⟨l, hl, rfl⟩ := Fallible.map_eq_ok.mp h
    have hplanned := planned_of_planSessions hl
    cases l with
    | nil => exact absurd rfl hplanned.valid.nonempty
    | cons first rest => exact .inr ⟨first, rest, hplanned, rfl⟩

/-- An update brings no sessions or planned ones. -/
theorem updateArgs_cases {plan : Option PlanRequest} {args full : UpdateArgs}
    (h : updateArgs plan args = .ok full) : full.sessions = none ∨
      ∃ first rest, Planned (first :: rest) ∧ full.sessions = some (first :: rest) := by
  cases plan with
  | none =>
    cases h
    exact .inl rfl
  | some req =>
    obtain ⟨l, hl, rfl⟩ := Fallible.map_eq_ok.mp h
    have hplanned := planned_of_planSessions hl
    cases l with
    | nil => exact absurd rfl hplanned.valid.nonempty
    | cons first rest => exact .inr ⟨first, rest, hplanned, rfl⟩

end Booking
