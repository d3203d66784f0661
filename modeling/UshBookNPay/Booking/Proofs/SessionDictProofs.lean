import UshBookNPay.Booking.SessionDicts
import UshBookNPay.Lib.Fallible

/-!
# What `validate_sessions` accepts, exactly

The sessions are read from their dicts by the checks, by the sort and by the pass over the neighbours.
All three see the same windows, since only the positions are written.
-/

namespace Booking.SessionDicts

/-! ## Positions -/

theorem lookup_cons_of_ne (kv : String × Value) (s : SessionDict) {key : String}
    (h : key ≠ kv.1) : List.lookup key (kv :: s) = s.lookup key := by
  obtain ⟨k, value⟩ := kv
  have hne : (key == k) = false := by simpa using h
  simp only [List.lookup_cons, hne]

theorem lookup_setPosition (s : SessionDict) (i : ℕ) :
    (setPosition s i).lookup "position" = some (.json (.num (toString i))) := by
  unfold setPosition
  dsimp only
  split_ifs with hany
  · induction s with
    | nil => simp at hany
    | cons kv s ih =>
      by_cases hkey : kv.1 = "position"
      · simp [hkey]
      · have hrest : s.any (·.1 = "position") := by simpa [hkey] using hany
        rw [List.map_cons, if_neg hkey, lookup_cons_of_ne kv _ fun h => hkey h.symm]
        exact ih hrest
  · induction s with
    | nil => rfl
    | cons kv s ih =>
      have hkey : kv.1 ≠ "position" := by
        intro h
        simp [h] at hany
      have hrest : ¬ s.any (·.1 = "position") := by
        intro h
        simp [h] at hany
      rw [List.cons_append, lookup_cons_of_ne kv _ fun h => hkey h.symm]
      exact ih hrest

theorem lookup_setPosition_of_ne (s : SessionDict) (i : ℕ) {key : String} (h : key ≠ "position") :
    (setPosition s i).lookup key = s.lookup key := by
  unfold setPosition
  dsimp only
  split_ifs with hany
  · clear hany
    induction s with
    | nil => rfl
    | cons kv s ih =>
      by_cases hkey : kv.1 = "position"
      · have hne : key ≠ kv.1 := by simpa [hkey] using h
        rw [List.map_cons, if_pos hkey, lookup_cons_of_ne kv s hne, lookup_cons_of_ne (kv.1, Value.json _) _ hne]
        exact ih
      · obtain ⟨k, value⟩ := kv
        rw [List.map_cons, if_neg hkey, List.lookup_cons, List.lookup_cons, ih]
  · clear hany
    induction s with
    | nil => exact lookup_cons_of_ne ("position", _) [] h
    | cons kv s ih =>
      obtain ⟨k, value⟩ := kv
      rw [List.cons_append, List.lookup_cons, List.lookup_cons, ih]

section Validating

variable {iso : String → Option DateTime} {sessions l : List SessionDict} {s : SessionDict}
  {w w' : HalfOpen Instant}

theorem sessionWindow_setPosition (s : SessionDict) (i : ℕ) :
    sessionWindow iso (setPosition s i) = sessionWindow iso s := by
  unfold sessionWindow
  rw [lookup_setPosition_of_ne s i (by decide), lookup_setPosition_of_ne s i (by decide)]

theorem hasWindow_setPosition {i : ℕ} : HasWindow iso (setPosition s i) w ↔ HasWindow iso s w := by
  unfold HasWindow
  rw [sessionWindow_setPosition]

theorem HasWindow.unique (h : HasWindow iso s w) (h' : HasWindow iso s w') : w = w' := by
  have heq := h.symm.trans h'
  cases w
  cases w'
  cases heq
  rfl

/-- The sessions with their positions. -/
def numbered (l : List SessionDict) : List SessionDict := l.zipIdx.map fun (s, i) => setPosition s i

theorem mem_numbered (h : s ∈ numbered l) : ∃ s₀ ∈ l, ∃ i, s = setPosition s₀ i := by
  obtain ⟨⟨s₀, i⟩, hmem, rfl⟩ := List.mem_map.mp h
  exact ⟨s₀, List.fst_mem_of_mem_zipIdx hmem, i, rfl⟩

theorem exists_mem_numbered (h : s ∈ l) : ∃ i, setPosition s i ∈ numbered l := by
  obtain ⟨i, hi, hget⟩ := List.mem_iff_getElem.mp h
  refine ⟨i, List.mem_map.mpr ⟨(s, i), ?_, rfl⟩⟩
  rw [List.mem_zipIdx_iff_getElem?, ← hget]
  exact List.getElem?_eq_getElem hi

/-- A relation that does not look at the positions. -/
theorem pairwise_numbered {R : SessionDict → SessionDict → Prop}
    (hR : ∀ s s' i j, R (setPosition s i) (setPosition s' j) ↔ R s s') :
    (numbered l).Pairwise R ↔ l.Pairwise R := by
  unfold numbered
  rw [List.pairwise_map]
  have hfst : l.Pairwise R ↔ (l.zipIdx.map Prod.fst).Pairwise R := by rw [List.zipIdx_map_fst]
  rw [hfst, List.pairwise_map]
  exact ⟨fun h => h.imp fun h => (hR _ _ _ _).mp h, fun h => h.imp fun h => (hR _ _ _ _).mpr h⟩

theorem positions_numbered (l : List SessionDict) :
    (numbered l).map (·.lookup "position") =
      (List.range l.length).map fun i => some (.json (.num (toString i))) := by
  unfold numbered
  rw [List.map_map]
  have hsnd : ((·.lookup "position") ∘ fun (x : SessionDict × ℕ) => setPosition x.1 x.2) =
      (fun i => some (Value.json (.num (toString i)))) ∘ Prod.snd :=
    funext fun x => lookup_setPosition x.1 x.2
  rw [hsnd, ← List.map_map, List.zipIdx_map_snd, List.range_eq_range']

/-! ## The checks of each session -/

/-- A session has a therapist, services and a window that is not empty. -/
def Complete (iso : String → Option DateTime) (s : SessionDict) : Prop :=
  isSet s "therapist_id" ∧ isSet s "services" ∧ ∃ w, HasWindow iso s w ∧ w.start < w.stop

theorem checkSessions_eq_ok {i : ℕ} : checkSessions iso i l = .ok () ↔ ∀ s ∈ l, Complete iso s := by
  induction l generalizing i with
  | nil => simp [checkSessions]
  | cons s rest ih =>
    unfold checkSessions
    rw [List.forall_mem_cons, ← ih (i := i + 1)]
    unfold Complete
    dsimp only
    by_cases htherapist : isSet s "therapist_id"
    · by_cases hservices : isSet s "services"
      · simp only [htherapist, hservices, Bool.not_true, Bool.false_eq_true, if_false, true_and]
        cases hw : sessionWindow iso s with
        | error e => simp [HasWindow, hw]
        | ok window =>
          obtain ⟨start, stop⟩ := window
          cases start with
          | none => simp [HasWindow, hw]
          | some start =>
            cases stop with
            | none => simp [HasWindow, hw]
            | some stop =>
              dsimp only
              by_cases hle : stop ≤ start
              · rw [if_pos hle]
                constructor
                · intro h
                  cases h
                · rintro ⟨⟨w, hwindow, hlt⟩, -⟩
                  have hread : HasWindow iso s ⟨start, stop⟩ := hw
                  obtain rfl := hwindow.unique hread
                  exact absurd hlt (not_lt.mpr hle)
              · rw [if_neg hle]
                exact ⟨fun h => ⟨⟨⟨start, stop⟩, hw, not_le.mp hle⟩, h⟩, fun h => h.2⟩
      · simp [htherapist, hservices]
    · simp [htherapist]

/-! ## Sorting -/

/-- The one begins no later than the other. -/
def StartsBefore (iso : String → Option DateTime) (s s' : SessionDict) : Prop :=
  ∀ w w', HasWindow iso s w → HasWindow iso s' w' → w.start ≤ w'.start

/-- Where every session has a window, each is sorted by its start. -/
theorem sortKeys (h : ∀ s ∈ sessions, ∃ w, HasWindow iso s w) :
    ∃ keyed, (sessions.mapM fun s => (fun key => (key, s)) <$> sortKey iso s) = .ok keyed ∧
      keyed.map Prod.snd = sessions ∧ ∀ x ∈ keyed, ∀ w, HasWindow iso x.2 w → x.1 = w.start := by
  induction sessions with
  | nil => exact ⟨[], rfl, rfl, by simp⟩
  | cons s rest ih =>
    obtain ⟨w, hw⟩ := h s List.mem_cons_self
    obtain ⟨keyed, hkeyed, hsnd, hkeys⟩ := ih fun s' hs' => h s' (List.mem_cons_of_mem _ hs')
    have hkey : sortKey iso s = .ok w.start := by
      unfold sortKey
      rw [hw]
      rfl
    refine ⟨(w.start, s) :: keyed, ?_, ?_, ?_⟩
    · rw [List.mapM_cons, hkey, hkeyed]
      rfl
    · rw [List.map_cons, hsnd]
    · intro x hx w' hw'
      rcases List.mem_cons.mp hx with rfl | hx
      · rw [hw.unique hw']
      · exact hkeys x hx w' hw'

theorem sortSessions_eq_ok (h : ∀ s ∈ sessions, ∃ w, HasWindow iso s w) :
    ∃ ordered, ordered.Perm sessions ∧ ordered.Pairwise (StartsBefore iso) ∧
      sortSessions iso sessions = .ok (numbered ordered) := by
  obtain ⟨keyed, hkeyed, hsnd, hkeys⟩ := sortKeys h
  have hperm := List.perm_insertionSort (fun a b : Instant × SessionDict => a.1 ≤ b.1) keyed
  have htotal : Std.Total fun a b : Instant × SessionDict => a.1 ≤ b.1 :=
    ⟨fun a b => le_total a.1 b.1⟩
  have htrans : IsTrans (Instant × SessionDict) fun a b => a.1 ≤ b.1 := ⟨fun _ _ _ => le_trans⟩
  have hsorted := List.pairwise_insertionSort (fun a b : Instant × SessionDict => a.1 ≤ b.1) keyed
  refine ⟨_, hsnd ▸ hperm.map Prod.snd, ?_, ?_⟩
  · rw [List.pairwise_map]
    refine hsorted.imp_of_mem fun {x y} hx hy hle w w' hw hw' => ?_
    rw [← hkeys x (hperm.mem_iff.mp hx) w hw, ← hkeys y (hperm.mem_iff.mp hy) w' hw']
    exact hle
  · unfold sortSessions
    rw [hkeyed]
    rfl

/-! ## The pass over the neighbours -/

/-- The one has ended when the other begins. -/
def EndsBefore (iso : String → Option DateTime) (s s' : SessionDict) : Prop :=
  ∀ w w', HasWindow iso s w → HasWindow iso s' w' → w.stop ≤ w'.start

/-- The session begins and ends on the day. -/
def OnDay (iso : String → Option DateTime) (day : ℤ) (s : SessionDict) : Prop :=
  ∀ w, HasWindow iso s w → localDay w.start = day ∧ localDay w.stop = day

/-- The induction is on the sessions; `prevEnd` is the end of the one before. -/
theorem checkOrder_eq_ok {day : ℤ} {prevEnd : Option Instant} {i : ℕ}
    (hwindow : ∀ s ∈ l, ∃ w, HasWindow iso s w ∧ w.start < w.stop) :
    checkOrder iso day prevEnd i l = .ok () ↔
      (∀ s ∈ l, OnDay iso day s) ∧
      (∀ p ∈ prevEnd, ∀ s ∈ l, ∀ w, HasWindow iso s w → p ≤ w.start) ∧
      l.Pairwise (EndsBefore iso) := by
  induction l generalizing prevEnd i with
  | nil => simp [checkOrder]
  | cons s rest ih =>
    obtain ⟨w, hw, hlt⟩ := hwindow s List.mem_cons_self
    have hday : OnDay iso day s ↔ localDay w.start = day ∧ localDay w.stop = day := by
      refine ⟨fun h => h w hw, fun h w' hw' => ?_⟩
      rw [← hw.unique hw']
      exact h
    unfold checkOrder
    rw [hw]
    dsimp only
    split_ifs with hother hprev
    · constructor
      · intro h
        cases h
      · intro h
        obtain ⟨hstart, hstop⟩ := hday.mp (h.1 s List.mem_cons_self)
        exact absurd hother (by simp [hstart, hstop])
    · constructor
      · intro h
        cases h
      · intro h
        cases prevEnd with
        | none => simp at hprev
        | some p =>
          have hbefore : w.start < p := by simpa using hprev
          exact absurd (h.2.1 p rfl s List.mem_cons_self w hw) (not_le.mpr hbefore)
    · rw [not_or, not_not, not_not] at hother
      rw [ih fun s' hs' => hwindow s' (List.mem_cons_of_mem _ hs'), List.pairwise_cons]
      constructor
      · rintro ⟨hdays, hfollow, hordered⟩
        refine ⟨?_, ?_, ?_, hordered⟩
        · exact List.forall_mem_cons.mpr ⟨hday.mpr hother, hdays⟩
        · intro p hp
          have hps : p ≤ w.start := by
            by_contra hbefore
            apply hprev
            rw [Option.mem_def.mp hp]
            simpa using not_le.mp hbefore
          refine List.forall_mem_cons.mpr ⟨?_, ?_⟩
          · intro w' hw'
            rw [← hw.unique hw']
            exact hps
          · intro s' hs' w' hw'
            calc p ≤ w.start := hps
              _ ≤ w.stop := le_of_lt hlt
              _ ≤ w'.start := hfollow _ rfl s' hs' w' hw'
        · intro s' hs' w₁ w' hw₁ hw'
          rw [← hw.unique hw₁]
          exact hfollow _ rfl s' hs' w' hw'
      · rintro ⟨hdays, -, hfirst, hordered⟩
        refine ⟨fun s' hs' => hdays s' (List.mem_cons_of_mem _ hs'), ?_, hordered⟩
        intro p hp s' hs' w' hw'
        cases hp
        exact hfirst s' hs' w w' hw hw'

/-! ## Acceptance -/

/-- Two sessions have no time in common. -/
def Apart (iso : String → Option DateTime) (s s' : SessionDict) : Prop :=
  ∀ w w', HasWindow iso s w → HasWindow iso s' w' →
    ∀ t ∈ Intervals.points w, t ∉ Intervals.points w'

/-- Of sorted sessions, neighbours are enough: none overlaps another exactly if each has ended when a later
one begins. -/
theorem endsBefore_iff_apart (hwindow : ∀ s ∈ l, ∃ w, HasWindow iso s w ∧ w.start < w.stop)
    (hsorted : l.Pairwise (StartsBefore iso)) :
    l.Pairwise (EndsBefore iso) ↔ l.Pairwise (Apart iso) := by
  have hiff : l.Pairwise fun s s' => EndsBefore iso s s' ↔ Apart iso s s' := by
    refine hsorted.imp_of_mem fun {s s'} hs hs' hle => ?_
    have hpair : ∀ w w', HasWindow iso s w → HasWindow iso s' w' →
        (w.stop ≤ w'.start ↔ ∀ t ∈ Intervals.points w, t ∉ Intervals.points w') := by
      intro w w' hw hw'
      obtain ⟨w₁, hw₁, hlt⟩ := hwindow s' hs'
      rw [hw₁.unique hw'] at hlt
      exact Intervals.stop_le_start_iff hlt (hle w w' hw hw')
    exact ⟨fun h w w' hw hw' => (hpair w w' hw hw').mp (h w w' hw hw'),
      fun h w w' hw hw' => (hpair w w' hw hw').mpr (h w w' hw hw')⟩
  constructor
  · intro h
    exact (h.and hiff).imp fun ⟨hends, heq⟩ => heq.mp hends
  · intro h
    exact (h.and hiff).imp fun ⟨hapart, heq⟩ => heq.mpr hapart

theorem apart_symm {s s' : SessionDict} (h : Apart iso s s') : Apart iso s' s :=
  fun w w' hw hw' t ht ht' => h w' w hw' hw t ht' ht

/-- What the two passes say of the sorted sessions, of the sessions as they are given. -/
theorem acceptable_iff {maxSessions : ℤ} {ordered : List SessionDict} (hperm : ordered.Perm sessions)
    (hsorted : ordered.Pairwise (StartsBefore iso)) :
    Acceptable iso sessions maxSessions ↔ sessions ≠ [] ∧ sessions.length ≤ maxSessions ∧
      (∀ s ∈ sessions, Complete iso s) ∧ (∃ day, ∀ s ∈ ordered, OnDay iso day s) ∧
      ordered.Pairwise (EndsBefore iso) := by
  have hapart : (∀ s ∈ sessions, Complete iso s) →
      (ordered.Pairwise (EndsBefore iso) ↔ sessions.Pairwise (Apart iso)) := by
    intro hcomplete
    rw [endsBefore_iff_apart (fun s hs => (hcomplete s (hperm.mem_iff.mp hs)).2.2) hsorted]
    exact hperm.pairwise_iff fun h => apart_symm h
  constructor
  · intro h
    have hcomplete : ∀ s ∈ sessions, Complete iso s :=
      fun s hs => ⟨h.therapist s hs, h.services s hs, h.window s hs⟩
    obtain ⟨day, hday⟩ := h.day
    exact ⟨h.nonempty, h.length, hcomplete,
      ⟨day, fun s hs => hday s (hperm.mem_iff.mp hs)⟩, (hapart hcomplete).mpr h.disjoint⟩
  · rintro ⟨hne, hlen, hcomplete, ⟨day, hday⟩, hends⟩
    exact
      { nonempty := hne
        length := hlen
        therapist := fun s hs => (hcomplete s hs).1
        services := fun s hs => (hcomplete s hs).2.1
        window := fun s hs => (hcomplete s hs).2.2
        day := ⟨day, fun s hs => hday s (hperm.mem_iff.mpr hs)⟩
        disjoint := (hapart hcomplete).mp hends }

theorem startsBefore_setPosition (s s' : SessionDict) (i j : ℕ) :
    StartsBefore iso (setPosition s i) (setPosition s' j) ↔ StartsBefore iso s s' := by
  unfold StartsBefore
  simp only [hasWindow_setPosition]

theorem endsBefore_setPosition (s s' : SessionDict) (i j : ℕ) :
    EndsBefore iso (setPosition s i) (setPosition s' j) ↔ EndsBefore iso s s' := by
  unfold EndsBefore
  simp only [hasWindow_setPosition]

/-- The pass over the numbered sessions. -/
theorem checkOrder_numbered {day : ℤ}
    (hwindow : ∀ s ∈ l, ∃ w, HasWindow iso s w ∧ w.start < w.stop) :
    checkOrder iso day none 0 (numbered l) = .ok () ↔
      (∀ s ∈ l, OnDay iso day s) ∧ l.Pairwise (EndsBefore iso) := by
  have hwindow' : ∀ s ∈ numbered l, ∃ w, HasWindow iso s w ∧ w.start < w.stop := by
    intro s hs
    obtain ⟨s₀, hs₀, i, rfl⟩ := mem_numbered hs
    obtain ⟨w, hw, hlt⟩ := hwindow s₀ hs₀
    exact ⟨w, hasWindow_setPosition.mpr hw, hlt⟩
  rw [checkOrder_eq_ok hwindow', pairwise_numbered endsBefore_setPosition]
  constructor
  · rintro ⟨hday, -, hends⟩
    refine ⟨fun s hs w hw => ?_, hends⟩
    obtain ⟨i, hi⟩ := exists_mem_numbered hs
    exact hday _ hi w (hasWindow_setPosition.mpr hw)
  · rintro ⟨hday, hends⟩
    refine ⟨fun s hs w hw => ?_, by simp, hends⟩
    obtain ⟨s₀, hs₀, i, rfl⟩ := mem_numbered hs
    exact hday s₀ hs₀ w (hasWindow_setPosition.mp hw)

/-- The date of the first session is the one they all have to be on. -/
theorem firstDay_numbered (hne : l ≠ []) (hwindow : ∀ s ∈ l, ∃ w, HasWindow iso s w) :
    ∃ day, firstDay iso (numbered l) = .ok day ∧
      ∀ day', (∀ s ∈ l, OnDay iso day' s) → day' = day := by
  cases l with
  | nil => exact absurd rfl hne
  | cons first rest =>
    obtain ⟨w, hw⟩ := hwindow first List.mem_cons_self
    refine ⟨localDay w.start, ?_, fun day' h => ?_⟩
    · have hfirst : HasWindow iso (setPosition first 0) w := hasWindow_setPosition.mpr hw
      show firstDay iso (setPosition first 0 :: _) = _
      unfold firstDay
      dsimp only
      rw [hfirst]
    · exact (h first List.mem_cons_self w hw).1.symm

/-- The whole of `validate_sessions` on complete sessions, after the sort. -/
theorem validateSessions_of_complete {maxSessions : ℤ} {ordered : List SessionDict}
    (hne : sessions ≠ []) (hlen : sessions.length ≤ maxSessions)
    (hcomplete : ∀ s ∈ sessions, Complete iso s) (hperm : ordered.Perm sessions)
    (hsort : sortSessions iso sessions = .ok (numbered ordered)) :
    validateSessions iso sessions maxSessions = .ok l ↔
      l = numbered ordered ∧ (∃ day, ∀ s ∈ ordered, OnDay iso day s) ∧
        ordered.Pairwise (EndsBefore iso) := by
  have hwindow : ∀ s ∈ ordered, ∃ w, HasWindow iso s w ∧ w.start < w.stop :=
    fun s hs => (hcomplete s (hperm.mem_iff.mp hs)).2.2
  have hne' : ordered ≠ [] := by
    intro hnil
    rw [hnil] at hperm
    exact hne hperm.symm.eq_nil
  obtain ⟨day, hfirst, honly⟩ := firstDay_numbered hne' fun s hs => (hwindow s hs).imp fun _ h => h.1
  have hcheck : checkOrder iso day none 0 (numbered ordered) = .ok () ↔
      (∀ s ∈ ordered, OnDay iso day s) ∧ ordered.Pairwise (EndsBefore iso) :=
    checkOrder_numbered hwindow
  unfold validateSessions
  rw [if_neg hne, if_neg (not_lt.mpr hlen), checkSessions_eq_ok.mpr hcomplete, hsort]
  constructor
  · intro h
    obtain ⟨-, -, h⟩ := Fallible.bind_eq_ok.mp h
    obtain ⟨_, ⟨rfl⟩, h⟩ := Fallible.bind_eq_ok.mp h
    obtain ⟨_, hday, h⟩ := Fallible.bind_eq_ok.mp h
    rw [hfirst] at hday
    cases hday
    obtain ⟨_, horder, h⟩ := Fallible.bind_eq_ok.mp h
    obtain ⟨hdays, hends⟩ := hcheck.mp horder
    exact ⟨(Fallible.pure_eq_ok.mp h).symm, ⟨day, hdays⟩, hends⟩
  · rintro ⟨rfl, ⟨day', hdays⟩, hends⟩
    obtain rfl := honly day' hdays
    refine Fallible.bind_eq_ok.mpr ⟨(), rfl, Fallible.bind_eq_ok.mpr ⟨_, rfl, ?_⟩⟩
    refine Fallible.bind_eq_ok.mpr ⟨_, hfirst, Fallible.bind_eq_ok.mpr ⟨(), ?_, rfl⟩⟩
    exact hcheck.mpr ⟨hdays, hends⟩

/-- What `validate_sessions` has checked when it returned. -/
theorem complete_of_validateSessions {maxSessions : ℤ}
    (h : validateSessions iso sessions maxSessions = .ok l) :
    sessions ≠ [] ∧ sessions.length ≤ maxSessions ∧ ∀ s ∈ sessions, Complete iso s := by
  unfold validateSessions at h
  split_ifs at h with hempty hlength
  obtain ⟨_, hcheck, -⟩ := Fallible.bind_eq_ok.mp h
  exact ⟨hempty, not_lt.mp hlength, checkSessions_eq_ok.mp hcheck⟩

theorem validateSessions_spec (iso : String → Option DateTime) (sessions : List SessionDict)
    (maxSessions : ℤ) :
    ((∃ l, validateSessions iso sessions maxSessions = .ok l) ↔
      Acceptable iso sessions maxSessions) ∧
    ∀ l, validateSessions iso sessions maxSessions = .ok l → ∃ ordered, ordered.Perm sessions ∧
      ordered.Pairwise (StartsBefore iso) ∧ ordered.Pairwise (EndsBefore iso) ∧
      l = numbered ordered := by
  by_cases hpre : sessions ≠ [] ∧ sessions.length ≤ maxSessions ∧ ∀ s ∈ sessions, Complete iso s
  · obtain ⟨hne, hlen, hcomplete⟩ := hpre
    obtain ⟨ordered, hperm, hsorted, hsort⟩ :=
      sortSessions_eq_ok fun s hs => (hcomplete s hs).2.2.imp fun _ h => h.1
    rw [acceptable_iff hperm hsorted]
    refine ⟨⟨?_, ?_⟩, ?_⟩
    · rintro ⟨l, h⟩
      obtain ⟨-, hday, hends⟩ :=
        (validateSessions_of_complete hne hlen hcomplete hperm hsort).mp h
      exact ⟨hne, hlen, hcomplete, hday, hends⟩
    · rintro ⟨-, -, -, hday, hends⟩
      exact ⟨_, (validateSessions_of_complete hne hlen hcomplete hperm hsort).mpr
        ⟨rfl, hday, hends⟩⟩
    · intro l h
      obtain ⟨rfl, -, hends⟩ := (validateSessions_of_complete hne hlen hcomplete hperm hsort).mp h
      exact ⟨ordered, hperm, hsorted, hends, rfl⟩
  · refine ⟨⟨?_, ?_⟩, ?_⟩
    · rintro ⟨l, h⟩
      exact absurd (complete_of_validateSessions h) hpre
    · intro h
      exact absurd ⟨h.nonempty, h.length,
        fun s hs => ⟨h.therapist s hs, h.services s hs, h.window s hs⟩⟩ hpre
    · intro l h
      exact absurd (complete_of_validateSessions h) hpre

end Validating

/-- Acceptance is exact, whatever the order of the sessions, the offsets of their times and the number of
sessions that is allowed; and the result is the sessions sorted by start, numbered from 0. -/
theorem validateSessions_exact (iso : String → Option DateTime) (sessions : List SessionDict)
    (maxSessions : ℤ) :
    ((∃ l, validateSessions iso sessions maxSessions = .ok l) ↔
      Acceptable iso sessions maxSessions) ∧
    ∀ l, validateSessions iso sessions maxSessions = .ok l →
      (∃ ordered : List SessionDict, ordered.Perm sessions ∧
        l = ordered.zipIdx.map fun x => setPosition x.1 x.2) ∧
      (l.Pairwise fun s s' => ∀ w w', HasWindow iso s w → HasWindow iso s' w' →
        w.start ≤ w'.start ∧ w.stop ≤ w'.start) ∧
      l.map (·.lookup "position") =
        (List.range sessions.length).map fun i => some (.json (.num (toString i))) := by
  obtain ⟨haccept, hresult⟩ := validateSessions_spec iso sessions maxSessions
  refine ⟨haccept, fun l h => ?_⟩
  obtain ⟨ordered, hperm, hsorted, hends, rfl⟩ := hresult l h
  refine ⟨⟨ordered, hperm, rfl⟩, ?_, ?_⟩
  · have hstarts := (pairwise_numbered startsBefore_setPosition).mpr hsorted
    have hstops := (pairwise_numbered endsBefore_setPosition).mpr hends
    exact (hstarts.and hstops).imp fun h w w' hw hw' => ⟨h.1 w w' hw hw', h.2 w w' hw hw'⟩
  · rw [positions_numbered, hperm.length_eq]

end Booking.SessionDicts
