import UshBookNPay.Core.IdempotencyRuns

/-!
# When the requests of one key are deduplicated

Along a run in which every lookup finds what has succeeded before it and no handler answers after
another success, there is one success, it is in Redis from its store on, and the later requests are
answered from there.
-/

namespace Middleware

variable {J : Type} {c : Codec J} {key : String} {s : System J}

/-! ## The log -/

theorem mem_successes {log : List Observation} {x : String × Response} :
    x ∈ successes log ↔ .succeeded x.1 x.2 ∈ log := by
  unfold successes
  rw [List.mem_filterMap]
  constructor
  · rintro ⟨o, ho, hx⟩
    cases o with
    | succeeded body r =>
      obtain rfl := Option.some.inj hx
      exact ho
    | ran body => cases hx
    | answered body answer => cases hx
  · exact fun h => ⟨_, h, rfl⟩

/-- Something that may follow every success so far is appended. -/
theorem pairwise_append_one {log : List Observation} {o : Observation}
    (h : log.Pairwise (MayFollow c))
    (ho : ∀ x ∈ successes log, MayFollow c (.succeeded x.1 x.2) o) :
    (log ++ [o]).Pairwise (MayFollow c) := by
  rw [List.pairwise_append]
  refine ⟨h, List.pairwise_singleton _ _, fun e he o' ho' => ?_⟩
  rw [List.mem_singleton] at ho'
  subst ho'
  cases e with
  | succeeded body r => exact ho (body, r) (mem_successes.mpr he)
  | ran body => cases o' <;> trivial
  | answered body answer => cases o' <;> trivial

theorem successes_append (log seen : List Observation) :
    successes (log ++ seen) = successes log ++ successes seen := List.filterMap_append

/-! ## The invariant -/

/-- The entry of a success. -/
structure IsEntry (c : Codec J) (x : String × Response) (stored : Stored J) : Prop where
  hash : stored.bodyHash = c.sha256 x.1
  status : stored.statusCode = x.2.status
  value : c.loads x.2.body = some stored.responseBody

/-- One success so far, whose entry Redis holds once it is stored. -/
structure Inv (c : Codec J) (s : System J) : Prop where
  log : s.log.Pairwise (MayFollow c)
  one : ∀ x ∈ successes s.log, ∀ y ∈ successes s.log, x = y
  entry : ∀ stored ∈ s.redis, ∀ x ∈ successes s.log, IsEntry c x stored
  /-- an entry from before the run keeps every handler from running -/
  before : s.redis.isSome → successes s.log = [] →
    ∀ sid p, s.passes sid = some p → p.phase = .done
  storing : ∀ sid p r, s.passes sid = some p → p.phase = .storing r →
    (p.request.body, r) ∈ successes s.log
  applied : ∀ sid p, s.passes sid = some p → p.phase ≠ .passing

theorem inv_start (stored : Option (Stored J)) : Inv c { redis := stored } where
  log := List.Pairwise.nil
  one := fun _ h => by cases h
  entry := fun _ _ _ h => by cases h
  before := fun _ _ _ _ h => by cases h
  storing := fun _ _ _ h => by cases h
  applied := fun _ _ h => by cases h

/-- The entry of a success answers the requests of its body as the success was answered. -/
theorem answerStored_eq {x : String × Response} {stored : Stored J} {req : Request}
    (h : IsEntry c x stored) (hbody : req.body = x.1)
    (hrender : (c.render stored.responseBody).isSome) :
    answerStored c stored req = some (replyTo c x.2) := by
  obtain ⟨body, hrendered⟩ := Option.isSome_iff_exists.mp hrender
  unfold answerStored replyTo
  rw [h.hash, hbody, if_neg (not_not.mpr rfl), h.value, Option.bind_some, hrendered, h.status]
  rfl

theorem isEntry_of_entryOf {req : Request} {r : Response} {stored : Stored J}
    (h : entryOf c req r = some stored) : IsEntry c (req.body, r) stored := by
  obtain ⟨value, hvalue, rfl⟩ := Option.map_eq_some_iff.mp h
  exact ⟨rfl, rfl, hvalue⟩

/-! ## Steps -/

/-- A pass enters a phase, with something the log admits and no new success. -/
theorem Inv.enter {sid : ℕ} {req : Request} {phase : Phase} {seen : List Observation} (h : Inv c s)
    (hlog : (s.log ++ seen).Pairwise (MayFollow c)) (hsuccesses : successes seen = [])
    (hphase : phase = .done ∨ (phase = .running ∧ s.redis = none)) :
    Inv c (s.enter sid req phase seen) := by
  have hsame : successes (s.enter sid req phase seen).log = successes s.log := by
    show successes (s.log ++ seen) = _
    rw [successes_append, hsuccesses, List.append_nil]
  have hpass : ∀ k p, (s.enter sid req phase seen).passes k = some p →
      s.passes k = some p ∨ p.phase = phase := by
    intro k p hp
    have hp' : Function.update s.passes sid (some { request := req, phase := phase }) k = some p := hp
    by_cases hk : k = sid
    · rw [hk, Function.update_self] at hp'
      exact .inr (congrArg Pass.phase (Option.some.inj hp').symm)
    · rw [Function.update_of_ne hk] at hp'
      exact .inl hp'
  constructor
  · exact hlog
  · rw [hsame]
    exact h.one
  · rw [hsame]
    exact h.entry
  · rw [hsame]
    intro hredis hnone k p hp
    have hredis' : s.redis.isSome := hredis
    rcases hpass k p hp with hold | hnew
    · exact h.before hredis' hnone k p hold
    · rcases hphase with hdone | ⟨-, hempty⟩
      · exact hnew.trans hdone
      · rw [hempty] at hredis'
        cases hredis'
  · rw [hsame]
    intro k p r hp hstoring
    rcases hpass k p hp with hold | hnew
    · exact h.storing k p r hold hstoring
    · rw [hnew] at hstoring
      rcases hphase with hdone | ⟨hrunning, -⟩
      · rw [hdone] at hstoring
        cases hstoring
      · rw [hrunning] at hstoring
        cases hstoring
  · intro k p hp
    rcases hpass k p hp with hold | hnew
    · exact h.applied k p hold
    · rw [hnew]
      rcases hphase with hdone | ⟨hrunning, -⟩
      · rw [hdone]
        exact fun hp => (by cases hp)
      · rw [hrunning]
        exact fun hp => (by cases hp)

/-- A request that is looked up once the success is in Redis. -/
theorem Inv.lookup {sid : ℕ} {req : Request} (h : Inv c s) (happlies : Applies req)
    (hheld : successes s.log ≠ [] → Held c s) : Inv c (lookup c s sid req) := by
  unfold Middleware.lookup
  rw [if_neg (not_not.mpr happlies)]
  cases hredis : s.redis with
  | some stored =>
    refine h.enter (pairwise_append_one h.log fun x hx hbody => ?_) rfl (.inl rfl)
    obtain ⟨stored', hstored', hrender⟩ := hheld (List.ne_nil_of_mem hx)
    obtain rfl : stored = stored' := Option.some.inj (hredis.symm.trans hstored')
    exact answerStored_eq (h.entry stored hredis x hx) hbody hrender
  | none =>
    refine h.enter (pairwise_append_one h.log fun x hx => ?_) rfl (.inr ⟨rfl, hredis⟩)
    obtain ⟨stored, hstored, -⟩ := hheld (List.ne_nil_of_mem hx)
    rw [hredis] at hstored
    cases hstored

/-- A handler that answers while no success of its body is there, and succeeds before every other. -/
theorem Inv.handlerAnswers {sid : ℕ} {p : Pass} {r : Response} (h : Inv c s)
    (hp : s.passes sid = some p) (hrunning : p.phase = .running)
    (hturn : ∀ x ∈ successes s.log, x.1 ≠ p.request.body ∧ ¬ Successful r) :
    Inv c (handlerAnswers s sid p.request p.phase r) := by
  unfold Middleware.handlerAnswers
  by_cases hsuccess : Successful r
  swap
  · rw [if_pos hsuccess]
    exact h.enter (pairwise_append_one h.log fun x hx hbody => absurd hbody.symm (hturn x hx).1) rfl
      (.inl rfl)
  rw [if_neg (not_not.mpr hsuccess), if_pos hrunning]
  have hnone : successes s.log = [] := by
    by_contra hne
    obtain ⟨x, hx⟩ := List.exists_mem_of_ne_nil _ hne
    exact (hturn x hx).2 hsuccess
  have hredis : s.redis = none := by
    cases hr : s.redis with
    | none => rfl
    | some stored =>
      have hdone := h.before (by rw [hr]; rfl) hnone sid p hp
      rw [hrunning] at hdone
      cases hdone
  have hnew : successes (s.enter sid p.request (.storing r) [.succeeded p.request.body r]).log =
      [(p.request.body, r)] := by
    show successes (s.log ++ _) = _
    rw [successes_append, hnone]
    rfl
  constructor
  · refine pairwise_append_one h.log fun x hx => ?_
    rw [hnone] at hx
    cases hx
  · rw [hnew]
    intro x hx y hy
    rw [List.mem_singleton] at hx hy
    rw [hx, hy]
  · intro stored hstored
    have hstored' : s.redis = some stored := hstored
    rw [hredis] at hstored'
    cases hstored'
  · intro hsome
    have hsome' : s.redis.isSome := hsome
    rw [hredis] at hsome'
    cases hsome'
  · rw [hnew]
    intro k q r' hq hstoring
    have hq' : Function.update s.passes sid
      (some { request := p.request, phase := .storing r }) k = some q := hq
    by_cases hk : k = sid
    · rw [hk, Function.update_self] at hq'
      obtain rfl := Option.some.inj hq'
      cases hstoring
      exact List.mem_singleton.mpr rfl
    · rw [Function.update_of_ne hk] at hq'
      have hmem := h.storing k q r' hq' hstoring
      rw [hnone] at hmem
      cases hmem
  · intro k q hq
    have hq' : Function.update s.passes sid
      (some { request := p.request, phase := .storing r }) k = some q := hq
    by_cases hk : k = sid
    · rw [hk, Function.update_self] at hq'
      obtain rfl := Option.some.inj hq'
      exact fun hpassing => (by cases hpassing)
    · rw [Function.update_of_ne hk] at hq'
      exact h.applied k q hq'

/-- The entry of the success, in Redis. -/
theorem Inv.stored {req : Request} {r : Response} (h : Inv c s)
    (hmem : (req.body, r) ∈ successes s.log) :
    Inv c { s with redis := (entryOf c req r).or s.redis } where
  log := h.log
  one := h.one
  entry := by
    intro stored hstored x hx
    obtain rfl := h.one _ hmem x hx
    rcases Option.or_eq_some_iff.mp hstored with hnew | ⟨-, hold⟩
    · exact isEntry_of_entryOf hnew
    · exact h.entry stored hold _ hx
  before := fun _ hnone => absurd hmem (by
    have hnone' : successes s.log = [] := hnone
    rw [hnone']
    exact List.not_mem_nil)
  storing := h.storing
  applied := h.applied

theorem Inv.store {sid : ℕ} {req : Request} {r : Response} (h : Inv c s)
    (hmem : (req.body, r) ∈ successes s.log) : Inv c (store c s sid req r) := by
  refine (h.stored hmem).enter (pairwise_append_one h.log fun x hx _ => ?_) rfl (.inl rfl)
  obtain rfl := h.one _ hmem x hx
  rfl

theorem inv_step {ev : Event} (h : Inv c s) (hturn : InTurn c key s ev) :
    Inv c (step c key s ev) := by
  cases ev with
  | lookup sid req =>
    unfold step
    dsimp only
    split_ifs with hnew
    · obtain ⟨happlies, hheld⟩ := hturn hnew.2.1 hnew.2.2
      exact h.lookup happlies hheld
    · exact h
  | handler sid r =>
    unfold step
    dsimp only
    cases hp : s.passes sid with
    | none => exact h
    | some p =>
      dsimp only
      split_ifs with hphase
      · have hrunning : p.phase = .running := hphase.resolve_right (h.applied sid p hp)
        exact h.handlerAnswers hp hrunning (hturn p hp)
      · exact h
  | raised sid =>
    unfold step
    dsimp only
    cases hp : s.passes sid with
    | none => exact h
    | some p =>
      dsimp only
      split_ifs
      · refine h.enter ?_ rfl (.inl rfl)
        rw [List.append_nil]
        exact h.log
      · exact h
  | setex sid =>
    unfold step
    dsimp only
    cases hp : s.passes sid with
    | none => exact h
    | some p =>
      dsimp only
      split
      · rename_i r hphase
        exact h.store (h.storing sid p r hp hphase)
      · exact h

/-! ## Runs -/

/-- The codec on the bodies below: an empty body is no JSON, and an empty list or object is rendered as
it came. -/
def plainCodec : Codec String where
  sha256 body := if body = "\x7b\x7d" then
      "44136fa355b3678a1146ad16f7e8649e94fb4fc21fe77e8310c060f61caaff8a"
    else "e3b0c44298fc1c149afbf4c8996fb92427ae41e4649b934ca495991b7852b855"
  loads body := if body = "" then none else some body
  render value := some value

/-- A request with the key, its body empty or an empty object. -/
def keyed (body : String) : Request :=
  { path := "/api/v1/bookings/", body := body, idempotencyKey := some "k-1" }

/-- The retry overlaps the first request: both run the handler, and both succeed. -/
def overlappingRetry : List Event :=
  [.lookup 1 (keyed ""), .lookup 2 (keyed ""), .handler 1 { status := 201, body := "[]" }, .setex 1,
    .handler 2 { status := 201, body := "[]" }]

/-- The answer of the first request is empty, and the retry runs the handler once more. -/
def retryOfEmptyAnswer : List Event :=
  [.lookup 1 (keyed ""), .handler 1 { status := 204, body := "" }, .setex 1, .lookup 2 (keyed ""),
    .handler 2 { status := 204, body := "" }]

end Middleware
