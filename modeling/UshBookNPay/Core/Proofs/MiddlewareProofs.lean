import UshBookNPay.Core.Proofs.IdempotencyProofs

/-!
# What a request leaves for the next one

An answer is kept under the key alone. It answers the next request with the key and the body, wherever
that goes and whoever sends it, and the application does not get to see the request.
-/

namespace Middleware

variable {J σ : Type} {c : Codec J} {app : App σ} {faults : Faults} {req : Request} {w : World J σ}

/-! ## One pass -/

theorem dispatch_passed (h : ¬ Applies req ∨ faults.get = true) :
    dispatch c app faults req w = callNext app req w := by
  unfold dispatch
  rw [if_pos h]

theorem dispatch_stored {stored : Stored J} (happlies : Applies req) (hget : faults.get = false)
    (hredis : w.redis (redisKey req) = some stored) :
    dispatch c app faults req w = ({ answer := answerStored c stored req, called := false }, w) := by
  have hlooked : ¬ (¬ Applies req ∨ faults.get = true) := by simp [happlies, hget]
  unfold dispatch
  rw [if_neg hlooked, hredis]

theorem dispatch_missed (happlies : Applies req) (hget : faults.get = false)
    (hredis : w.redis (redisKey req) = none) :
    dispatch c app faults req w = receive c faults req (callNext app req w) := by
  have hlooked : ¬ (¬ Applies req ∨ faults.get = true) := by simp [happlies, hget]
  unfold dispatch
  rw [if_neg hlooked, hredis]

theorem called_receive {next : Outcome × World J σ} (h : next.1.called = true) :
    (receive c faults req next).1.called = true := by
  unfold receive
  split
  · exact h
  · split_ifs
    · unfold keep
      split
      · rfl
      · split_ifs <;> rfl
    · exact h

/-- A request with an entry does not reach the application. -/
theorem called_iff (app : App σ) (happlies : Applies req) (hget : faults.get = false) :
    (dispatch c app faults req w).1.called = true ↔ w.redis (redisKey req) = none := by
  cases hredis : w.redis (redisKey req) with
  | some stored =>
    rw [dispatch_stored happlies hget hredis]
    exact iff_of_false (fun h => by cases h) (fun h => by cases h)
  | none =>
    rw [dispatch_missed happlies hget hredis]
    exact iff_of_true (called_receive rfl) rfl

/-- A request that leaves no entry leaves Redis as it is. -/
theorem redis_of_not_leavesEntry (h : ¬ LeavesEntry c app faults req w) :
    (dispatch c app faults req w).2.redis = w.redis := by
  by_cases hpassed : ¬ Applies req ∨ faults.get = true
  · rw [dispatch_passed hpassed]
    rfl
  rw [not_or, not_not, Bool.not_eq_true] at hpassed
  obtain ⟨happlies, hget⟩ := hpassed
  cases hredis : w.redis (redisKey req) with
  | some stored => rw [dispatch_stored happlies hget hredis]
  | none =>
    rw [dispatch_missed happlies hget hredis]
    unfold receive
    cases hanswer : (callNext app req w).1.answer with
    | none => rfl
    | some r =>
      dsimp only
      by_cases hsuccess : Successful r
      swap
      · rw [if_neg hsuccess]
        rfl
      rw [if_pos hsuccess]
      unfold keep
      cases hentry : entryOf c req r with
      | none => rfl
      | some entry =>
        obtain ⟨value, hvalue, -⟩ := Option.map_eq_some_iff.mp hentry
        have hjson : (c.loads r.body).isSome := by
          rw [hvalue]
          rfl
        have hsetex : faults.setex = true := by
          by_contra hno
          exact h ⟨happlies, hget, by simpa using hno, hredis, r, hanswer, hsuccess,
            hjson⟩
        dsimp only
        rw [if_pos hsetex]
        rfl

/-- A request that leaves an entry leaves it under its key. -/
theorem redis_of_leavesEntry (h : LeavesEntry c app faults req w) :
    ((dispatch c app faults req w).2.redis (redisKey req)).isSome := by
  obtain ⟨happlies, hget, hsetex, hredis, r, hanswer, hsuccess, hjson⟩ := h
  obtain ⟨value, hvalue⟩ := Option.isSome_iff_exists.mp hjson
  obtain ⟨entry, hentry⟩ : ∃ entry, entryOf c req r = some entry := by
    unfold entryOf
    rw [hvalue]
    exact ⟨_, rfl⟩
  have hanswer' : (callNext app req w).1.answer = some r := hanswer
  have hno : ¬ faults.setex = true := by simp [hsetex]
  rw [dispatch_missed happlies hget hredis]
  unfold receive
  rw [hanswer']
  dsimp only
  rw [if_pos hsuccess]
  unfold keep
  rw [hentry]
  dsimp only
  rw [if_neg hno]
  dsimp only
  rw [Function.update_self]
  rfl

/-! ## Two requests -/

/-- A pass that is not overlapped is a dispatch: it leaves the same entry and gives the same answer. -/
theorem pass_is_dispatch {key : String} {r : Response} (happlies : Applies req)
    (hreq : req.method = "POST" ∧ req.idempotencyKey = some key)
    (hanswer : (app req w.state).1 = some r) :
    let s := Runs.run (step c key) { redis := w.redis (redisKey req) }
      [.lookup 1 req, .handler 1 r, .setex 1]
    s.redis = (dispatch c app {} req w).2.redis (redisKey req) ∧
      s.log.getLast? = some (.answered req.body (dispatch c app {} req w).1.answer) := by
  dsimp only
  have hanswer' : (callNext app req w).1.answer = some r := hanswer
  cases hredis : w.redis (redisKey req) with
  | some stored =>
    rw [dispatch_stored happlies rfl hredis]
    simp [Runs.run, step, hreq, lookup, happlies, System.enter, hredis]
  | none =>
    rw [dispatch_missed happlies rfl hredis]
    unfold receive
    rw [hanswer']
    dsimp only
    by_cases hsuccess : Successful r
    swap
    · simp [Runs.run, step, hreq, lookup, happlies, System.enter, handlerAnswers, hsuccess, callNext,
        hredis, hanswer]
    rw [if_pos hsuccess]
    unfold keep
    cases hentry : entryOf c req r with
    | none =>
      have hreply : replyTo c r = r := by
        have hnone := Option.map_eq_none_iff.mp hentry
        unfold replyTo
        rw [hnone, Option.bind_none]
      simp [Runs.run, step, hreq, lookup, happlies, System.enter, handlerAnswers, hsuccess, store,
        hentry, hreply, callNext, hredis]
    | some entry =>
      simp [Runs.run, step, hreq, lookup, happlies, System.enter, handlerAnswers, hsuccess, store,
        hentry]

/-! ## The key k-1 of two callers -/

/-- An application that lets nobody in without the token, and creates something for everybody else. -/
def guarded : App ℕ := fun req n =>
  if req.ushspaToken = some "secret" then (some { status := 201, body := "[]" }, n + 1)
  else (some { status := 401, body := "[]" }, n)

def cancelSeven : Request :=
  { path := "/api/v1/bookings/7/cancel/", idempotencyKey := some "k-1", ushspaToken := some "secret" }

/-- The key on another booking, without the token. -/
def cancelEight : Request := { path := "/api/v1/bookings/8/cancel/", idempotencyKey := some "k-1" }

def nothingStored : World String ℕ := { redis := fun _ => none, state := 0 }

end Middleware
