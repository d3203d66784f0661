import UshBookNPay.Core.Security
import UshBookNPay.Lib.Runs
import Mathlib.Tactic.Linarith

/-!
# Expired tokens

The expiry of a token is looked at where the cache has no answer. An entry that is dropped by the time
its token expires keeps the answers of the cache within the life of the token.
-/

namespace Security

variable {claims : Claims} {exp : ℚ} {cache : Option CacheEntry} {call : Call}

/-- The entry is dropped by the time the token expires. -/
def DroppedInTime (exp : ℚ) (cache : Option CacheEntry) : Prop :=
  ∀ entry ∈ cache, entry.dropsAt ≤ exp

theorem lookup_expired (h : DroppedInTime exp cache) (hexp : exp ≤ call.time) :
    lookup call cache = none := by
  unfold lookup
  split_ifs
  · rfl
  cases cache with
  | none => rfl
  | some entry =>
    have hdrop : ¬ call.time < entry.dropsAt := not_lt.mpr ((h entry rfl).trans hexp)
    simp only [Option.filter_some, hdrop, decide_false, Bool.false_eq_true, if_false, Option.map_none]

/-- The time to live of a profile that is stored at least a second before the token expires. -/
theorem timeToLive_le {now ttl : ℚ} (h : timeToLive (.at exp) now = some ttl) (hnow : now + 1 ≤ exp) :
    now + ttl ≤ exp := by
  have hone : (1 : ℚ) ≤ exp - now := by linarith
  have hfloor : (1 : ℤ) ≤ ⌊exp - now⌋ := Int.le_floor.mpr (by exact_mod_cast hone)
  have hle : ((⌊exp - now⌋ : ℤ) : ℚ) ≤ exp - now := Int.floor_le _
  unfold timeToLive at h
  dsimp only at h
  rw [if_pos (by linarith : 0 ≤ exp - now), if_pos (by omega)] at h
  have hmin := Option.some.inj h
  rw [← hmin]
  have : min (60 : ℚ) (⌊exp - now⌋ : ℤ) ≤ (⌊exp - now⌋ : ℤ) := min_le_right _ _
  linarith

theorem droppedInTime_setex (h : DroppedInTime exp cache) {ttl : ℚ} (payload : TokenPayload)
    (httl : call.faults.setex = false → call.time + ttl ≤ exp) :
    DroppedInTime exp (setex call ttl payload cache) := by
  unfold setex
  split_ifs with hfault
  · exact h
  · intro entry hentry
    obtain rfl := Option.some.inj hentry
    exact httl (by simpa using hfault)

theorem droppedInTime_uncached (hclaim : claims.expiry = .at exp) (h : DroppedInTime exp cache)
    (hmargin : call.faults.setex = false →
      call.time + (askUshauth claims call.replies).margin ≤ exp) :
    DroppedInTime exp (validateUncached claims call cache).2 := by
  unfold validateUncached
  cases hverdict : askUshauth claims call.replies with
  | failed e => exact h
  | employeeMissing =>
    rw [hverdict] at hmargin
    exact droppedInTime_setex h _ hmargin
  | accepted payload =>
    rw [hverdict] at hmargin
    dsimp only
    cases httl : timeToLive claims.expiry call.time with
    | none => exact h
    | some ttl =>
      rw [hclaim] at httl
      exact droppedInTime_setex h _ fun hfault => timeToLive_le httl (hmargin hfault)

/-- A call that stores in time keeps the entry within the life of the token, and is refused once that is
over. -/
theorem validate_step (hclaim : claims.expiry = .at exp) (h : DroppedInTime exp cache)
    (hcall : StoredInTime claims exp cache call) :
    DroppedInTime exp (validateUserWithUshauth claims call cache).2 ∧
      RefusedOnceExpired claims exp cache call := by
  constructor
  · unfold validateUserWithUshauth
    cases hlookup : lookup call cache with
    | some payload => exact h
    | none =>
      dsimp only
      rw [hclaim]
      dsimp only
      split_ifs with hexpired
      · exact h
      · exact droppedInTime_uncached hclaim h (hcall hlookup (not_le.mp hexpired))
  · intro hexpired
    unfold validateUserWithUshauth
    rw [lookup_expired h hexpired, hclaim]
    dsimp only
    rw [if_pos hexpired]
    simp [Except.isOk, Except.toBool]

/-- Along a run of calls that all store in time, no call returns the payload of an expired token. -/
theorem expired_token_refused (claims : Claims) (exp : ℚ) (hclaim : claims.expiry = .at exp)
    (calls : List Call)
    (h : Runs.AllSteps (fun cache call => (validateUserWithUshauth claims call cache).2)
      (StoredInTime claims exp) none calls) :
    Runs.AllSteps (fun cache call => (validateUserWithUshauth claims call cache).2)
      (RefusedOnceExpired claims exp) none calls :=
  Runs.allSteps_of_allSteps (I := DroppedInTime exp)
    (fun _ _ hcache hcall => validate_step hclaim hcache hcall) (fun _ hentry => nomatch hentry) h

/-- A customer whose token expires at 1000. -/
def customerClaims : Claims := { userId := "c-1", expiry := .at 1000 }

/-- The reply with an empty profile. -/
def profileReply : Replies := { profile := .response 200 (some (.obj [])) }

theorem expired_token_refused_example :
    Runs.AllSteps (fun cache call => (validateUserWithUshauth customerClaims call cache).2)
      (RefusedOnceExpired customerClaims 1000) none
      [{ time := 990, replies := profileReply }, { time := 995, replies := profileReply },
        { time := 1000, replies := profileReply }] :=
  expired_token_refused customerClaims 1000 rfl _ (by decide +kernel)

/-- The claims of an employee without a profile. -/
def employeeClaims : Claims :=
  { userType := some (.str "employee"), userId := "e-1", expiry := .at 1000 }

/-- Less than a second before it expires a token is stored for a whole minute, and the fallback for an
employee for half a minute at any time. -/
theorem expired_token_accepted :
    ¬ Runs.AllSteps (fun cache call => (validateUserWithUshauth customerClaims call cache).2)
      (RefusedOnceExpired customerClaims 1000) none
      [{ time := 999 + 1 / 2, replies := profileReply }, { time := 1010, replies := profileReply }] ∧
    ¬ Runs.AllSteps (fun cache call => (validateUserWithUshauth employeeClaims call cache).2)
      (RefusedOnceExpired employeeClaims 1000) none
      [{ time := 990, replies := { profile := .response 404 none } },
        { time := 1005, replies := { profile := .response 404 none } }] := by
  constructor
  · rintro ⟨-, hlast, -⟩
    exact hlast (by decide) (by decide +kernel)
  · rintro ⟨-, hlast, -⟩
    exact hlast (by decide) (by decide +kernel)

end Security
