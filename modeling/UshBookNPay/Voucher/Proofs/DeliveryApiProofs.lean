import UshBookNPay.Common.Proofs.JsonProofs
import UshBookNPay.Lib.Fallible
import UshBookNPay.Voucher.DeliveryApi

/-!
# Who may update a delivery

A payload of ushauth names the type of its user and says whether the user is staff, so nothing of the
headers and the unverified claims decides about a token that ushauth accepts. They decide where it accepts
none.
-/

namespace Security

/-- A payload that settles who the user is: an employee, or a user with a type and both flags. -/
def Settles (payload : TokenPayload) : Prop :=
  ∃ t, payload.userType = some t ∧
    (t ∈ ["employee", "admin"] ∨
      t ≠ "" ∧ payload.isStaff.isSome ∧ payload.isSuperuser.isSome)

theorem truthy_of_firstTruthy {values : List (Option Json)} {v : Json}
    (h : firstTruthy values = some v) : v.truthy := by
  unfold firstTruthy at h
  cases hfind : values.find? fun v => v.any Json.truthy with
  | none => simp [hfind] at h
  | some found =>
    have hany := List.find?_some hfind
    simp only [hfind, Option.join_some] at h
    rw [h] at hany
    simpa using hany

theorem truthy_resolvedUserType (claims : Claims) (profile : Json) :
    (resolvedUserType claims profile).truthy := by
  unfold resolvedUserType
  cases hfirst : firstTruthy [profile.field? "user_type",
      permissionField (profile.field? "permissions") "user_type", claims.userType] with
  | none => rfl
  | some v => exact truthy_of_firstTruthy hfirst

theorem present_of_truthy {v : Json} (hv : v.truthy) : present (some v) = some v := by
  have hnull : v ≠ .null := by
    rintro rfl
    cases hv
  simp [present, Option.filter_some, hnull]

/-- A true value of a text field is a text that is not empty. -/
theorem optionalText_truthy {v : Json} (hv : v.truthy) {r : Option String}
    (h : optionalText (some v) = .ok r) : ∃ t, r = some t ∧ t ≠ "" := by
  unfold optionalText at h
  rw [present_of_truthy hv] at h
  cases v with
  | str s =>
    obtain rfl := Except.ok.inj h
    exact ⟨s, rfl, by simpa [Json.truthy_str] using hv⟩
  | null => cases h
  | bool b => cases h
  | num lexeme => cases h
  | arr items => cases h
  | obj fields => cases h

theorem settles_payloadOf {claims : Claims} {profile : Json} {payload : TokenPayload}
    (h : payloadOf claims profile = .ok payload) : Settles payload := by
  unfold payloadOf at h
  extract_lets sub permissions language rest at h
  split_ifs at h with hsub
  · obtain ⟨_, hthrow, -⟩ := Fallible.bind_eq_ok.mp h
    exact absurd hthrow Fallible.not_throw_eq_ok
  · obtain ⟨userType, htype, h⟩ := Fallible.bind_eq_ok.mp h
    obtain ⟨t, rfl, ht⟩ := optionalText_truthy (truthy_resolvedUserType claims profile) htype
    iterate 8 obtain ⟨_, -, h⟩ := Fallible.bind_eq_ok.mp h
    obtain rfl := Fallible.pure_eq_ok.mp h
    exact ⟨t, rfl, .inr ⟨ht, rfl, rfl⟩⟩

theorem settles_employeeFallback {claims : Claims} (h : isStaffType claims.userType) :
    Settles (employeeFallback claims) := by
  have htype : claims.userType = some (.str "employee") ∨ claims.userType = some (.str "admin") := by
    simpa [isStaffType] using h
  rcases htype with htype | htype
  · exact ⟨"employee", by rw [employeeFallback, htype]; rfl, .inl (by decide)⟩
  · exact ⟨"admin", by rw [employeeFallback, htype]; rfl, .inl (by decide)⟩

/-- Every entry of the cache settles who the user is. -/
def Settled (cache : Option CacheEntry) : Prop := ∀ entry ∈ cache, Settles entry.payload

theorem settled_setex {call : Call} {ttl : ℚ} {payload : TokenPayload} {cache : Option CacheEntry}
    (hcache : Settled cache) (h : Settles payload) : Settled (setex call ttl payload cache) := by
  unfold setex
  split_ifs
  · exact hcache
  · intro entry hentry
    obtain rfl := Option.some.inj hentry
    exact h

/-- The payload of a verdict settles who the user is. -/
def Verdict.Settled (claims : Claims) : Verdict → Prop
  | .failed _ => True
  | .employeeMissing => Settles (employeeFallback claims)
  | .accepted payload => Settles payload

/-- So do the payload a call returns and the entry it leaves. -/
structure SettledResult (result : Except AuthFailure TokenPayload × Option CacheEntry) : Prop where
  returned : ∀ payload ∈ result.1.toOption, Settles payload
  cached : Settled result.2

theorem settled_askUshauth {claims : Claims} {replies : Replies} :
    (askUshauth claims replies).Settled claims := by
  unfold askUshauth
  cases replies.profile with
  | unreachable => trivial
  | response status body =>
    dsimp only
    split_ifs with h1 h2 h3
    · trivial
    · exact settles_employeeFallback h2.2
    · cases body with
      | none => trivial
      | some data =>
        dsimp only
        cases hpayload : payloadOf claims (withEmployee claims replies
            (unwrap ["data", "result", "user", "customer"] data)) with
        | ok payload => exact settles_payloadOf hpayload
        | error e => trivial
    · trivial

theorem settledResult_error {e : AuthFailure} {cache : Option CacheEntry} (hcache : Settled cache) :
    SettledResult (.error e, cache) where
  returned _ h := by cases h
  cached := hcache

theorem settledResult_ok {payload : TokenPayload} {cache : Option CacheEntry}
    (h : Settles payload) (hcache : Settled cache) : SettledResult (.ok payload, cache) where
  returned returned hreturned := by
    obtain rfl := Option.some.inj hreturned
    exact h
  cached := hcache

theorem settled_uncached {claims : Claims} {call : Call} {cache : Option CacheEntry}
    (hcache : Settled cache) : SettledResult (validateUncached claims call cache) := by
  have hverdict : (askUshauth claims call.replies).Settled claims := settled_askUshauth
  unfold validateUncached
  cases h : askUshauth claims call.replies with
  | failed e => exact settledResult_error hcache
  | employeeMissing =>
    rw [h] at hverdict
    exact settledResult_ok hverdict (settled_setex hcache hverdict)
  | accepted payload =>
    rw [h] at hverdict
    dsimp only
    cases timeToLive claims.expiry call.time with
    | none => exact settledResult_error hcache
    | some ttl => exact settledResult_ok hverdict (settled_setex hcache hverdict)

theorem settles_lookup {call : Call} {cache : Option CacheEntry} {payload : TokenPayload}
    (hcache : Settled cache) (h : lookup call cache = some payload) : Settles payload := by
  unfold lookup at h
  split_ifs at h
  obtain ⟨entry, hentry, rfl⟩ := Option.map_eq_some_iff.mp h
  exact hcache entry (Option.filter_eq_some_iff.mp hentry).1

theorem settled_validate {claims : Claims} {call : Call} {cache : Option CacheEntry}
    (hcache : Settled cache) : SettledResult (validateUserWithUshauth claims call cache) := by
  unfold validateUserWithUshauth
  cases hlookup : lookup call cache with
  | some payload => exact settledResult_ok (settles_lookup hcache hlookup) hcache
  | none =>
    dsimp only
    cases claims.expiry with
    | absent => exact settled_uncached hcache
    | never => exact settled_uncached hcache
    | past => exact settledResult_error hcache
    | mistyped => exact settledResult_error hcache
    | «at» exp =>
      dsimp only
      split_ifs
      · exact settledResult_error hcache
      · exact settled_uncached hcache

theorem settled_calls (claims : Claims) (calls : List Call) :
    Settled (Runs.run (fun cache call => (validateUserWithUshauth claims call cache).2) none calls) := by
  have hnone : Settled none := fun _ hentry => by cases hentry
  have hstep : ∀ (cache : Option CacheEntry) (call : Call), Settled cache →
      Settled ((fun cache call => (validateUserWithUshauth claims call cache).2) cache call) :=
    fun cache call hcache => (settled_validate hcache).cached
  exact (Runs.always_of_step hstep hnone calls).last

end Security

namespace Voucher

variable {settings : Settings} {decode : String → Option Json} {voucherId : Uuid}
  {body : UpdateVoucherDeliveryStatusRequest} {req : ApiRequest} {d : Db}

theorem settles_ushauthAnswer {earlier : List Security.Call} {call : Security.Call}
    {payload : Security.TokenPayload} (h : ushauthAnswer decode earlier call req = some payload) :
    Security.Settles payload := by
  unfold ushauthAnswer at h
  obtain ⟨token, -, h⟩ := Option.bind_eq_some_iff.mp h
  exact (Security.settled_validate (Security.settled_calls _ earlier)).returned payload h

/-- Headers and claims do not make an employee of a user ushauth knows as another. -/
theorem not_passes_of_unconfirmed {payload : Security.TokenPayload} {r : Requester}
    (hsettles : Security.Settles payload) (h : ¬ ConfirmedStaff (some payload)) :
    ¬ PassesAsEmployee (withPayload (some payload) r) := by
  obtain ⟨t, htype, hkind⟩ := hsettles
  have hother : cleaned t ∉ STAFF_TYPES := fun hmem => h ⟨payload, rfl, .inl ⟨t, htype, hmem⟩⟩
  rcases hkind with hemployee | ⟨hne, hstaff, hsuper⟩
  · have hmem : cleaned t ∈ STAFF_TYPES := by
      simp only [List.mem_cons, List.not_mem_nil, or_false] at hemployee
      rcases hemployee with rfl | rfl <;> decide +kernel
    exact absurd hmem hother
  · obtain ⟨staff, hstaff⟩ := Option.isSome_iff_exists.mp hstaff
    obtain ⟨super, hsuper⟩ := Option.isSome_iff_exists.mp hsuper
    have hnostaff : staff = false := by
      by_contra htrue
      exact h ⟨payload, rfl, .inr (.inl (by simpa [hstaff] using htrue))⟩
    have hnosuper : super = false := by
      by_contra htrue
      exact h ⟨payload, rfl, .inr (.inr (by simpa [hsuper] using htrue))⟩
    rintro ⟨actor, hpass⟩
    have htext : (withPayload (some payload) r).userType = .str t := by
      simp [withPayload, Text.truthy, htype, hne, Json.ofText]
    have hname : userTypeName (withPayload (some payload) r).userType = .ok (cleaned t) := by
      rw [htext]
      rfl
    unfold checkEmployeeStatusUpdatePermission at hpass
    rw [hname] at hpass
    simp [withPayload, hstaff, hsuper, hnostaff, hnosuper, hother, bind, Except.bind, pure,
      Except.pure] at hpass

/-- A public request without the token of an application and the secret code changes nothing. -/
theorem ensures_publicUpdate (info : String) (env : ℕ → Env)
    (h : ¬ ProvesSecret settings voucherId body req d) :
    Transactions.atomically env (publicUpdate settings info voucherId body req) d = d := by
  refine Transactions.Ensures.atomically (Q := fun d' => d' = d) ?_ env
  unfold publicUpdate
  rw [Transactions.ensures_bind_raiseIf]
  refine ⟨fun _ => rfl, fun happ => ?_⟩
  rw [Transactions.ensures_bind_raiseIf]
  refine ⟨fun _ => rfl, fun _ => ?_⟩
  rw [Transactions.ensures_bind_query]
  refine ⟨trivial, ?_⟩
  cases hrow : Table.get d.giftVouchers voucherId with
  | none => rfl
  | some row =>
    dsimp only
    rw [Transactions.ensures_bind_raiseIf]
    refine ⟨fun _ => rfl, fun hmatch => ?_⟩
    exact absurd ⟨not_not.mp happ, row, hrow, not_not.mp hmatch⟩ h

/-- A change needs the permission of an employee, or the token of an application and the secret code. -/
theorem passes_or_provesSecret {answer : Option Security.TokenPayload} {env : ℕ → Env}
    (h : Transactions.atomically env
      (updateVoucherDeliveryStatus settings decode answer voucherId body req) d ≠ d) :
    PassesAsEmployee (withPayload answer (unverifiedRequester decode req)) ∨
      ProvesSecret settings voucherId body req d := by
  unfold updateVoucherDeliveryStatus at h
  by_contra hneither
  rw [not_or] at hneither
  apply h
  cases hcheck : checkEmployeeStatusUpdatePermission
      (withPayload answer (unverifiedRequester decode req)) with
  | error e => rfl
  | ok result =>
    obtain ⟨isEmployee, info⟩ := result
    cases isEmployee with
    | true => exact absurd ⟨info, hcheck⟩ hneither.1
    | false => exact ensures_publicUpdate info env hneither.2

/-- Where ushauth does not say that the Bearer token is that of an employee, a staff or an admin user, the
delivery status of a voucher changes only for a request with a valid application token and the secret code of
the voucher, or, where ushauth accepts no token, for one whose headers and claims describe an employee with
the permission. -/
theorem delivery_change_guarded (settings : Settings) (decode : String → Option Json)
    (earlier : List Security.Call) (call : Security.Call) (voucherId : Uuid)
    (body : UpdateVoucherDeliveryStatusRequest) (req : ApiRequest) (env : ℕ → Env) (d : Db) (id : Uuid)
    (hunconfirmed : ¬ ConfirmedStaff (ushauthAnswer decode earlier call req))
    (hchange : deliveryOf id (Transactions.atomically env (updateVoucherDeliveryStatus settings decode
      (ushauthAnswer decode earlier call req) voucherId body req) d) ≠ deliveryOf id d) :
    ProvesSecret settings voucherId body req d ∨
      (ushauthAnswer decode earlier call req = none ∧
        PassesAsEmployee (unverifiedRequester decode req)) := by
  have hmoved := ne_of_apply_ne (deliveryOf id) hchange
  rcases passes_or_provesSecret hmoved with hpass | hsecret
  · cases hanswer : ushauthAnswer decode earlier call req with
    | none =>
      rw [hanswer] at hpass
      exact .inr ⟨rfl, hpass⟩
    | some payload =>
      rw [hanswer] at hpass hunconfirmed
      exact absurd hpass (not_passes_of_unconfirmed (settles_ushauthAnswer hanswer) hunconfirmed)
  · exact .inl hsecret

/-- A request that names its sender an admin in a header. -/
def adminHeader : ApiRequest := { headers := [("x-user-type", "admin")] }

def readyToGo : UpdateVoucherDeliveryStatusRequest := { status := "ready_to_go" }

/-- A voucher whose gift is ordered. -/
def orderedGift : Db :=
  { giftVouchers := [
      { id := 1, senderId := 7, totalAmount := 10000, deliveryStatus := some .ordered,
        secretCode := some "829104" }] }

def noCall : Security.Call := { time := 0, replies := { profile := .unreachable } }

theorem delivery_change_guarded_example :
    ProvesSecret {} 1 readyToGo adminHeader orderedGift ∨
      (ushauthAnswer (fun _ => none) [] noCall adminHeader = none ∧
        PassesAsEmployee (unverifiedRequester (fun _ => none) adminHeader)) :=
  delivery_change_guarded {} (fun _ => none) [] noCall 1 readyToGo adminHeader (fun _ => {})
    orderedGift 1 (by rintro ⟨payload, h, -⟩; cases h) (by decide +kernel)

/-- The header alone is enough. -/
theorem delivery_change_by_header :
    ¬ ConfirmedStaff (ushauthAnswer (fun _ => none) [] noCall adminHeader) ∧
      deliveryOf 1 (Transactions.atomically (fun _ => {}) (updateVoucherDeliveryStatus {}
        (fun _ => none) (ushauthAnswer (fun _ => none) [] noCall adminHeader) 1 readyToGo
        adminHeader) orderedGift) ≠ deliveryOf 1 orderedGift ∧
      ¬ ProvesSecret {} 1 readyToGo adminHeader orderedGift := by
  refine ⟨?_, by decide +kernel, ?_⟩
  · rintro ⟨payload, h, -⟩
    cases h
  · rintro ⟨happ, -⟩
    exact absurd happ (by decide +kernel)

end Voucher
