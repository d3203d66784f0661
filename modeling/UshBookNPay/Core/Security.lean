import UshBookNPay.Common.Json

/-!
# User tokens

`validate_user_with_ushauth`: the profile ushauth has for a Bearer token, kept in Redis for a while under
the hash of the token. The claims of the token are read without their signature.
-/

namespace Security

/-! ## Claims -/

/-- The claim `exp` as the code compares it with the time. -/
inductive Expiry where
  | absent
  | at (time : ℚ)
  /-- `-Infinity` -/
  | past
  /-- `Infinity` or `NaN`: no time reaches it, and `int` raises on what remains -/
  | never
  /-- the comparison raises -/
  | mistyped
  deriving DecidableEq

def expiryOf : Option Json → Expiry
  | none | some .null => .absent
  | some (.bool b) => .at (if b then 1 else 0)
  | some (.num lexeme) =>
    if lexeme = "-Infinity" then .past
    else match parseDecimal lexeme with
      | some x => .at x.value
      | none => .never
  | some (.str _) | some (.arr _) | some (.obj _) => .mistyped

/-- The claims the code reads. -/
structure Claims where
  userType : Option Json := none
  userId : String := ""
  expiry : Expiry := .absent
  deriving DecidableEq

/-- The first of some values that is true. -/
def firstTruthy (values : List (Option Json)) : Option Json :=
  (values.find? fun v => v.any Json.truthy).join

/-- The claims of a token from what its payload decodes to; `none` is an exception. -/
def readClaims (decoded : Option Json) : Claims :=
  match decoded with
  | some (.obj fields) =>
    { userType := (Json.obj fields).field? "user_type"
      userId := ((firstTruthy [(Json.obj fields).field? "user_id",
        (Json.obj fields).field? "sub"]).map Json.text).getD ""
      expiry := expiryOf ((Json.obj fields).field? "exp") }
  | _ => {}

/-! ## The payload -/

structure TokenPayload where
  sub : String
  userType : Option String := some "customer"
  phoneNumber : Option String := none
  email : Option String := none
  firstName : Option String := none
  lastName : Option String := none
  avatar : Option String := none
  dob : Option String := none
  gender : Option String := none
  languagePreference : String := "en"
  /-- a list of texts or a dict -/
  permissions : Option Json := none
  role : Option String := none
  isStaff : Option Bool := none
  isSuperuser : Option Bool := none
  codenames : Option (List String) := none
  deriving DecidableEq

inductive AuthFailure where
  /-- `AuthenticationError` -/
  | authentication (message : String)
  /-- another exception -/
  | raised
  deriving DecidableEq

/-- A value other than `None`. -/
def present (v : Option Json) : Option Json := v.filter (· ≠ .null)

/-- A field of the type `str | None`. -/
def optionalText (v : Option Json) : Except AuthFailure (Option String) :=
  match present v with
  | none => .ok none
  | some (.str s) => .ok (some s)
  | some _ => .error .raised

def textItem : Json → Except AuthFailure String
  | .str s => .ok s
  | _ => .error .raised

/-- A field of the type `list[str] | dict[str, Any] | None`. -/
def checkPermissions (v : Option Json) : Except AuthFailure (Option Json) :=
  match present v with
  | none => .ok none
  | some (.arr items) => (items.mapM textItem).map fun _ => some (.arr items)
  | some (.obj fields) => .ok (some (.obj fields))
  | some _ => .error .raised

/-- `profile` in its envelope, under the first of the keys that holds a dict. -/
def unwrap (keys : List String) (data : Json) : Json :=
  ((keys.filterMap data.field?).find? fun j => j matches .obj _).getD data

/-- A field of the permissions, where they are a dict. -/
def permissionField (permissions : Option Json) (key : String) : Option Json :=
  permissions.bind (·.field? key)

/-- The codenames of the permissions. -/
def rawCodenames (permissions : Option Json) : Option (List Json) :=
  match permissionField permissions "codenames" with
  | some (.arr items) => some items
  | _ => none

/-- `str(v).strip().lower()` -/
def normalised (v : Json) : String := Text.lower (Text.strip v.text)

/-- The user type of a profile, and of the claims where the profile has none. -/
def resolvedUserType (claims : Claims) (profile : Json) : Json :=
  (firstTruthy [profile.field? "user_type",
    permissionField (profile.field? "permissions") "user_type", claims.userType]).getD
      (.str "customer")

/-- The flag `is_superuser` of a profile. -/
def superuserFlag (profile : Json) : Bool :=
  let permissions := profile.field? "permissions"
  let role := (present (profile.field? "role")).or (permissionField permissions "role_name")
  match (present (profile.field? "is_superuser")).or
      (present (permissionField permissions "is_superuser")) with
  | some flag => flag.truthy
  | none => (role.any fun r => r.truthy ∧ normalised r ∈ ["administrator", "admin"]) ||
      rawCodenames permissions = some [.str "*"]

/-- The flag `is_staff` of a profile. -/
def staffFlag (claims : Claims) (profile : Json) : Bool :=
  match (present (profile.field? "is_staff")).or
      (present (permissionField (profile.field? "permissions") "is_staff")) with
  | some flag => flag.truthy
  | none => resolvedUserType claims profile ∈
      [Json.str "employee", .str "staff", .str "admin", .str "superuser"] || superuserFlag profile

/-- The payload of a profile. -/
def payloadOf (claims : Claims) (profile : Json) : Except AuthFailure TokenPayload := do
  let sub := if claims.userId ≠ "" then claims.userId
    else ((firstTruthy (["user_id", "id", "customer_id", "sub", "uuid", "pk"].map
      profile.field?)).map Json.text).getD ""
  if sub = "" then
    throw (.authentication "Invalid user profile returned from auth service.")
  let permissions := profile.field? "permissions"
  let language := (firstTruthy [profile.field? "language_preference", profile.field? "language"]).getD
    (.str "en")
  pure
    { sub := sub
      userType := ← optionalText (some (resolvedUserType claims profile))
      phoneNumber := ← optionalText (profile.field? "phone_number")
      email := ← optionalText (profile.field? "email")
      firstName := ← optionalText (profile.field? "first_name")
      lastName := ← optionalText (profile.field? "last_name")
      avatar := (firstTruthy (["avatar", "image", "profile_picture", "avatar_url"].map
        profile.field?)).map Json.text
      dob := (firstTruthy [profile.field? "dob"]).map Json.text
      gender := ← optionalText (profile.field? "gender")
      languagePreference := if Text.startsWith "ar" (normalised language) then "ar" else "en"
      permissions := ← checkPermissions permissions
      role := ← optionalText ((present (profile.field? "role")).or
        (permissionField permissions "role_name"))
      isStaff := some (staffFlag claims profile)
      isSuperuser := some (superuserFlag profile)
      codenames := ← (rawCodenames permissions).mapM (·.mapM textItem) }

/-! ## Validation -/

/-- A reply of ushauth; a body that is not JSON is `none`. -/
inductive Reply where
  | unreachable
  | response (status : ℕ) (body : Option Json)
  deriving DecidableEq

/-- The replies of ushauth to one call: to the request for the profile, and to the second one for the
profile of an employee. -/
structure Replies where
  profile : Reply
  employee : Reply := .unreachable
  deriving DecidableEq

/-- The entry of a token in Redis, which drops it at a time. -/
structure CacheEntry where
  payload : TokenPayload
  dropsAt : ℚ
  deriving DecidableEq

/-- Whether Redis fails to answer the lookup or to store an entry. -/
structure Faults where
  get : Bool := false
  setex : Bool := false
  deriving DecidableEq

/-- A call of `validate_user_with_ushauth` for the token. -/
structure Call where
  time : ℚ
  replies : Replies
  faults : Faults := {}
  deriving DecidableEq

def isStaffType (v : Option Json) : Bool := v = some (.str "employee") ∨ v = some (.str "admin")

/-- What ushauth's replies come to. -/
inductive Verdict where
  | failed (e : AuthFailure)
  /-- there is no employee for the token -/
  | employeeMissing
  | accepted (payload : TokenPayload)
  deriving DecidableEq

/-- The profile with the permissions of an employee, where ushauth has one. -/
def withEmployee (claims : Claims) (replies : Replies) (profile : Json) : Json :=
  if isStaffType (profile.field? "user_type") ∧ ¬ isStaffType claims.userType then
    match replies.employee with
    | .response status (some body) =>
      if 200 ≤ status ∧ status < 300 then
        match unwrap ["data", "result"] body with
        | .obj fields => .obj fields
        | _ => profile
      else profile
    | _ => profile
  else profile

/-- The calls to ushauth and the reading of its replies. -/
def askUshauth (claims : Claims) (replies : Replies) : Verdict :=
  match replies.profile with
  | .unreachable => .failed (.authentication "Auth service unreachable.")
  | .response status body =>
    if status = 401 ∨ status = 403 then .failed (.authentication "Invalid or expired token.")
    else if status = 404 ∧ isStaffType claims.userType then .employeeMissing
    else if ¬ (200 ≤ status ∧ status < 300) then
      .failed (.authentication "Failed to validate user token with auth service.")
    else match body with
      | none => .failed (.authentication "Auth service unreachable.")
      | some data =>
        match payloadOf claims
            (withEmployee claims replies (unwrap ["data", "result", "user", "customer"] data)) with
        | .ok payload => .accepted payload
        | .error e => .failed e

/-- The payload of an employee without a profile. -/
def employeeFallback (claims : Claims) : TokenPayload where
  sub := claims.userId
  userType := some (((claims.userType.filter Json.truthy).map Json.text).getD "employee")
  codenames := some []

/-- The time to live of the payload of a profile; `none` where `int` raises. -/
def timeToLive (expiry : Expiry) (now : ℚ) : Option ℚ :=
  match expiry with
  | .absent | .past | .mistyped => some 60
  | .never => none
  | .at exp =>
    -- `int` cuts the fraction off
    let remaining := if 0 ≤ exp - now then ⌊exp - now⌋ else ⌈exp - now⌉
    some (if 0 < remaining then min 60 remaining else 60)

/-- `redis.setex` -/
def setex (call : Call) (ttl : ℚ) (payload : TokenPayload) (cache : Option CacheEntry) :
    Option CacheEntry :=
  if call.faults.setex then cache else some { payload := payload, dropsAt := call.time + ttl }

/-- The entry Redis still has. -/
def lookup (call : Call) (cache : Option CacheEntry) : Option TokenPayload :=
  if call.faults.get then none
  else (cache.filter fun entry => call.time < entry.dropsAt).map CacheEntry.payload

/-- A call the cache does not answer. -/
def validateUncached (claims : Claims) (call : Call) (cache : Option CacheEntry) :
    Except AuthFailure TokenPayload × Option CacheEntry :=
  match askUshauth claims call.replies with
  | .failed e => (.error e, cache)
  | .employeeMissing =>
    (.ok (employeeFallback claims), setex call 30 (employeeFallback claims) cache)
  | .accepted payload =>
    match timeToLive claims.expiry call.time with
    | some ttl => (.ok payload, setex call ttl payload cache)
    | none => (.error .raised, cache)

def validateUserWithUshauth (claims : Claims) (call : Call) (cache : Option CacheEntry) :
    Except AuthFailure TokenPayload × Option CacheEntry :=
  match lookup call cache with
  | some payload => (.ok payload, cache)
  | none =>
    match claims.expiry with
    | .at exp =>
      if exp ≤ call.time then (.error (.authentication "Invalid or expired token."), cache)
      else validateUncached claims call cache
    | .past => (.error (.authentication "Invalid or expired token."), cache)
    | .mistyped => (.error .raised, cache)
    | .absent | .never => validateUncached claims call cache

/-! ## Expired tokens -/

/-- The call does not return a payload if the token has expired. -/
def RefusedOnceExpired (claims : Claims) (exp : ℚ) (cache : Option CacheEntry) (call : Call) : Prop :=
  exp ≤ call.time → ¬ (validateUserWithUshauth claims call cache).1.isOk

/-- How long before a token expires its payload is to be stored: a profile one second, the fallback for
an employee thirty. -/
def Verdict.margin : Verdict → ℚ
  | .failed _ => 0
  | .employeeMissing => 30
  | .accepted _ => 1

/-- Where the call stores a payload, the token lasts for as long as Redis keeps that. -/
def StoredInTime (claims : Claims) (exp : ℚ) (cache : Option CacheEntry) (call : Call) : Prop :=
  lookup call cache = none → call.time < exp → call.faults.setex = false →
    call.time + (askUshauth claims call.replies).margin ≤ exp

instance (claims : Claims) (exp : ℚ) (cache : Option CacheEntry) (call : Call) :
    Decidable (StoredInTime claims exp cache call) :=
  inferInstanceAs (Decidable (_ → _ → _ → _))

end Security
