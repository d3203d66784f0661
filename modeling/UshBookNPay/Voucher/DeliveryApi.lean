import UshBookNPay.Core.Security
import UshBookNPay.Lib.Runs
import UshBookNPay.Voucher.VoucherUpdate

/-!
# Updating the delivery of a voucher

`update_voucher_delivery_status` of the API. Who asks is read from gateway headers, from the claims of the
Bearer token, which are not verified, and from what ushauth says of the token, each over the one before.
Who is no employee needs the token of an application and the secret code of the voucher.
-/

open Transactions.Prog (query raiseIf)

namespace Voucher

/-! ## Requests -/

/-- A request, with the names of its headers in lower case. -/
structure ApiRequest where
  headers : List (String × String) := []
  query : List (String × String) := []
  deriving DecidableEq

/-- `request.headers.get(name)` -/
def header (req : ApiRequest) (name : String) : Option String := req.headers.lookup (Text.lower name)

/-- The first of some texts that is there and not empty. -/
def firstText (values : List (Option String)) : Option String := (values.find? Text.truthy).join

def firstHeader (req : ApiRequest) (names : List String) : Option String :=
  firstText (names.map (header req))

def bearerToken (req : ApiRequest) : Option String :=
  (firstHeader req ["Authorization", "authorization"]).bind fun value =>
    if Text.startsWith "Bearer " value then
      some (Text.strip (String.ofList (value.toList.drop "Bearer ".length)))
    else none

/-- `UpdateVoucherDeliveryStatusRequest` after its validation -/
structure UpdateVoucherDeliveryStatusRequest where
  status : String
  secretCode : Option String := none
  deriving DecidableEq

/-! ## Who asks -/

/-- What a request says about who sends it. -/
structure Requester where
  userType : Json := .null
  permissions : Json := .null
  role : Json := .null
  isSuperuser : Bool := false
  isStaff : Bool := false
  sub : Option String := none
  deriving DecidableEq

def fromHeaders (req : ApiRequest) : Requester where
  userType := .ofText (firstHeader req ["X-User-Type", "x-user-type"])
  permissions := .ofText (firstHeader req ["X-Permissions", "x-permissions",
    "X-Employee-Permissions", "x-employee-permissions"])
  role := .ofText (firstHeader req ["X-Role", "x-role", "X-Employee-Role", "x-employee-role"])
  sub := firstHeader req ["X-Employee-Id", "x-employee-id", "X-User-Id", "x-user-id"]

/-- The claims of a token, as far as the headers leave them open. -/
def withClaims (decoded : Option Json) (r : Requester) : Requester :=
  match decoded with
  | some (.obj fields) =>
    let claim := (Json.obj fields).field?
    { userType := if r.userType.truthy then r.userType else (claim "user_type").getD .null
      permissions := if r.permissions = .null then (claim "permissions").getD .null
        else r.permissions
      role := if r.role.truthy then r.role
        else (Security.firstTruthy [claim "role", claim "role_name"]).getD .null
      isSuperuser := ((claim "is_superuser").map Json.truthy).getD r.isSuperuser
      isStaff := ((claim "is_staff").map Json.truthy).getD r.isStaff
      sub := if Text.truthy r.sub then r.sub
        else some (((Security.firstTruthy [claim "sub", claim "user_id", claim "id"]).map
          Json.text).getD "") }
  | _ => r

/-- What ushauth says of the token, where it accepts it. -/
def withPayload (answer : Option Security.TokenPayload) (r : Requester) : Requester :=
  match answer with
  | some payload =>
    { userType := if Text.truthy payload.userType then .ofText payload.userType else r.userType
      permissions := payload.permissions.getD r.permissions
      role := if Text.truthy payload.role then .ofText payload.role else r.role
      isSuperuser := payload.isSuperuser.getD r.isSuperuser
      isStaff := payload.isStaff.getD r.isStaff
      sub := if payload.sub = "" then r.sub else some payload.sub }
  | none => r

/-- What the headers and the unverified claims say. -/
def unverifiedRequester (decode : String → Option Json) (req : ApiRequest) : Requester :=
  match bearerToken req with
  | some token => withClaims (decode token) (fromHeaders req)
  | none => fromHeaders req

/-! ## Permissions -/

def STATUS_UPDATE_PERMISSIONS : List String :=
  ["status_update", "update_status", "delivery_status", "update_delivery_status",
    "voucher.update_status", "voucher.delivery_status", "vouchers.delivery_status",
    "vouchers:update", "vouchers.*", "*"]

/-- `s.strip().lower()` -/
def cleaned (s : String) : String := Text.lower (Text.strip s)

/-- Whether permissions other than `None` contain that of the update. -/
def permissionsGrant : Json → Bool
  | .arr items => items.any fun p => cleaned p.text ∈ STATUS_UPDATE_PERMISSIONS
  | .str s => (s.toList.splitOn ',').any fun p =>
      cleaned (String.ofList p) ∈ STATUS_UPDATE_PERMISSIONS
  | .obj fields =>
    ["status_update", "delivery_status", "can_update_status", "update_delivery_status"].any
        (fun key => ((Json.obj fields).field? key).any Json.truthy) ||
      fields.any fun kv => kv.2.truthy ∧ cleaned kv.1 ∈ STATUS_UPDATE_PERMISSIONS
  | .null | .bool _ | .num _ => false

/-- `_has_status_update_permission`, for a user type in its normal form -/
def hasStatusUpdatePermission (userType : String) (r : Requester) : Bool :=
  if r.isSuperuser ∨ userType ∈ ["admin", "superuser"] then true
  else if userType ∈ ["employee", "staff"] ∨ r.isStaff then
    if r.permissions ≠ .null then permissionsGrant r.permissions
    else ¬ (r.role.truthy ∧ Text.isIn "therapist" (cleaned r.role.text))
  else false

/-- `(user_type or "").strip().lower()`, which raises where the type is no text. -/
def userTypeName (userType : Json) : Except Error String :=
  match userType with
  | .str s => .ok (cleaned s)
  | j => if j.truthy then .error (.attributeError "strip") else .ok ""

def STAFF_TYPES : List String := ["employee", "staff", "admin", "superuser"]

/-- Whether the requester may update the delivery as an employee, and who it is or why not. -/
def checkEmployeeStatusUpdatePermission (r : Requester) : Except Error (Bool × String) := do
  let userType ← userTypeName r.userType
  if userType ∈ STAFF_TYPES ∨ r.isStaff ∨ r.isSuperuser then
    if hasStatusUpdatePermission userType r then
      pure (true, (Text.or r.sub (some "employee")).getD "")
    else pure (false, "employee_missing_permission")
  else pure (false, "not_an_employee")

/-! ## Applications -/

structure Settings where
  ushspaToken : Option String := none
  ushToken : Option String := none
  deriving DecidableEq

def getUshspaToken (req : ApiRequest) : Option String :=
  firstText ((["USH_TOKEN", "ush_token", "USH-TOKEN", "ush-token", "X-USH-TOKEN", "x-ush-token",
      "X-USHSPA-TOKEN", "x-ushspa-token", "USHSPA-TOKEN", "ushspa-token", "USHSPA_TOKEN",
      "ushspa_token"].map (header req)) ++
    ["ush_token", "USH_TOKEN", "token", "ushspa_token", "USHSPA_TOKEN"].map
      fun key => req.query.lookup key)

def verifyUshspaToken (settings : Settings) (provided : String) : Bool :=
  ([settings.ushspaToken, settings.ushToken].filter Text.truthy).any (· = some provided)

/-- The request carries a valid application token. -/
def HasAppToken (settings : Settings) (req : ApiRequest) : Prop :=
  (getUshspaToken req).any (verifyUshspaToken settings)

instance (settings : Settings) (req : ApiRequest) : Decidable (HasAppToken settings req) :=
  inferInstanceAs (Decidable (_ = true))

/-- The body has a secret code. -/
def HasSecret (body : UpdateVoucherDeliveryStatusRequest) : Prop :=
  Text.strip (Text.orEmpty body.secretCode) ≠ ""

instance (body : UpdateVoucherDeliveryStatusRequest) : Decidable (HasSecret body) :=
  inferInstanceAs (Decidable (_ ≠ _))

/-- The secret code of the body is that of the voucher. -/
def SecretMatches (v : GiftVoucherRow) (body : UpdateVoucherDeliveryStatusRequest) : Prop :=
  HasSecret body ∧ Text.truthy v.secretCode ∧
    Text.strip (Text.orEmpty v.secretCode) = Text.strip (Text.orEmpty body.secretCode)

instance (v : GiftVoucherRow) (body : UpdateVoucherDeliveryStatusRequest) :
    Decidable (SecretMatches v body) :=
  inferInstanceAs (Decidable (_ ∧ _ ∧ _))

/-! ## The update -/

/-- The voucher with its delivery moved on. -/
def movedDelivery (v : GiftVoucherRow) (newStatus : String) : Except Error DeliveryStatus := do
  let target ← parseDeliveryStatus newStatus
  match v.deliveryStatus with
  | none => pure target
  | some current =>
    if target ∈ DELIVERY_TRANSITIONS current then pure target
    else .error (.validation ("Cannot transition from '" ++ current.value ++ "' to '" ++
      target.value ++ "'."))

/-- `update_delivery_status`; `known` is the voucher where the session has loaded it before. -/
def updateDeliveryStatus (known : Option GiftVoucherRow) (voucherId : Uuid) (newStatus : String) :
    Tx (Orm GiftVoucherRow) := do
  let row ← query fun d => Table.get d.giftVouchers voucherId
  match row with
  | none => throw (.notFound ("Gift voucher " ++ uuidStr voucherId ++ " not found."))
  | some row =>
    let voucher := known.getD row
    match movedDelivery voucher newStatus with
    | .error e => throw e
    | .ok target =>
      flushVoucher ((Orm.ofRow voucher).set fun v => { v with deliveryStatus := some target })

/-- The exceptions of the service as answers of the API. -/
def httpErrors {α : Type} (p : Tx α) : Tx α :=
  tryCatchThe Error p fun e =>
    match e with
    | .notFound message => throw (.http 404 message)
    | .validation message => throw (.http 422 message)
    | e => throw e

def missingPermission : Error := .http 403 "Employee does not have status update permission."

/-- What a public request without the given part is answered. -/
def publicRefusal (employeeInfo : String) (e : Error) : Error :=
  if employeeInfo = "employee_missing_permission" then missingPermission else e

/-- The update for a requester who is no employee with the permission. -/
def publicUpdate (settings : Settings) (employeeInfo : String) (voucherId : Uuid)
    (body : UpdateVoucherDeliveryStatusRequest) (req : ApiRequest) : Tx (Orm GiftVoucherRow) := do
  raiseIf (¬ HasAppToken settings req) (publicRefusal employeeInfo
    (.http 401 "USH_TOKEN / X-USHSPA-TOKEN header is required."))
  raiseIf (¬ HasSecret body) (publicRefusal employeeInfo
    (.http 403 "secret_code is required in request body for public delivery status update."))
  let row ← query fun d => Table.get d.giftVouchers voucherId
  match row with
  | none => throw (.http 404 ("Gift voucher " ++ uuidStr voucherId ++ " not found."))
  | some row => do
    raiseIf (¬ SecretMatches row body) (.http 400 "Invalid secret code.")
    httpErrors (updateDeliveryStatus (some row) voucherId body.status)

/-- The endpoint; `answer` is the payload ushauth has for the Bearer token. -/
def updateVoucherDeliveryStatus (settings : Settings) (decode : String → Option Json)
    (answer : Option Security.TokenPayload) (voucherId : Uuid)
    (body : UpdateVoucherDeliveryStatusRequest) (req : ApiRequest) : Tx (Orm GiftVoucherRow) :=
  match checkEmployeeStatusUpdatePermission
      (withPayload answer (unverifiedRequester decode req)) with
  | .error e => throw e
  | .ok (true, _) => httpErrors (updateDeliveryStatus none voucherId body.status)
  | .ok (false, employeeInfo) => publicUpdate settings employeeInfo voucherId body req

/-! ## Who is an employee -/

/-- What `validate_user_with_ushauth` returns for the Bearer token of the request, after some calls for the
same token; without a token it is not called, and its exceptions are swallowed. -/
def ushauthAnswer (decode : String → Option Json) (earlier : List Security.Call)
    (call : Security.Call) (req : ApiRequest) : Option Security.TokenPayload :=
  (bearerToken req).bind fun token =>
    let claims := Security.readClaims (decode token)
    (Security.validateUserWithUshauth claims call
      (Runs.run (fun cache call => (Security.validateUserWithUshauth claims call cache).2) none
        earlier)).1.toOption

/-- ushauth says that the token is that of an employee, a staff or an admin user. -/
def ConfirmedStaff (answer : Option Security.TokenPayload) : Prop :=
  ∃ payload ∈ answer, (∃ t ∈ payload.userType, cleaned t ∈ STAFF_TYPES) ∨
    payload.isStaff = some true ∨ payload.isSuperuser = some true

/-- The requester passes as an employee with the permission. -/
def PassesAsEmployee (r : Requester) : Prop :=
  ∃ actor, checkEmployeeStatusUpdatePermission r = .ok (true, actor)

/-- The request proves that it may update the voucher. -/
def ProvesSecret (settings : Settings) (voucherId : Uuid)
    (body : UpdateVoucherDeliveryStatusRequest) (req : ApiRequest) (d : Db) : Prop :=
  HasAppToken settings req ∧
    ∃ v, Table.get d.giftVouchers voucherId = some v ∧ SecretMatches v body

/-- The delivery status of a voucher. -/
def deliveryOf (voucherId : Uuid) (d : Db) : Option (Option DeliveryStatus) :=
  (Table.get d.giftVouchers voucherId).map (·.deliveryStatus)

end Voucher
