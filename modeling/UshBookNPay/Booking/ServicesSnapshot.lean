import UshBookNPay.Booking.Models
import UshBookNPay.Lib.FixedPoint
import UshBookNPay.Voucher.ServicesSnapshot

/-!
# The booked services

The entries of `bookings.services` and the values read from dicts of any shape.
-/

open Voucher (fieldOr)

namespace Booking

def MAX_SERVICES_PER_BOOKING : ℕ := 10

/-! ## Values of a dict -/

/-- `_to_str_id` of a value of a dict. -/
def toStrId (value : Option Json) : Option String :=
  match value with
  | some (.str s) => if Text.strip s = "" then none else some (Text.strip s)
  | _ => none

/-- `int(text)` -/
def parseInteger (text : String) : Option ℤ :=
  let cs := (Text.strip text).toList
  let negative := cs.head? = some '-'
  let digits := if cs.head? = some '-' ∨ cs.head? = some '+' then cs.tail else cs
  if digits ≠ [] ∧ digits.all Char.isDigit then
    some (if negative then -(digitsValue digits : ℤ) else digitsValue digits)
  else none

/-- `_to_int`: 0 for what is no integer. -/
def toInt (value : Option Json) : ℤ :=
  match value with
  | some (.num lexeme) =>
    ((parseDecimal lexeme).map fun x => x.unscaled.tdiv (10 ^ x.decimals)).getD 0
  | some (.str s) => (parseInteger s).getD 0
  | some (.bool b) => if b then 1 else 0
  | _ => 0

/-- `_to_decimal`: 0 for what is no number. -/
def toDec (value : Option Json) : ℚ :=
  match value with
  | some (.num lexeme) => ((parseDecimal lexeme).map Decimal.value).getD 0
  | some (.str s) => ((parseDecimal s).map Decimal.value).getD 0
  | _ => 0

/-- `_money`: a number to three decimals, as the number of thousandths. -/
def money (value : ℚ) : Fils := FixedPoint.roundHalfEven (value * 1000)

/-! ## Services -/

/-- `build_service_entry` with the price and the duration given. -/
def buildServiceEntry (serviceId : Option Uuid) (serviceData : Json) (arrangementId : Option Uuid)
    (arrangementData : Json) (basePrice : Option Fils) (durationMinutes : ℤ) : ServiceEntry :=
  { serviceId := serviceId
    serviceData := serviceData
    serviceArrangementId := arrangementId
    serviceArrangementData := arrangementData
    basePrice := basePrice.getD (money (toDec (serviceData.field? "base_price")))
    durationMinutes := durationMinutes }

/-- `get_booking_services`: the entries, or the one of the legacy columns. -/
def getBookingServices (b : BookingRow) : List ServiceEntry :=
  if b.services ≠ [] then b.services
  else if b.serviceId = none ∧ b.serviceData = none then []
  else [buildServiceEntry b.serviceId (b.serviceData.getD (.obj [])) b.serviceArrangementId
    (b.serviceArrangementData.getD (.obj [])) b.basePrice b.durationMinutes]

def totalServicesPrice (entries : List ServiceEntry) : Fils := (entries.map (·.basePrice)).sum

def totalServicesDuration (entries : List ServiceEntry) : ℤ :=
  (entries.map (·.durationMinutes)).sum

/-- `primary_fields`: the legacy columns of the first service. -/
def primaryFields (entries : List ServiceEntry) (b : BookingRow) : BookingRow :=
  match entries with
  | [] => b
  | first :: _ =>
    { b with
      serviceId := first.serviceId
      serviceData := some first.serviceData
      serviceArrangementId := first.serviceArrangementId
      serviceArrangementData := some first.serviceArrangementData }

/-! ## Add-ons -/

def addonId (addon : Json) : String :=
  ((toStrId (addon.field? "addon_id")).or (toStrId (addon.field? "id"))).getD ""

def addonName (addon : Json) : String :=
  match addon.field? "name" with
  | some name => if name.truthy then name.text else ""
  | none => ""

def addonPrice (addon : Json) : Fils := money (toDec (addon.field? "price"))

def addonDuration (addon : Json) : ℤ :=
  toInt (fieldOr (addon.field? "duration_minutes") (addon.field? "duration"))

/-- `normalise_addons` -/
def normaliseAddons (addons : List Json) : List Json :=
  addons.map fun a => .obj
    [("addon_id", .str (addonId a)), ("name", .str (addonName a)),
     ("price", .str (str (addonPrice a))), ("duration_minutes", .num (toString (addonDuration a)))]

end Booking
