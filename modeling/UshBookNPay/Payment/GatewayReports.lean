import UshBookNPay.Payment.GatewayParser

/-!
# What a gateway payload reports

The parser reads the status off three flags, the status of the invoice or charge, and the first
transaction. What the payload reports is in the status and in all the transactions.
-/

namespace Payment

/-! ## What the parser reads -/

def responseData (payload : Json) : Json :=
  asDict (firstTrue [payload.field? "data", payload.field? "Data"])

/-- The transactions of a MyFatoorah invoice. -/
def invoiceTransactions (payload : Json) : List Json :=
  match firstTrue [(responseData payload).field? "InvoiceTransactions",
      (responseData payload).field? "invoice_transactions"] with
  | some (.arr txns) => txns
  | _ => []

/-- `is_paid_flag` -/
def isPaidFlag (payload : Json) : Bool :=
  ["isPaid", "IsSuccess", "is_paid"].any fun key => payload.field? key = some (.bool true)

/-- `invoice_status` -/
def invoiceStatus (payload : Json) : String :=
  Text.lower (textOf [(responseData payload).field? "InvoiceStatus", payload.field? "status"])

/-- The status of a transaction, as the parser reads it. -/
def txnStatus (txn : Json) : String := Text.lower (textOf [txn.field? "TransactionStatus"])

/-- `txn_status` -/
def firstStatus (payload : Json) : String :=
  txnStatus (asDict (invoiceTransactions payload).head?)

/-! ## What the payload reports -/

/-- The statuses of an invoice or a charge that is paid. -/
def PAID_STATUSES : List String := ["paid", "success", "captured"]

/-- The words by which the lookup of a MyFatoorah invoice knows a transaction that went well. -/
def SUCCESSFUL_STATUSES : List String := ["succss", "success", "succeeded"]

def Successful (txn : Json) : Prop := Text.strip (txnStatus txn) ∈ SUCCESSFUL_STATUSES

instance (txn : Json) : Decidable (Successful txn) := inferInstanceAs (Decidable (_ ∈ _))

/-- The invoice or charge is paid, by its status or by one of its transactions. -/
def ReportsPaid (payload : Json) : Prop :=
  invoiceStatus payload ∈ PAID_STATUSES ∨ ∃ txn ∈ invoiceTransactions payload, Successful txn

instance (payload : Json) : Decidable (ReportsPaid payload) := inferInstanceAs (Decidable (_ ∨ _))

/-- A payload is told as a success only if it reports the invoice or charge as paid, and one that does is
told neither as failed nor as pending. -/
def ToldRight (payload : Json) : Prop :=
  ∀ r, parseGatewayResponse payload = some r →
    (r.status = .success → ReportsPaid payload) ∧
      (ReportsPaid payload → r.status ≠ .failed ∧ r.status ≠ .pending)

/-- Where what the parser reads is what the payload reports. The status of the invoice or charge is a paid
one; else, with a transaction that went well, a flag is set, the first transaction goes by a word with
"succ", or the invoice is cancelled and the first transaction has not failed; and without one there is
neither a flag nor such a word. -/
def ReadAsReported (payload : Json) : Prop :=
  invoiceStatus payload ∈ PAID_STATUSES ∨
    if ∃ txn ∈ invoiceTransactions payload, Successful txn then
      isPaidFlag payload ∨ Text.isIn "succ" (firstStatus payload) ∨
        (invoiceStatus payload ∈ ["cancelled", "canceled"] ∧
          ¬Text.isIn "fail" (firstStatus payload))
    else ¬isPaidFlag payload ∧ ¬Text.isIn "succ" (firstStatus payload)

end Payment
