import UshBookNPay.Booking.Proofs.SparingProofs
import UshBookNPay.PaymentLinks.SettlementAuthority

/-!
# What may settle a payment link

Every endpoint that applies a state takes the lock of the link first, and the state it applies is
either what the gateway has just reported or what an accepted webhook says.
-/

open Transactions
open Transactions.Prog (query queryForUpdate update raiseIf ask call forSome)

namespace PaymentLinks

variable {α β : Type} {k : Uuid} {es : List Emission} {v : List PaymentLinkRow}

/-! ## Authority -/

theorem Authority.extends {op : Endpoint} {es' : List Emission} {l : PaymentLinkRow}
    (h : Authority op es l) (hes : es <+: es') : Authority op es' l := by
  cases h with
  | reported gateway key state hmem hsettles habout =>
    exact .reported gateway key state (hes.subset hmem) hsettles habout
  | posted gw event verified state hposts hverified hstate hsettles habout =>
    refine .posted gw event verified state hposts (fun v hv => ?_) hstate hsettles habout
    obtain ⟨hpaid, key, hkey, hmem⟩ := hverified v hv
    exact ⟨hpaid, key, hkey, hes.subset hmem⟩

/-! ## Rows -/

theorem NonePaid.refl (k : Uuid) (rows : List PaymentLinkRow) : NonePaid k rows rows :=
  fun l hl hpaid => ⟨l, hl, hpaid⟩

theorem NonePaid.trans {rows rows' rows'' : List PaymentLinkRow} (h : NonePaid k rows rows')
    (h' : NonePaid k rows' rows'') : NonePaid k rows rows'' := by
  intro l hl hpaid
  obtain ⟨l', hl', hpaid'⟩ := h' l hl hpaid
  exact h l' hl' hpaid'

/-- Assignments that keep the id of a link and do not make it paid. -/
structure Tidy (f : PaymentLinkRow → PaymentLinkRow) : Prop where
  id : ∀ r, (f r).id = r.id
  paid : ∀ r, (f r).status = .paid → r.status = .paid

theorem Tidy.of_eq {f : PaymentLinkRow → PaymentLinkRow} (hid : ∀ r, (f r).id = r.id)
    (hs : ∀ r, (f r).status = r.status) : Tidy f :=
  ⟨hid, fun r h => (hs r).symm.trans h⟩

theorem Tidy.of_ne {f : PaymentLinkRow → PaymentLinkRow} (hid : ∀ r, (f r).id = r.id)
    (hs : ∀ r, (f r).status ≠ .paid) : Tidy f :=
  ⟨hid, fun r h => (hs r h).elim⟩

theorem Tidy.comp {f g : PaymentLinkRow → PaymentLinkRow} (hf : Tidy f) (hg : Tidy g) :
    Tidy (g ∘ f) :=
  ⟨fun r => (hg.id (f r)).trans (hf.id r), fun r h => hf.paid r (hg.paid (f r) h)⟩

theorem Tidy.nonePaid {f : PaymentLinkRow → PaymentLinkRow} (h : Tidy f)
    (rows : List PaymentLinkRow) : NonePaid k rows (rows.map f) := by
  intro l hl hpaid
  obtain ⟨r, hr, rfl⟩ := List.mem_map.mp hl
  exact ⟨r, hr, h.paid r hpaid⟩

/-! ## Writes of the links -/

theorem spares_of_links {p : Tx α} (h : Spares Db.paymentLinks p) : Spares linkParts.all p :=
  h.comp fun links k => links.filter (·.id = k)

theorem spares_links {p : Tx α} (h : Spares Db.audited p) : Spares linkParts.all p :=
  spares_of_links (h.comp Prod.snd)

theorem rewrites_link {f : PaymentLinkRow → PaymentLinkRow} (hid : ∀ r, (f r).id = r.id) :
    Rewrites linkParts k v (v.map f)
      fun d : Db => { d with paymentLinks := Table.modify d.paymentLinks k f } := by
  constructor
  · rintro d rfl
    refine (filter_modify hid k k d.paymentLinks).trans ?_
    simp only [if_true]
    rfl
  · intro j hj d
    refine (filter_modify hid k j d.paymentLinks).trans ?_
    simp only [if_neg hj, List.map_id']
    rfl

theorem holding_bind_flushLink {o : Orm PaymentLinkRow} {f : Orm PaymentLinkRow → Tx α}
    {Q : List Emission → Except Error α → List PaymentLinkRow → Prop} (hk : o.row.id = k)
    (hid : ∀ r, (o.changes r).id = r.id)
    (hf : Holding linkParts k Q (f (Orm.ofRow o.row)) es (v.map o.changes)) :
    Holding linkParts k Q (flushLink o >>= f) es v := by
  subst hk
  unfold flushLink
  rw [Prog.bind_assoc]
  exact holding_bind_update (rewrites_link hid) hf

theorem spares_flushBookingLinks (o : Orm BookingRow) : Spares Db.paymentLinks (flushBooking o) := by
  refine Spares.bind ?_ fun _ => spares_pure _
  exact spares_update fun _ => rfl

theorem spares_confirmBookingLinks (link : PaymentLinkRow) (b : BookingRow) (paidAt : Instant) :
    Spares Db.paymentLinks (confirmBooking link b paidAt) := by
  refine (spares_flushBookingLinks _).bind fun written => ?_
  refine Spares.bind (spares_forSome fun _ => ?_) fun _ => spares_pure _
  exact spares_update fun _ => rfl

/-! ## Applying a state under the lock -/

/-- The object of the link after a step of a settlement: its assignments not written yet are tidy. -/
def TidyObject (k : Uuid) (o : Orm PaymentLinkRow) : Prop := o.row.id = k ∧ Tidy o.changes

theorem TidyObject.ofRow {row : PaymentLinkRow} (hk : row.id = k) : TidyObject k (.ofRow row) :=
  ⟨hk, .of_eq (fun _ => rfl) fun _ => rfl⟩

theorem TidyObject.set {o : Orm PaymentLinkRow} (h : TidyObject k o)
    {f : PaymentLinkRow → PaymentLinkRow} (hf : Tidy f) : TidyObject k (o.set f) :=
  ⟨(hf.id o.row).trans h.1, h.2.comp hf⟩

theorem holding_settleBooking {link : Orm PaymentLinkRow} (hlink : TidyObject k link)
    (paidAt : Instant) :
    Holding linkParts k (fun _ r v' => v' = v ∧ ∀ o, r = .ok o → TidyObject k o)
      (settleBooking link paidAt) es v := by
  refine holding_bind_queryForUpdate fun d _ => ?_
  have hraised : ∀ e : Error, v = v ∧ ∀ o, (Except.error e : Except Error (Orm PaymentLinkRow)) = .ok o →
      TidyObject k o := by
    intro e
    refine ⟨rfl, fun o h => ?_⟩
    cases h
  cases Table.get d.bookings link.row.targetId with
  | none => exact hraised _
  | some row =>
    refine holding_bind_raiseIf (fun _ => ?_) (hraised _)
    refine (spares_of_links (spares_confirmBookingLinks _ _ _)).bind_holding (fun booking es _ => ?_)
      fun e _ _ => hraised e
    refine (spares_links (spares_settlePayment _ _ _ _)).bind_holding (fun payment es _ => ?_)
      fun e _ _ => hraised e
    refine (spares_emit _).bind_holding (fun _ es _ => ?_) fun e _ _ => hraised e
    refine ⟨rfl, ?_⟩
    rintro _ ⟨⟩
    exact hlink.set (.of_eq (fun _ => rfl) fun _ => rfl)

theorem holding_settleTarget {link : Orm PaymentLinkRow} (hlink : TidyObject k link)
    (paidAt : Instant) :
    Holding linkParts k (fun _ r v' => v' = v ∧ ∀ x, r = .ok x → TidyObject k x.1)
      (settleTarget link paidAt) es v := by
  have hend : ∀ (o : Orm PaymentLinkRow) (failure : Option Error) es, TidyObject k o →
      Holding linkParts k (fun _ r v' => v' = v ∧ ∀ x, r = .ok x → TidyObject k x.1)
        (pure (o, failure) : Tx (Orm PaymentLinkRow × Option Error)) es v := by
    intro o failure es ho
    refine ⟨rfl, ?_⟩
    rintro _ ⟨⟩
    exact ho
  have hraised : ∀ e : Error, v = v ∧
      ∀ x, (Except.error e : Except Error (Orm PaymentLinkRow × Option Error)) = .ok x →
        TidyObject k x.1 := by
    intro e
    refine ⟨rfl, fun x h => ?_⟩
    cases h
  unfold settleTarget
  cases link.row.targetType with
  | booking =>
    refine (holding_settleBooking hlink paidAt).attempt.bind ?_ ?_
    · rintro r es' v' ⟨r₀, ⟨rfl, hr⟩, hattempted⟩
      cases r with
      | error exc => exact hend link (some exc) es' hlink
      | ok o =>
        refine hend o none es' (hr o ?_)
        rcases hattempted with h | ⟨e, -, h⟩
        · exact (Except.ok.inj h).symm
        · cases h
    · rintro e es' v' ⟨r₀, ⟨rfl, -⟩, -⟩
      exact hraised e
  | giftVoucher =>
    refine (spares_links (spares_payVoucher _ _)).attempt.bind_holding (fun r es _ => ?_)
      fun e _ _ => hraised e
    cases r with
    | error exc => exact hend link (some exc) es hlink
    | ok paid =>
      have hset : TidyObject k (link.set (setPaymentRow paid.2.id)) :=
        hlink.set (.of_eq (fun _ => rfl) fun _ => rfl)
      refine (spares_links (spares_activateVoucher _ _ _ _)).attempt.bind_holding (fun r es _ => ?_)
        fun e _ _ => hraised e
      cases r with
      | ok _ => exact hend _ none es hset
      | error exc => exact hend _ (some exc) es hset
  | product => exact hend link none es hlink

/-- The rows of a link and its object after a state has been applied: where the state does not settle the
link, no row has become paid. -/
structure Swayed (settles : Prop) (k : Uuid) (v v' : List PaymentLinkRow)
    (r : Except Error (SettlementOutcome × Orm PaymentLinkRow)) : Prop where
  rows : settles ∨ NonePaid k v v'
  object : ∀ x, r = .ok x → TidyObject k x.2

theorem Swayed.raised {settles : Prop} {v' : List PaymentLinkRow} (h : settles ∨ NonePaid k v v')
    (e : Error) : Swayed settles k v v' (.error e) := by
  refine ⟨h, fun x hx => ?_⟩
  cases hx

theorem Swayed.returned {settles : Prop} {v' : List PaymentLinkRow} (h : settles ∨ NonePaid k v v')
    (outcome : SettlementOutcome) {o : Orm PaymentLinkRow} (ho : TidyObject k o) :
    Swayed settles k v v' (.ok (outcome, o)) := by
  refine ⟨h, ?_⟩
  rintro _ ⟨⟩
  exact ho

variable {row : PaymentLinkRow} {state : GatewayPaymentState} {source : String}

theorem holding_applyPaid (hk : row.id = k) (hstate : state.status = .paid) :
    Holding linkParts k (fun _ r v' => Swayed (Settles state row) k v v' r)
      (applyPaid (.ofRow row) state source) es v := by
  have hrow : TidyObject k (.ofRow row) := .ofRow hk
  unfold applyPaid
  split_ifs with hsettled hmismatch
  · exact .returned (.inr (.refl k v)) _ hrow
  · exact .returned (.inr (.refl k v)) _ (hrow.set (.of_eq (fun _ => rfl) fun _ => rfl))
  have hsettles : ∀ v', Settles state row ∨ NonePaid k v v' := fun v' => .inl ⟨hstate, hmismatch⟩
  refine (spares_ask _).bind_holding (fun now es _ => ?_) fun e _ _ => .raised (hsettles v) e
  refine holding_bind_flushLink hk (fun _ => rfl) ?_
  have hpaid : TidyObject k (Orm.ofRow ((Orm.ofRow row).set (paidColumns state source now)).row) :=
    .ofRow hk
  refine (holding_settleTarget hpaid now).bind ?_ fun e es' v' _ => .raised (hsettles v') e
  rintro ⟨link, failure⟩ es' v' ⟨rfl, hlink⟩
  have hlink' : TidyObject k link := hlink _ rfl
  cases failure with
  | none =>
    refine holding_bind_flushLink hlink'.1 hlink'.2.id ?_
    exact .returned (hsettles _) _ (.ofRow hlink'.1)
  | some exc =>
    have hne : PaymentLinkStatus.refunded ≠ .paid := by decide
    have hrefunded : TidyObject k (link.set (setLinkStatus .refunded)) :=
      hlink'.set (.of_ne (fun _ => rfl) fun _ => hne)
    refine (spares_autoRefund _ _).bind_holding (fun err es _ => ?_) fun e _ _ => .raised (hsettles _) e
    have hattention : TidyObject k
        ((link.set (setLinkStatus .refunded)).set (attentionColumns exc err)) :=
      hrefunded.set (.of_eq (fun _ => rfl) fun _ => rfl)
    refine holding_bind_flushLink hattention.1 hattention.2.id ?_
    exact .returned (hsettles _) _ (.ofRow hattention.1)

theorem holding_apply (hk : row.id = k) :
    Holding linkParts k (fun _ r v' => Swayed (Settles state row) k v v' r)
      (apply (.ofRow row) state source) es v := by
  have hrow : TidyObject k (.ofRow row) := .ofRow hk
  have hclosed : ∀ status : PaymentLinkStatus, status ≠ .paid →
      Swayed (Settles state row) k v v (.ok (recordClosed (.ofRow row) status)) := by
    intro status hstatus
    unfold recordClosed
    split_ifs
    · exact .returned (.inr (.refl k v)) _ hrow
    · exact .returned (.inr (.refl k v)) _ (hrow.set (.of_ne (fun _ => rfl) fun _ => hstatus))
  unfold apply
  cases hstate : state.status with
  | paid => exact holding_applyPaid hk hstate
  | failed =>
    show Holding _ _ _ (recordFailure (.ofRow row) state source) _ _
    unfold recordFailure
    split_ifs
    · exact .returned (.inr (.refl k v)) _ hrow
    · refine (spares_ask _).bind_holding (fun now es _ => ?_) fun e _ _ => .raised (.inr (.refl k v)) e
      refine holding_bind_call fun _ => ?_
      have hne : PaymentLinkStatus.failed ≠ .paid := by decide
      exact .returned (.inr (.refl k v)) _ (hrow.set (.of_ne (fun _ => rfl) fun _ => hne))
  | expired => exact hclosed .expired (by decide)
  | canceled => exact hclosed .cancelled (by decide)
  | pending => exact .returned (.inr (.refl k v)) _ hrow

/-- The link is written, and nothing else is done to it. -/
theorem holding_applyWritten (hk : row.id = k) (f : SettlementOutcome → Orm PaymentLinkRow → β) :
    Holding linkParts k (fun _ _ v' => Settles state row ∨ NonePaid k v v')
      (apply (.ofRow row) state source >>= fun x =>
        flushLink x.2 >>= fun link => pure (f x.1 link)) es v := by
  refine (holding_apply hk).bind ?_ fun e es' v' h => h.rows
  rintro ⟨outcome, link⟩ es' v' h
  have hlink : TidyObject k link := h.object _ rfl
  refine holding_bind_flushLink hlink.1 hlink.2.id ?_
  exact h.rows.imp_right fun hnone => hnone.trans (hlink.2.nonePaid v')

/-- A link is settled on authority, where what settles it is authority. -/
theorem holding_applyWritten_authority {op : Endpoint} (hk : row.id = k) (hrow : row ∈ v)
    (hauthority : Settles state row → Authority op es row)
    (f : SettlementOutcome → Orm PaymentLinkRow → β) :
    Holding linkParts k (fun es' _ v' => PaidOnAuthority op es' k v v')
      (apply (.ofRow row) state source >>= fun x =>
        flushLink x.2 >>= fun link => pure (f x.1 link)) es v := by
  refine (holding_applyWritten hk f).extends.mono ?_
  rintro es' r v' ⟨hes, hsettles | hnone⟩
  · exact fun l' _ _ => ⟨row, hrow, .inr ((hauthority hsettles).extends hes)⟩
  · intro l' hl' hpaid
    obtain ⟨l, hl, hpaid'⟩ := hnone l' hl' hpaid
    exact ⟨l, hl, .inl hpaid'⟩

theorem holding_applyLocked_authority {op : Endpoint} (hk : row.id = k) (hrow : row ∈ v)
    (hauthority : Settles state row → Authority op es row) :
    Holding linkParts k (fun es' _ v' => PaidOnAuthority op es' k v v')
      (applyLocked row state source) es v :=
  holding_applyWritten_authority hk hrow hauthority fun outcome _ => outcome

/-! ## Lookups -/

/-- A lookup of a link: it locks the row it finds, of which `P` holds. -/
def Finds (P : PaymentLinkRow → Prop) (lookup : Tx (Option PaymentLinkRow)) : Prop :=
  ∃ locks q, lookup = queryForUpdate locks q ∧
    ∀ d row, q d = some row → .row "payment_links" row.id ∈ locks d ∧ row ∈ d.paymentLinks ∧ P row

theorem finds_lockedNewestLink {p : PaymentLinkRow → Bool} {P : PaymentLinkRow → Prop}
    (hp : ∀ l, p l → P l) : Finds P (lockedNewestLink p) := by
  refine ⟨_, _, rfl, fun d row hrow => ?_⟩
  obtain ⟨hmem, hrowp⟩ := List.mem_filter.mp (List.mem_of_getLast? hrow)
  refine ⟨?_, hmem, hp row hrowp⟩
  simp [hrow]

theorem finds_getLockedLink (linkId : Uuid) : Finds (fun l => l.id = linkId) (getLockedLink linkId) := by
  refine ⟨_, _, rfl, fun d row hrow => ?_⟩
  obtain ⟨hmem, hid⟩ := Table.get_some hrow
  refine ⟨?_, hmem, hid⟩
  rw [hrow]
  exact List.mem_singleton.mpr rfl

/-- What a lookup comes to: no row is found and none is locked, or the row that is found is locked. -/
abbrev LooksUp (P : PaymentLinkRow → Prop) (lookup : Tx (Option PaymentLinkRow))
    (es : List Emission) : Prop :=
  Locking linkParts (fun es' r => es' = es ∧ r = .ok none)
    (fun k v es' r v' => v' = v ∧ es' = es ∧
      ∃ row, r = .ok (some row) ∧ row.id = k ∧ row ∈ v ∧ P row) lookup es

theorem Finds.looksUp {P : PaymentLinkRow → Prop} {lookup : Tx (Option PaymentLinkRow)}
    (h : Finds P lookup) (es : List Emission) : LooksUp P lookup es := by
  obtain ⟨locks, q, rfl, hq⟩ := h
  have hlock : ∀ d row, q d = some row → linkParts.lock row.id ∈ locks d :=
    fun d row hrow => (hq d row hrow).1
  refine (locking_queryForUpdate hlock).mono (fun _ _ h => h) ?_
  rintro k v es' r v' ⟨rfl, rfl, row, d, rfl, rfl, hrow, rfl⟩
  obtain ⟨-, hmem, hP⟩ := hq d row hrow
  exact ⟨rfl, rfl, row, rfl, rfl, List.mem_filter.mpr ⟨hmem, by simp⟩, hP⟩

theorem looksUp_firstFound {P : PaymentLinkRow → Prop} {lookups : List (Tx (Option PaymentLinkRow))}
    (h : ∀ lookup ∈ lookups, Finds P lookup) (es : List Emission) :
    LooksUp P (firstFound lookups) es := by
  induction lookups with
  | nil => exact ⟨rfl, rfl⟩
  | cons lookup rest ih =>
    have hrest := ih fun l hl => h l (List.mem_cons_of_mem _ hl)
    refine Locking.bind ((h lookup List.mem_cons_self).looksUp es) ?_ ?_ ?_ ?_
    · rintro row es' ⟨rfl, hnone⟩
      cases hnone
      exact hrest
    · rintro e es' ⟨-, h⟩
      cases h
    · rintro k v row es' v' ⟨rfl, rfl, r, hr, hfound⟩
      cases hr
      exact ⟨rfl, rfl, r, rfl, hfound⟩
    · rintro k v e es' v' ⟨-, -, r, hr, -⟩
      cases hr

theorem finds_lookupsById {P : PaymentLinkRow → Prop} {candidate : String}
    (hP : ∀ l : PaymentLinkRow, parseUuid (Text.strip candidate) = some l.id ∨
      l.linkNumber = some (Text.strip candidate) → P l) :
    ∀ lookup ∈ lookupsById candidate, Finds P lookup := by
  unfold lookupsById
  dsimp only
  generalize Text.strip candidate = text at hP ⊢
  generalize parseUuid text = id at hP ⊢
  intro lookup hlookup
  rcases List.mem_append.mp hlookup with hlookup | hlookup
  · cases id with
    | none => cases hlookup
    | some id =>
      rw [List.mem_singleton.mp hlookup]
      obtain ⟨locks, q, hq, hfound⟩ := finds_getLockedLink id
      refine ⟨locks, q, hq, fun d row hrow => ?_⟩
      obtain ⟨hlock, hmem, hid⟩ := hfound d row hrow
      exact ⟨hlock, hmem, hP row (.inl (congrArg some hid.symm))⟩
  · rw [List.mem_singleton.mp hlookup]
    exact finds_lockedNewestLink fun l hl => hP l (.inr (of_decide_eq_true hl))

/-- A link that is found is designated by one of the texts. -/
theorem looksUp_anyIdentifier (gateway : String) (identifier referenceId paymentId : Option String)
    (es : List Emission) :
    LooksUp (Designates gateway (present [identifier, referenceId, paymentId]))
      (getLockedLinkByAnyIdentifier gateway identifier referenceId paymentId) es := by
  have hkeys : ∀ t, t ∈ present [identifier, paymentId] →
      t ∈ present [identifier, referenceId, paymentId] := by
    intro t ht
    obtain ⟨a, ha, hat⟩ := List.mem_filterMap.mp ht
    refine List.mem_filterMap.mpr ⟨a, ?_, hat⟩
    rcases List.mem_cons.mp ha with rfl | ha
    · simp
    · simp [List.mem_singleton.mp ha]
  have hcandidates : ∀ t, t ∈ present [referenceId, identifier, paymentId] →
      t ∈ present [identifier, referenceId, paymentId] := by
    intro t ht
    obtain ⟨a, ha, hat⟩ := List.mem_filterMap.mp ht
    refine List.mem_filterMap.mpr ⟨a, ?_, hat⟩
    simp only [List.mem_cons, List.not_mem_nil, or_false] at ha ⊢
    tauto
  refine looksUp_firstFound (fun lookup hlookup => ?_) es
  rcases List.mem_append.mp hlookup with hlookup | hlookup
  · obtain ⟨t, ht, hlookup⟩ := List.mem_flatMap.mp hlookup
    have hmem := hkeys t ht
    rcases List.mem_cons.mp hlookup with rfl | hlookup
    · refine finds_lockedNewestLink fun l hl => ⟨t, hmem, .inl ?_⟩
      obtain ⟨hgateway, hinvoice⟩ := of_decide_eq_true hl
      exact ⟨hgateway, .inl hinvoice⟩
    · rw [List.mem_singleton.mp hlookup]
      refine finds_lockedNewestLink fun l hl => ⟨t, hmem, .inl ?_⟩
      obtain ⟨hgateway, hpayment⟩ := of_decide_eq_true hl
      exact ⟨hgateway, .inr hpayment⟩
  · obtain ⟨t, ht, hlookup⟩ := List.mem_flatMap.mp hlookup
    refine finds_lookupsById (fun l hl => ⟨t, hcandidates t ht, .inr hl⟩) lookup hlookup

/-! ## Callbacks -/

variable {op : Endpoint} {gw : PaymentLinkGateway}

/-- Every change of a link is on authority, whether the program raises or not. -/
abbrev Settling (op : Endpoint) (p : Tx α) (es : List Emission) : Prop :=
  Locking linkParts (fun _ _ => True) (fun k v es' _ v' => PaidOnAuthority op es' k v v') p es

theorem PaidOnAuthority.extends {v' : List PaymentLinkRow} {es' : List Emission}
    (h : PaidOnAuthority op es k v v') (hes : es <+: es') : PaidOnAuthority op es' k v v' := by
  intro l' hl' hpaid
  obtain ⟨l, hl, hcase⟩ := h l' hl' hpaid
  exact ⟨l, hl, hcase.imp_right fun h => h.extends hes⟩

/-- A program that leaves the links alone, after changes on authority. -/
theorem holding_spares {v' : List PaymentLinkRow} {p : Tx α} (hp : Spares linkParts.all p)
    (h : PaidOnAuthority op es k v v') :
    Holding linkParts k (fun es' _ v'' => PaidOnAuthority op es' k v v'') p es v' :=
  hp.holding fun _ _ hes => h.extends hes

/-- The sequence rule for a program that leaves the links alone in the end. -/
theorem Settling.bind_spares {p : Tx α} {f : α → Tx β} (hp : Settling op p es)
    (hf : ∀ a, Spares linkParts.all (f a)) : Settling op (p >>= f) es := by
  refine Locking.bind hp (fun a es' _ => (hf a).locking fun _ _ _ => trivial) (fun _ _ _ => trivial)
    ?_ fun _ _ _ _ _ h => h
  exact fun i v a es' v' h => holding_spares (hf a) h

theorem Settling.guards {p : Tx α} (hp : Settling op p es) :
    Guards linkParts (PaidOnAuthority op) p es := by
  refine Locking.mono hp (fun _ _ h => h) fun k v es' r v' h => ?_
  cases r with
  | ok a => exact h
  | error e => trivial

theorem Settling.attempt {caught : Error → Bool} {p : Tx α} (hp : Settling op p es) :
    Settling op (attempt caught p) es :=
  (Locking.attempt hp).mono (fun _ _ _ => trivial) fun _ _ _ _ _ h => h.choose_spec.1

/-- A program that leaves the links alone first. -/
theorem Spares.bind_settling {p : Tx α} {f : α → Tx β} (hp : Spares linkParts.all p)
    (hf : ∀ a es', es <+: es' → Settling op (f a) es') : Settling op (p >>= f) es := by
  have hlocking : Locking linkParts (fun es' _ => es <+: es') (fun _ _ _ _ _ => False) p es :=
    hp.locking fun _ _ hes => hes
  exact hlocking.bind hf (fun _ _ _ => trivial) (fun _ _ _ _ _ h => h.elim) fun _ _ _ _ _ h => h.elim

theorem settling_settleCallback (key : String) :
    Settling op (settleCallback gw key source) es := by
  refine locking_bind_call fun a => ?_
  cases a.state with
  | error exc => trivial
  | ok state =>
    have hmem : Emission.paymentState gw.name key state ∈ es ++ [.paymentState gw.name key state] :=
      List.mem_append_right es List.mem_cons_self
    refine Locking.bind (looksUp_anyIdentifier gw.name _ _ _ _) ?_ (fun _ _ _ => trivial) ?_ ?_
    · rintro row es' ⟨-, hrow⟩
      cases hrow
      trivial
    · rintro k v found es' v' ⟨rfl, rfl, row, hfound, hk, hrow, hdesignated⟩
      cases hfound
      refine (holding_applyLocked_authority hk hrow fun hsettles =>
        .reported gw.name key state hmem hsettles (.inl hdesignated)).bind ?_ fun _ _ _ h => h
      exact fun outcome es' v' h => h
    · rintro k v e es' v' ⟨-, -, row, hrow, -⟩
      cases hrow

theorem settling_callbackPage (settings : LinkSettings) (qp : List (String × String))
    (bd : List (String × Json)) : Settling op (callbackPage settings qp bd) es := by
  unfold callbackPage
  cases extractLookupKey qp bd with
  | none => trivial
  | some key =>
    have hgateway : Spares linkParts.all (callbackGateway settings qp bd key) := by
      unfold callbackGateway
      cases Security.firstTruthy [queryField qp "gateway", bd.lookup "gateway"] with
      | none => exact Spares.ite (spares_getGateway _ _) (spares_getGateway _ _)
      | some name =>
        cases name with
        | str name => exact spares_getGateway _ _
        | null => exact spares_throw _
        | bool b => exact spares_throw _
        | num lexeme => exact spares_throw _
        | arr items => exact spares_throw _
        | obj fields => exact spares_throw _
    have hsettle : Settling op (do
        let gw ← callbackGateway settings qp bd key
        settleCallback gw key "callback") es :=
      Spares.bind_settling hgateway fun gw _ _ => settling_settleCallback key
    refine Settling.bind_spares ?_ fun _ => spares_pure _
    exact Settling.attempt hsettle

theorem settling_gatewayWebhookGet (settings : LinkSettings) (gateway : String)
    (qp : List (String × String)) : Settling op (gatewayWebhookGet settings gateway qp) es := by
  refine Spares.bind_settling (spares_getGateway _ _) fun gw es' _ => ?_
  cases extractLookupKey qp [] with
  | none => trivial
  | some key =>
    have hsettle : Settling op (settleCallback gw key ("webhook_get_" ++ gw.name)) es' :=
      settling_settleCallback key
    refine Settling.bind_spares ?_ fun _ => spares_pure _
    exact Settling.attempt hsettle

end PaymentLinks
