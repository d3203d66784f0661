import Mathlib.Tactic.Linarith
import UshBookNPay.Booking.Proofs.PriceProofs

/-!
# Who decides about prices and durations

The plan of a request does not depend on the prices and durations the client has sent exactly where a
package decides about them.
-/

namespace Booking

variable {up : Ushauth} {req req' : SessionsRequest} {P : List Session}

/-! ## Requests that differ in prices and durations -/

theorem packageRefs_same {items items' : List BookingSessionItem}
    (h : List.Forall₂ SameSession items items') :
    packageRefs (items'.map (·.services)) = packageRefs (items.map (·.services)) := by
  have hservices : List.Forall₂ (fun l l' => List.Forall₂ SameService l l') (items.map (·.services))
      (items'.map (·.services)) := by
    rw [List.forall₂_map_left_iff, List.forall₂_map_right_iff]
    exact h.imp fun _ _ hs => hs.1
  unfold packageRefs
  rw [List.flatMap_def, List.flatMap_def]
  refine congrArg List.flatten (Lists.map_eq_of_forall₂ (Lists.forall₂_zipIdx hservices 0) ?_)
  rintro ⟨l, i⟩ ⟨l', _⟩ ⟨hl, ⟨⟩⟩
  refine Lists.filterMap_eq_of_forall₂ (Lists.forall₂_zipIdx hl 0) ?_
  rintro ⟨s, j⟩ ⟨s', _⟩ ⟨hs, ⟨⟩⟩
  have hpackage : s'.packageId = s.packageId := congrArg (·.packageId) hs.2
  have hservice : s'.serviceId = s.serviceId := congrArg (·.serviceId) hs.2
  dsimp only
  rw [hpackage, hservice]

theorem resolvePackageContext_same (h : SameButPrices req req') :
    resolvePackageContext up.toRecords (req'.items.map (·.services)) =
      resolvePackageContext up.toRecords (req.items.map (·.services)) := by
  unfold resolvePackageContext
  rw [packageRefs_same h.1]

/-- A plan, step by step. -/
theorem planSessionItems_spec : planSessionItems up req = .ok P ↔ ∃ ctx built,
    resolvePackageContext up.toRecords (req.items.map (·.services)) = .ok ctx ∧
      req.items.zipIdx.mapM (fun x => buildAt up.toRecords ctx req.isLoyaltyBooking x.2 x.1) =
        .ok built ∧
      finishPlan up (ctx ≠ []) req built = .ok P := by
  unfold planSessionItems
  constructor
  · intro h
    obtain ⟨ctx, hctx, h⟩ := Fallible.bind_eq_ok.mp h
    obtain ⟨built, hbuilt, h⟩ := Fallible.bind_eq_ok.mp h
    exact ⟨ctx, built, hctx, hbuilt, h⟩
  · rintro ⟨ctx, built, hctx, hbuilt, h⟩
    rw [hctx]
    exact Fallible.bind_eq_ok.mpr ⟨ctx, rfl, Fallible.bind_eq_ok.mpr ⟨built, hbuilt, h⟩⟩

/-- Where a package prices every service, the client cannot change the plan. -/
theorem samePlan_of_serverPriced (hplan : planSessionItems up req = .ok P)
    (hlisted : Listed up.toRecords req) (hpriced : ServerPriced up.toRecords req)
    (hsame : SameButPrices req req') :
    ∃ P', planSessionItems up req' = .ok P' ∧ SamePlan P P' := by
  obtain ⟨ctx, built, hctx, hbuilt, hfinish⟩ := planSessionItems_spec.mp hplan
  have hctx' : resolvePackageContext up.toRecords (req'.items.map (·.services)) = .ok ctx :=
    (resolvePackageContext_same hsame).trans hctx
  obtain ⟨hitems, hreq⟩ := hsame
  have hloyal : req'.isLoyaltyBooking = req.isLoyaltyBooking := congrArg (·.isLoyaltyBooking) hreq
  have hfixed : ∀ item ∈ req.items, ∀ s ∈ item.services, Fixed up.toRecords ctx s := by
    intro item hitem s hs
    refine ⟨?_, (hlisted item hitem).1 s hs, (hpriced item hitem).1 s hs⟩
    intro packageId hpackage
    obtain ⟨id, -, hid, -⟩ := (hlisted item hitem).1 s hs
    exact lookup_resolvePackageContext hctx (List.mem_map_of_mem hitem) hs hpackage hid
  obtain ⟨built', hbuilt', halike⟩ := Fallible.mapM_related
    (R := fun b b' => bare b' = bare b ∧ ∀ e ∈ b.services, e.packageId ≠ none)
    (g := fun x => buildAt up.toRecords ctx req.isLoyaltyBooking x.2 x.1) (m := req'.items.zipIdx)
    ((Lists.forall₂_zipIdx ((List.forall₂_and_left _ _).mpr ⟨fun _ hitem => hitem, hitems⟩) 0).imp
      fun x x' hx b hb => by
        rw [hx.2]
        refine buildAt_alike hx.1.2 (hfixed x.1 hx.1.1) ?_ hb
        exact fun a ha => ⟨(hlisted x.1 hx.1.1).2 a ha, (hpriced x.1 hx.1.1).2 a ha⟩) hbuilt
  have hmap : built'.map bare = built.map bare := Lists.map_eq_of_forall₂ halike fun _ _ hb => hb.1
  have hpackaged : ∀ b ∈ built, ∀ e ∈ b.services, e.packageId ≠ none :=
    ((List.forall₂_and_left (R := fun b b' : Session => bare b' = bare b) built built').mp
      (halike.imp fun _ _ hb => ⟨hb.2, hb.1⟩)).1
  have hpackaged' : ∀ b ∈ built', ∀ e ∈ b.services, e.packageId ≠ none := by
    intro b' hb' e he
    obtain ⟨b, hb, hbare⟩ := List.mem_map.mp (hmap ▸ List.mem_map_of_mem (f := bare) hb')
    have hservices : b.services.map bareEntry = b'.services.map bareEntry :=
      congrArg (·.services) hbare
    obtain ⟨e₀, he₀, heq⟩ := List.mem_map.mp (hservices ▸ List.mem_map_of_mem (f := bareEntry) he)
    have hid : e₀.packageId = e.packageId := congrArg (·.packageId) heq
    rw [← hid]
    exact hpackaged b hb e₀ he₀
  have hfinish' : finishPlan up (ctx ≠ []) req' built' = finishPlan up (ctx ≠ []) req built' := by
    rw [hreq]
    rfl
  have hbare : finishPlan up (ctx ≠ []) req (built'.map bare) =
      List.map bare <$> finishPlan up (ctx ≠ []) req built' := finishPlan_bare hpackaged'
  rw [hmap, finishPlan_bare hpackaged, hfinish] at hbare
  obtain ⟨P', hP', hsame'⟩ := Fallible.map_eq_ok.mp hbare.symm
  refine ⟨P', planSessionItems_spec.mpr ⟨ctx, built', hctx', ?_, hfinish'.trans hP'⟩,
    samePlan_of_bare hsame'⟩
  rw [hloyal]
  exact hbuilt'

/-! ## One session varied -/

/-- The sessions by their start. -/
def byStart (sessions : List Session) : List Session :=
  sessions.insertionSort fun s s' => s.appointmentStart ≤ s'.appointmentStart

/-- Numbering and the therapists aside, a plan is the sessions by their start. -/
theorem map_finishPlan {β : Type} {packaged : Bool} {built : List Session}
    (h : finishPlan up packaged req built = .ok P) (w : Session → β)
    (hwork : ∀ s, w (withoutTherapists s) = w s)
    (hposition : ∀ (s : Session) (i : ℕ), w { s with position := i } = w s) :
    P.map w = (byStart built).map w := by
  unfold finishPlan at h
  obtain ⟨⟨⟩, -, h⟩ := Fallible.bind_eq_ok.mp h
  obtain ⟨sessions, hsessions, h⟩ := Fallible.bind_eq_ok.mp h
  have hsorted : sessions.map w = (byStart built).map w := by
    rw [validateSessions_eq_sorted hsessions]
    exact map_numbered w hposition _
  split_ifs at h with hday hcheck
  · obtain ⟨hsame, -⟩ := checkAll_work h (valid_of_validateSessions hsessions).therapist
    rw [hsame.map w hwork]
    exact hsorted
  · rw [← Fallible.pure_eq_ok.mp h]
    exact hsorted

/-- The order of the sessions does not concern the sums of a plan. -/
theorem sum_finishPlan {packaged : Bool} {built : List Session}
    (h : finishPlan up packaged req built = .ok P) (w : Session → ℤ)
    (hwork : ∀ s, w (withoutTherapists s) = w s)
    (hposition : ∀ (s : Session) (i : ℕ), w { s with position := i } = w s) :
    (P.map w).sum = (built.map w).sum := by
  rw [map_finishPlan h w hwork hposition]
  exact ((List.perm_insertionSort _ built).map w).sum_eq

/-- The sums of a session. -/
structure EqualSums (b b' : Session) : Prop where
  price : b'.servicesPrice = b.servicesPrice
  duration : b'.servicesDuration = b.servicesDuration
  addons : b'.addonsDuration = b.addonsDuration

/-- No request that differs in prices and durations has another plan. -/
def Unmoved (up : Ushauth) (req : SessionsRequest) (P : List Session) : Prop :=
  ∀ req', SameButPrices req req' → ∃ P', planSessionItems up req' = .ok P' ∧ SamePlan P P'

theorem sameService_refl (s : BookingServiceItem) : SameService s s := ⟨SameBut.refl _ _, rfl⟩

theorem sameSession_refl (item : BookingSessionItem) : SameSession item item :=
  ⟨List.forall₂_same.mpr fun s _ => sameService_refl s,
    List.forall₂_same.mpr fun _ _ => SameBut.refl _ _, rfl⟩

/-- Where no request has another plan, a session has the same sums however the client varies its
prices and durations. -/
theorem sums_varied (hplan : planSessionItems up req = .ok P) (hunmoved : Unmoved up req P)
    {item : BookingSessionItem} (hitem : item ∈ req.items) : ∃ ctx i,
      resolvePackageContext up.toRecords (req.items.map (·.services)) = .ok ctx ∧
      ∀ item₁ item₂, SameSession item item₁ → SameSession item item₂ → ∃ b₁ b₂,
        buildAt up.toRecords ctx req.isLoyaltyBooking i item₁ = .ok b₁ ∧
        buildAt up.toRecords ctx req.isLoyaltyBooking i item₂ = .ok b₂ ∧ EqualSums b₁ b₂ := by
  obtain ⟨ctx, -, hctx, -, -⟩ := planSessionItems_spec.mp hplan
  obtain ⟨pre, post, hsplit⟩ := List.append_of_mem hitem
  refine ⟨ctx, pre.length, hctx, ?_⟩
  -- the plan of the request with another item in the place of this one
  have hvaried : ∀ item', SameSession item item' → ∃ before b after P',
      pre.zipIdx.mapM (fun x => buildAt up.toRecords ctx req.isLoyaltyBooking x.2 x.1) = .ok before ∧
      buildAt up.toRecords ctx req.isLoyaltyBooking pre.length item' = .ok b ∧
      (post.zipIdx (pre.length + 1)).mapM
        (fun x => buildAt up.toRecords ctx req.isLoyaltyBooking x.2 x.1) = .ok after ∧
      bookingTotals P = bookingTotals P' ∧
      ∀ w : Session → ℤ, (∀ s, w (withoutTherapists s) = w s) →
        (∀ (s : Session) (i : ℕ), w { s with position := i } = w s) →
        (P'.map w).sum = (before.map w).sum + (w b + (after.map w).sum) := by
    intro item' hsame
    have hreq : SameButPrices req { req with items := pre ++ item' :: post } := by
      refine ⟨?_, rfl⟩
      rw [hsplit]
      exact Lists.forall₂_varied sameSession_refl hsame
    obtain ⟨P', hP', -, htotals⟩ := hunmoved _ hreq
    obtain ⟨ctx', built, hctx', hbuilt, hfinish⟩ := planSessionItems_spec.mp hP'
    rw [resolvePackageContext_same hreq, hctx] at hctx'
    cases hctx'
    dsimp only at hbuilt
    rw [List.zipIdx_append, List.zipIdx_cons, Nat.zero_add] at hbuilt
    obtain ⟨before, b, after, hbefore, hb, hafter, rfl⟩ := Fallible.mapM_split.mp hbuilt
    refine ⟨before, b, after, P', hbefore, hb, hafter, htotals, fun w hwork hposition => ?_⟩
    rw [sum_finishPlan hfinish w hwork hposition, List.map_append, List.sum_append, List.map_cons,
      List.sum_cons]
  intro item₁ item₂ h₁ h₂
  obtain ⟨before, b₁, after, P₁, hbefore, hb₁, hafter, ht₁, hw₁⟩ := hvaried item₁ h₁
  obtain ⟨before', b₂, after', P₂, hbefore', hb₂, hafter', ht₂, hw₂⟩ := hvaried item₂ h₂
  obtain rfl : before = before' := Except.ok.inj (hbefore.symm.trans hbefore')
  obtain rfl : after = after' := Except.ok.inj (hafter.symm.trans hafter')
  have htotals : bookingTotals P₁ = bookingTotals P₂ := ht₁.symm.trans ht₂
  refine ⟨b₁, b₂, hb₁, hb₂, ?_, ?_, ?_⟩
  · have hsum : (P₁.map (·.servicesPrice)).sum = (P₂.map (·.servicesPrice)).sum :=
      congrArg (·.servicesPrice) htotals
    have hsum₁ := hw₁ (·.servicesPrice) (fun _ => rfl) fun _ _ => rfl
    have hsum₂ := hw₂ (·.servicesPrice) (fun _ => rfl) fun _ _ => rfl
    linarith
  · have hsum : (P₁.map (·.servicesDuration)).sum = (P₂.map (·.servicesDuration)).sum :=
      congrArg (·.servicesDuration) htotals
    have hsum₁ := hw₁ (·.servicesDuration) (fun _ => rfl) fun _ _ => rfl
    have hsum₂ := hw₂ (·.servicesDuration) (fun _ => rfl) fun _ _ => rfl
    linarith
  · have hsum : (P₁.map (·.addonsDuration)).sum = (P₂.map (·.addonsDuration)).sum :=
      congrArg (·.addonsDuration) htotals
    have hsum₁ := hw₁ (·.addonsDuration) (fun _ => rfl) fun _ _ => rfl
    have hsum₂ := hw₂ (·.addonsDuration) (fun _ => rfl) fun _ _ => rfl
    linarith

/-! ## One service varied -/

/-- What the sums of a built session are the sums of. -/
theorem buildAt_spec {records : Records} {ctx : List (Uuid × PackageInfo)} {loyal : Bool} {i : ℕ}
    {item : BookingSessionItem} {b : Session} (h : buildAt records ctx loyal i item = .ok b) :
    ∃ entries, (sessionServices item).zipIdx.mapM
        (fun x => entryOf records ctx loyal i x.2 x.1) = .ok entries ∧
      b.servicesPrice = (entries.map (·.basePrice)).sum ∧
      b.servicesDuration = (entries.map (·.durationMinutes)).sum ∧
      b.addonsDuration = (item.addons.map fun a => addonDuration
        (.obj (enrichAddon (records.arrangementData item.serviceArrangementId) a))).sum := by
  obtain ⟨parts, hparts, hbuild⟩ := Fallible.bind_eq_ok.mp h
  obtain ⟨entries, hentries, -, rfl⟩ := sessionParts_spec.mp hparts
  refine ⟨entries, hentries, ?_⟩
  have hsum : ∀ f : ServiceEntry → ℤ, (∀ (e : ServiceEntry) (j : ℕ) (o : Option Uuid),
      f { e with position := j, serviceArrangementId := o } = f e) →
      ((sessionEntries item.serviceArrangementId entries).map f).sum = (entries.map f).sum := by
    intro f hf
    unfold sessionEntries
    rw [List.map_map, Lists.map_zipIdx fun x i => hf x i _]
  unfold buildSession at hbuild
  dsimp only at hbuild
  split_ifs at hbuild
  cases hbuild
  refine ⟨hsum (·.basePrice) fun _ _ _ => rfl, hsum (·.durationMinutes) fun _ _ _ => rfl, ?_⟩
  show (((item.addons.map _).map addonDuration).sum) = _
  rw [List.map_map]
  rfl

/-- The price and the duration of an entry. -/
structure SamePrice (e e' : ServiceEntry) : Prop where
  price : e'.basePrice = e.basePrice
  duration : e'.durationMinutes = e.durationMinutes

/-- Where no request has another plan, a service has the same price and the same duration however the
client varies them. -/
theorem entry_varied (hplan : planSessionItems up req = .ok P) (hunmoved : Unmoved up req P)
    {item : BookingSessionItem} (hitem : item ∈ req.items) {s : BookingServiceItem}
    (hs : s ∈ item.services) : ∃ ctx i j,
      resolvePackageContext up.toRecords (req.items.map (·.services)) = .ok ctx ∧
      ∀ s₁ s₂, SameService s s₁ → SameService s s₂ → ∃ e₁ e₂,
        entryOf up.toRecords ctx req.isLoyaltyBooking i j
          (inArrangement item.serviceArrangementId s₁) = .ok e₁ ∧
        entryOf up.toRecords ctx req.isLoyaltyBooking i j
          (inArrangement item.serviceArrangementId s₂) = .ok e₂ ∧ SamePrice e₁ e₂ := by
  obtain ⟨ctx, i, hctx, hsums⟩ := sums_varied hplan hunmoved hitem
  obtain ⟨pre, post, hsplit⟩ := List.append_of_mem hs
  refine ⟨ctx, i, pre.length, hctx, fun s₁ s₂ h₁ h₂ => ?_⟩
  have hsame : ∀ s', SameService s s' →
      SameSession item { item with services := pre ++ s' :: post } := by
    intro s' h
    refine ⟨?_, List.forall₂_same.mpr fun _ _ => SameBut.refl _ _, rfl⟩
    rw [hsplit]
    exact Lists.forall₂_varied sameService_refl h
  -- the services before and after the varied one resolve to the same entries
  have hentries : ∀ s' b, buildAt up.toRecords ctx req.isLoyaltyBooking i
      { item with services := pre ++ s' :: post } = .ok b → ∃ before e after,
      (pre.map (inArrangement item.serviceArrangementId)).zipIdx.mapM
        (fun x => entryOf up.toRecords ctx req.isLoyaltyBooking i x.2 x.1) = .ok before ∧
      entryOf up.toRecords ctx req.isLoyaltyBooking i pre.length
        (inArrangement item.serviceArrangementId s') = .ok e ∧
      ((post.map (inArrangement item.serviceArrangementId)).zipIdx (pre.length + 1)).mapM
        (fun x => entryOf up.toRecords ctx req.isLoyaltyBooking i x.2 x.1) = .ok after ∧
      b.servicesPrice = (before.map (·.basePrice)).sum +
        (e.basePrice + (after.map (·.basePrice)).sum) ∧
      b.servicesDuration = (before.map (·.durationMinutes)).sum +
        (e.durationMinutes + (after.map (·.durationMinutes)).sum) := by
    intro s' b hb
    obtain ⟨entries, hentries, hprice, hduration, -⟩ := buildAt_spec hb
    have hservices : sessionServices { item with services := pre ++ s' :: post } =
        pre.map (inArrangement item.serviceArrangementId) ++
          inArrangement item.serviceArrangementId s' ::
            post.map (inArrangement item.serviceArrangementId) := by
      show (pre ++ s' :: post).map (inArrangement item.serviceArrangementId) = _
      rw [List.map_append, List.map_cons]
    rw [hservices, List.zipIdx_append, List.zipIdx_cons, Nat.zero_add, List.length_map] at hentries
    obtain ⟨before, e, after, hbefore, he, hafter, rfl⟩ := Fallible.mapM_split.mp hentries
    refine ⟨before, e, after, hbefore, he, hafter, ?_, ?_⟩
    · rw [hprice, List.map_append, List.sum_append, List.map_cons, List.sum_cons]
    · rw [hduration, List.map_append, List.sum_append, List.map_cons, List.sum_cons]
  obtain ⟨b₁, b₂, hb₁, hb₂, hsum⟩ := hsums _ _ (hsame s₁ h₁) (hsame s₂ h₂)
  obtain ⟨before, e₁, after, hbefore, he₁, hafter, hp₁, hd₁⟩ := hentries s₁ b₁ hb₁
  obtain ⟨before', e₂, after', hbefore', he₂, hafter', hp₂, hd₂⟩ := hentries s₂ b₂ hb₂
  obtain rfl : before = before' := Except.ok.inj (hbefore.symm.trans hbefore')
  obtain rfl : after = after' := Except.ok.inj (hafter.symm.trans hafter')
  refine ⟨e₁, e₂, he₁, he₂, ?_, ?_⟩
  · have heq := hsum.price
    rw [hp₁, hp₂] at heq
    linarith
  · have heq := hsum.duration
    rw [hd₁, hd₂] at heq
    linarith

/-- So does an add-on have the same duration. -/
theorem addon_varied (hplan : planSessionItems up req = .ok P) (hunmoved : Unmoved up req P)
    {item : BookingSessionItem} (hitem : item ∈ req.items) {a : Dict} (ha : a ∈ item.addons)
    {a₁ a₂ : Dict} (h₁ : SameBut ADDON_PRICE_FIELDS a a₁) (h₂ : SameBut ADDON_PRICE_FIELDS a a₂) :
    addonDuration (.obj (enrichAddon (up.arrangementData item.serviceArrangementId) a₂)) =
      addonDuration (.obj (enrichAddon (up.arrangementData item.serviceArrangementId) a₁)) := by
  obtain ⟨ctx, i, -, hsums⟩ := sums_varied hplan hunmoved hitem
  obtain ⟨pre, post, hsplit⟩ := List.append_of_mem ha
  have hsame : ∀ a', SameBut ADDON_PRICE_FIELDS a a' →
      SameSession item { item with addons := pre ++ a' :: post } := by
    intro a' h
    refine ⟨List.forall₂_same.mpr fun s _ => sameService_refl s, ?_, rfl⟩
    rw [hsplit]
    exact Lists.forall₂_varied (SameBut.refl _) h
  obtain ⟨b₁, b₂, hb₁, hb₂, hsum⟩ := hsums _ _ (hsame a₁ h₁) (hsame a₂ h₂)
  obtain ⟨-, -, -, -, hd₁⟩ := buildAt_spec hb₁
  obtain ⟨-, -, -, -, hd₂⟩ := buildAt_spec hb₂
  have heq := hsum.addons
  rw [hd₁, hd₂] at heq
  simp only [List.map_append, List.sum_append, List.map_cons, List.sum_cons] at heq
  linarith

/-! ## What the client decides -/

/-- A service that no package prices has the price the client names. -/
theorem packaged_of_unmoved (hplan : planSessionItems up req = .ok P) (hunmoved : Unmoved up req P)
    {item : BookingSessionItem} (hitem : item ∈ req.items) {s : BookingServiceItem}
    (hs : s ∈ item.services) : s.packageId ≠ none := by
  intro hnone
  obtain ⟨ctx, i, j, -, hvaried⟩ := entry_varied hplan hunmoved hitem hs
  have hprice : ∀ value : Json, SameService s { s with basePrice := some value } := fun value =>
    ⟨SameBut.refl _ _, rfl⟩
  have hnamed : ∀ value : Json, value.truthy → ∀ e, entryOf up.toRecords ctx req.isLoyaltyBooking i j
      (inArrangement item.serviceArrangementId { s with basePrice := some value }) = .ok e →
      e.basePrice = money (toDec (some value)) := by
    intro value hvalue e he
    obtain ⟨-, hp, -⟩ := buildOne_spec (entryOf_plain (s := inArrangement item.serviceArrangementId
      { s with basePrice := some value }) hnone he)
    unfold chosenPrice inArrangement at hp
    rw [hp, orElse_of_truthy hvalue]
  obtain ⟨e₁, e₂, he₁, he₂, hsame⟩ := hvaried _ _ (hprice (.str "1")) (hprice (.str "2"))
  have heq := hsame.price
  rw [hnamed _ (by decide) e₁ he₁, hnamed _ (by decide) e₂ he₂] at heq
  revert heq
  decide +kernel

/-- One whose package lists no duration has the duration the client names. -/
theorem timed_of_unmoved (hplan : planSessionItems up req = .ok P) (hunmoved : Unmoved up req P)
    {item : BookingSessionItem} (hitem : item ∈ req.items) {s : BookingServiceItem}
    (hs : s ∈ item.services) {packageId serviceId : Uuid} (hpackage : s.packageId = some packageId)
    (hservice : s.serviceId = some serviceId) : ∃ package, up.service packageId = some package ∧
      (((listedDurations package).lookup ((s.serviceId.map uuidStr).getD "")).bind id).any
        Json.truthy := by
  obtain ⟨ctx, i, j, hctx, hvaried⟩ := entry_varied hplan hunmoved hitem hs
  obtain ⟨package, info, hup, hinfo, hdurations⟩ := lookup_resolvePackageContext hctx
    (List.mem_map_of_mem hitem) hs hpackage hservice
  refine ⟨package, hup, ?_⟩
  by_contra hnot
  have hduration : ∀ n : ℕ, SameService s { s with baseDuration := some n } := fun n =>
    ⟨SameBut.refl _ _, rfl⟩
  -- an entry whose package lists no duration keeps the one of the service
  have hkept : ∀ n : ℕ, n ≠ 0 → ∀ e, entryOf up.toRecords ctx req.isLoyaltyBooking i j
      (inArrangement item.serviceArrangementId { s with baseDuration := some n }) = .ok e →
      e.durationMinutes = n := by
    intro n hn e he
    obtain ⟨e₀, he₀, happly⟩ := entryOf_component (s := inArrangement item.serviceArrangementId
      { s with baseDuration := some n }) hpackage hinfo he
    obtain ⟨hchosen, -, hid, -⟩ := buildOne_spec he₀
    rw [chosenDuration_own rfl hn] at hchosen
    have huntimed : ¬ Timed info e₀.serviceId := by
      unfold Timed
      rw [hid, hdurations]
      have hsid : (inArrangement item.serviceArrangementId
          { s with baseDuration := some n }).serviceId = some serviceId := hservice
      rw [hsid]
      rw [hservice] at hnot
      exact hnot
    rw [(applyPackage_spec happly).2.2.2 huntimed]
    exact (Except.ok.inj hchosen).symm
  obtain ⟨e₁, e₂, he₁, he₂, hsame⟩ := hvaried _ _ (hduration 1) (hduration 2)
  have heq := hsame.duration
  rw [hkept 1 (by decide) e₁ he₁, hkept 2 (by decide) e₂ he₂] at heq
  exact absurd heq (by decide)

/-- One without a duration of its own has no plan where the client names something else than a
duration. -/
theorem ownDuration_of_unmoved (hplan : planSessionItems up req = .ok P)
    (hunmoved : Unmoved up req P) {item : BookingSessionItem} (hitem : item ∈ req.items)
    {s : BookingServiceItem} (hs : s ∈ item.services) :
    ((up.serviceData s.serviceId).lookup "duration_minutes").any Json.truthy := by
  by_contra hnot
  obtain ⟨ctx, i, j, -, hvaried⟩ := entry_varied hplan hunmoved hitem hs
  have hsame : SameService s { s with
      baseDuration := none
      serviceData := Json.setField s.serviceData "base_duration" (.str "abc") } :=
    ⟨sameBut_setField (by decide) _ _, rfl⟩
  obtain ⟨e₁, -, he₁, -, -⟩ := hvaried _ _ hsame hsame
  unfold entryOf at he₁
  obtain ⟨e₀, he₀, -⟩ := Fallible.bind_eq_ok.mp he₁
  have hchosen := (buildOne_spec he₀).1
  unfold chosenDuration inArrangement at hchosen
  dsimp only at hchosen
  rw [if_neg (by decide), orElse_of_falsy hnot, Json.lookup_setField, if_pos rfl,
    orElse_of_truthy (by decide)] at hchosen
  have hfails : ∀ n, intOf (.str "abc") ≠ .ok n := by
    intro n h
    have hparse : parseInteger "abc" = none := by decide +kernel
    unfold intOf at h
    dsimp only at h
    rw [hparse] at h
    cases h
  exact hfails _ hchosen

/-- An add-on without a duration in ushauth has the duration the client names. -/
theorem addonTimed_of_unmoved (hplan : planSessionItems up req = .ok P)
    (hunmoved : Unmoved up req P) {item : BookingSessionItem} (hitem : item ∈ req.items) {a : Dict}
    (ha : a ∈ item.addons)
    (hlisted : AddonListed (up.arrangementData item.serviceArrangementId) a) :
    AddonTimed (up.arrangementData item.serviceArrangementId) a := by
  by_contra hnot
  obtain ⟨d, hd, -, hduration⟩ := hlisted.listed
  obtain ⟨value, hvalue⟩ := Option.ne_none_iff_exists'.mp hduration
  have hfalsy : ¬ (present d "duration_minutes").any Json.truthy := by
    unfold AddonTimed at hnot
    rw [hd] at hnot
    rw [hvalue]
    simpa [lookup_of_present hvalue] using hnot
  have hsame : ∀ text, SameBut ADDON_PRICE_FIELDS a (Json.setField a "duration" (.num text)) :=
    fun text => sameBut_setField (by decide) _ _
  have hnamed : ∀ text, addonDuration (.obj (enrichAddon (up.arrangementData
      item.serviceArrangementId) (Json.setField a "duration" (.num text)))) =
      toInt (some (.num text)) := by
    intro text
    have hd' : listedAddon (up.arrangementData item.serviceArrangementId)
        (requestedAddonId (Json.setField a "duration" (.num text))) = some d := by
      rw [(hsame text).requestedAddonId, hd]
    have hown : (Json.obj (enrichAddon (up.arrangementData item.serviceArrangementId)
        (Json.setField a "duration" (.num text)))).field? "duration_minutes" =
        present d "duration_minutes" := lookup_enrichAddon hd' (by simp) hduration
    have hclient : (Json.obj (enrichAddon (up.arrangementData item.serviceArrangementId)
        (Json.setField a "duration" (.num text)))).field? "duration" = some (.num text) := by
      show (enrichAddon _ _).lookup "duration" = _
      rw [lookup_enrichAddon_duration hd', Json.lookup_setField, if_pos rfl]
    unfold addonDuration Voucher.fieldOr
    rw [hown, hclient, if_neg hfalsy]
  have heq := addon_varied hplan hunmoved hitem ha (hsame "1") (hsame "2")
  rw [hnamed, hnamed] at heq
  revert heq
  decide +kernel

/-! ## Who decides -/

/-- The plan of a request does not depend on the prices and durations of the client exactly if a
package prices and times every service and ushauth times every service and add-on. -/
theorem plan_fixed_iff (hplan : planSessionItems up req = .ok P) (hlisted : Listed up.toRecords req) :
    (∀ req', SameButPrices req req' → ∃ P', planSessionItems up req' = .ok P' ∧ SamePlan P P') ↔
      ServerPriced up.toRecords req := by
  constructor
  · intro hunmoved item hitem
    refine ⟨fun s hs => ?_, fun a ha => ?_⟩
    · obtain ⟨packageId, hpackage⟩ :=
        Option.ne_none_iff_exists'.mp (packaged_of_unmoved hplan hunmoved hitem hs)
      obtain ⟨serviceId, -, hservice, -⟩ := (hlisted item hitem).1 s hs
      obtain ⟨package, hup, htimed⟩ :=
        timed_of_unmoved hplan hunmoved hitem hs hpackage hservice
      exact ⟨packageId, package, hpackage, hup, htimed,
        ownDuration_of_unmoved hplan hunmoved hitem hs⟩
    · exact addonTimed_of_unmoved hplan hunmoved hitem ha ((hlisted item hitem).2 a ha)
  · intro hpriced req' hsame
    exact samePlan_of_serverPriced hplan hlisted hpriced hsame

/-- A massage, the package it is a component of and a room with an add-on. -/
def exampleUshauth : Ushauth :=
  { service := fun id =>
      if id = 1 then some [("name", .str "Massage"), ("base_price", .str "40.000"),
        ("duration_minutes", .num "60"), ("extra_minutes", .num "30"),
        ("price_for_extra_minutes", .str "10.000")]
      else if id = 2 then some [("name", .str "Spa day"), ("base_price", .str "35.000"),
        ("is_packaged_services", .bool true), ("included_services", .arr
          [.obj [("id", .str (uuidStr 1)), ("duration_minutes", .num "60")]])]
      else none
    arrangement := fun id =>
      if id = 3 then some [("name", .str "Room 1"), ("arrangement_type", .str "single_room"),
        ("addons", .arr [.obj [("id", .str "oil"), ("name", .str "Oil"), ("price", .str "2.500"),
          ("duration_minutes", .num "15")]])]
      else none
    room := fun _ => {}
    therapistFree := fun _ _ _ => true }

/-- One hour of the massage with the add-on. -/
def exampleSession (packageId : Option Uuid) (basePrice : Option Json) (baseDuration : Option ℕ) :
    BookingSessionItem :=
  { sessionId := 10
    therapistId := 5
    serviceArrangementId := some 3
    services := [
      { serviceId := some 1
        packageId := packageId
        basePrice := basePrice
        baseDuration := baseDuration }]
    addons := [[("addon_id", .str "oil")]]
    start := 32400000000 }

def exampleRequest (packageId : Option Uuid) (basePrice : Option Json) (baseDuration : Option ℕ) :
    SessionsRequest :=
  { items := [exampleSession packageId basePrice baseDuration], day := 0 }

theorem listed_exampleRequest (packageId : Option Uuid) :
    Listed exampleUshauth.toRecords (exampleRequest packageId none none) := by
  intro item hitem
  obtain rfl := List.mem_singleton.mp hitem
  constructor
  · intro s hs
    obtain rfl := List.mem_singleton.mp hs
    refine ⟨1, _, rfl, rfl, by decide, ⟨.num "60", 60, rfl, ?_⟩, by decide, by decide⟩
    decide +kernel
  · intro a ha
    obtain rfl := List.mem_singleton.mp ha
    have hlisted : listedAddon (exampleUshauth.arrangementData (some 3))
        (requestedAddonId [("addon_id", .str "oil")]) = some [("id", .str "oil"),
          ("name", .str "Oil"), ("price", .str "2.500"), ("duration_minutes", .num "15")] := by
      decide +kernel
    exact ⟨_, hlisted, by decide, by decide⟩

theorem exists_plan {β : Type} (up : Ushauth) (r : SessionsRequest) (f : List Session → β) {y : β}
    (h : (planSessionItems up r).toOption.map f = some y) :
    ∃ P, planSessionItems up r = .ok P ∧ f P = y := by
  cases hplan : planSessionItems up r with
  | error e =>
    rw [hplan] at h
    cases h
  | ok P =>
    rw [hplan] at h
    exact ⟨P, rfl, Option.some.inj h⟩

/-- The massage as part of the package has one plan. -/
theorem plan_fixed_example :
    ∃ P, planSessionItems exampleUshauth (exampleRequest (some 2) none none) = .ok P ∧
      P.map (fun s => (s.sessionPrice, s.totalSessionDuration)) = [(37500, 75)] ∧
      ∀ req', SameButPrices (exampleRequest (some 2) none none) req' →
        ∃ P', planSessionItems exampleUshauth req' = .ok P' ∧ SamePlan P P' := by
  have hplans : ∃ P, planSessionItems exampleUshauth (exampleRequest (some 2) none none) = .ok P ∧
      P.map (fun s => (s.sessionPrice, s.totalSessionDuration)) = [(37500, 75)] :=
    exists_plan exampleUshauth (exampleRequest (some 2) none none)
      (List.map fun s => (s.sessionPrice, s.totalSessionDuration)) (by decide +kernel)
  obtain ⟨P, hplan, hfigures⟩ := hplans
  refine ⟨P, hplan, hfigures, (plan_fixed_iff hplan (listed_exampleRequest _)).mpr ?_⟩
  intro item hitem
  obtain rfl := List.mem_singleton.mp hitem
  constructor
  · intro s hs
    obtain rfl := List.mem_singleton.mp hs
    refine ⟨2, _, rfl, rfl, ?_, ?_⟩
    · decide +kernel
    · decide +kernel
  · intro a ha
    obtain rfl := List.mem_singleton.mp ha
    unfold AddonTimed
    decide +kernel

/-- On its own it costs what the client says, and takes as long. -/
theorem client_decides :
    Listed exampleUshauth.toRecords (exampleRequest none none none) ∧
      SameButPrices (exampleRequest none none none) (exampleRequest none (some (.str "0.001")) (some 1)) ∧
      ∃ P P', planSessionItems exampleUshauth (exampleRequest none none none) = .ok P ∧
        planSessionItems exampleUshauth (exampleRequest none (some (.str "0.001")) (some 1)) = .ok P' ∧
        P.map (fun s => (s.sessionPrice, s.totalSessionDuration)) = [(42500, 75)] ∧
        P'.map (fun s => (s.sessionPrice, s.totalSessionDuration)) = [(2501, 16)] ∧
        ¬ SamePlan P P' := by
  refine ⟨listed_exampleRequest none, ?_, ?_⟩
  · refine ⟨.cons ⟨.cons ⟨SameBut.refl _ _, rfl⟩ .nil, ?_, rfl⟩ .nil, rfl⟩
    exact List.forall₂_same.mpr fun _ _ => SameBut.refl _ _
  · obtain ⟨P, hP, hfigures⟩ := exists_plan exampleUshauth (exampleRequest none none none)
      (List.map fun s => (s.sessionPrice, s.totalSessionDuration)) (y := [(42500, 75)])
      (by decide +kernel)
    obtain ⟨P', hP', hfigures'⟩ := exists_plan exampleUshauth
      (exampleRequest none (some (.str "0.001")) (some 1))
      (List.map fun s => (s.sessionPrice, s.totalSessionDuration)) (y := [(2501, 16)])
      (by decide +kernel)
    refine ⟨P, P', hP, hP', hfigures, hfigures', ?_⟩
    rintro ⟨hsame, -⟩
    have heq := congrArg (List.map fun x : SessionFigures => (x.sessionPrice, x.totalSessionDuration))
      hsame
    rw [List.map_map, List.map_map] at heq
    have hne : [((42500 : Fils), (75 : ℤ))] = [((2501 : Fils), (16 : ℤ))] :=
      hfigures.symm.trans (heq.trans hfigures')
    revert hne
    decide

end Booking
