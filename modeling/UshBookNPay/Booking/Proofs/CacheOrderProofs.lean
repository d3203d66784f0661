import UshBookNPay.Booking.Proofs.CacheOutboxProofs

/-!
# When the requests of a booking are applied in the order of their issue

The rows of a booking are claimed one at a time, the oldest first, and a call that finds no pending row
has nothing older left to wait for. So whatever is sent of a booking has its turn: everything older is
settled, for good.
-/

namespace CacheOutbox

variable {J σ : Type} {settings : Settings} {b : Uuid} {s : System J}

/-- Every older request of the booking is settled. -/
def System.Turn (b : Uuid) (s : System J) (n : ℕ) : Prop :=
  ∀ c ∈ s.callsOf b, c.number < n → s.Settled c

/-- What keeps the order of the booking: what is sent has its turn, and what is settled has been applied
unless it is given up. -/
structure Ordered (b : Uuid) (s : System J) : Prop where
  /-- a call has asked for pending rows when no older one was under way -/
  checked : ∀ c ∈ s.callsOf b, c.phase ≠ .issued → ∀ c' ∈ s.callsOf b, c'.number < c.number →
    ¬ c'.phase.underWay
  created : ∀ row ∈ s.outbox, ∀ row' ∈ s.outbox, row.request.bookingId = b →
    row'.request.bookingId = b → row.status = .pending → row'.status = .pending →
    row.id < row'.id → row.createdAt < row'.createdAt
  posting : ∀ c ∈ s.callsOf b, ∀ reached, c.phase = .posting reached → s.Turn b c.number
  claimed : ∀ r ∈ s.relays, ∀ row ∈ r.batch, row.request.bookingId = b → s.Turn b row.id
  late : ∀ n ∈ s.late, s.isOf b n → s.Turn b n
  applied : ∀ n ∈ s.applied, s.isOf b n → s.Turn b n
  order : s.applied.Pairwise fun m n => s.isOf b m → s.isOf b n → m ≤ n
  reached : ∀ c ∈ s.calls, c.phase = .posting true → c.number ∈ s.applied
  replayed : ∀ r ∈ s.relays, r.posting = some true → ∀ row ∈ r.batch.head?, row.id ∈ s.applied
  delivered : ∀ c ∈ s.calls, c.phase = .delivered → c.number ∈ s.applied
  deliveredRow : ∀ row ∈ s.outbox, row.status = .delivered → row.id ∈ s.applied
  givenUp : ∀ c ∈ s.callsOf b, s.Dead c → c.number ∉ s.applied
  kept : ∀ c ∈ s.callsOf b, c.phase ≠ .lost

theorem ordered_empty : Ordered b ({} : System J) where
  checked := by simp [System.callsOf]
  created := by simp
  posting := by simp [System.callsOf]
  claimed := by simp
  late := by simp
  applied := by simp
  order := List.Pairwise.nil
  reached := by simp
  replayed := by simp
  delivered := by simp
  deliveredRow := by simp
  givenUp := by simp [System.callsOf]
  kept := by simp [System.callsOf]

/-! ## Calls -/

theorem Ordered.issue (h : Ordered b s) (hw : WellFormed s) (request : CacheRequest J) :
    Ordered b { s with
      calls := s.calls ++ [{ number := s.calls.length, request := request }] } := by
  generalize hs' : ({ s with
    calls := s.calls ++ [{ number := s.calls.length, request := request }] } : System J) = s'
  have hcalls : ∀ c, c ∈ s'.calls → c ∈ s.calls ∨ c.number = s.calls.length ∧ c.phase = .issued := by
    subst hs'
    intro c hc
    rcases List.mem_append.mp hc with hc | hc
    · exact .inl hc
    · obtain rfl := List.mem_singleton.mp hc
      exact .inr ⟨rfl, rfl⟩
  have hof : ∀ c, c ∈ s'.callsOf b → c ∈ s.callsOf b ∨
      c.number = s.calls.length ∧ c.phase = .issued := by
    intro c hc
    obtain ⟨hc, hb⟩ := mem_callsOf.mp hc
    exact (hcalls c hc).imp (fun hc => mem_callsOf.mpr ⟨hc, hb⟩) id
  have hisOf : ∀ n, n < s.calls.length → s'.isOf b n → s.isOf b n := by
    subst hs'
    rintro n hn ⟨c, hc, hb⟩
    obtain ⟨hmem, hkey⟩ := Table.get_some hc
    rcases List.mem_append.mp hmem with hmem | hmem
    · exact hw.isOf_iff.mpr ⟨c, mem_callsOf.mpr ⟨hmem, hb⟩, hkey⟩
    · obtain rfl := List.mem_singleton.mp hmem
      exact absurd (hkey ▸ hn) (lt_irrefl _)
  have hturn : ∀ n, n ≤ s.calls.length → s.Turn b n → s'.Turn b n := by
    intro n hn ht c hc hlt
    rcases hof c hc with hold | ⟨hnumber, -⟩
    · subst hs'
      exact ht c hold hlt
    · omega
  have hlt : ∀ c ∈ s.callsOf b, c.number < s.calls.length :=
    fun c hc => hw.number_lt (mem_callsOf.mp hc).1
  have happlied : s'.applied = s.applied := hs' ▸ rfl
  have houtbox : s'.outbox = s.outbox := hs' ▸ rfl
  have hrelays : s'.relays = s.relays := hs' ▸ rfl
  have hlate : s'.late = s.late := hs' ▸ rfl
  have hdead : ∀ c, s'.Dead c → s.Dead c := by
    subst hs'
    exact fun c hc => hc
  clear hs'
  refine
    { checked := ?_, created := ?_, posting := ?_, claimed := ?_, late := ?_, applied := ?_,
      order := ?_, reached := ?_, replayed := ?_, delivered := ?_, deliveredRow := ?_,
      givenUp := ?_, kept := ?_ }
  · intro c hc hphase c' hc' hn
    rcases hof c hc with hc | ⟨-, hissued⟩
    · rcases hof c' hc' with hc' | ⟨hnumber, -⟩
      · exact h.checked c hc hphase c' hc' hn
      · have := hlt c hc
        omega
    · exact absurd hissued hphase
  · rw [houtbox]
    exact h.created
  · intro c hc reached hphase
    rcases hof c hc with hc | ⟨-, hissued⟩
    · exact hturn _ (hlt c hc).le (h.posting c hc reached hphase)
    · rw [hissued] at hphase
      cases hphase
  · rw [hrelays]
    exact fun r hr row hrow hb => hturn _ (hw.id_lt hr hrow).le (h.claimed r hr row hrow hb)
  · rw [hlate]
    intro n hn hb
    have hnl := hw.late n hn
    exact hturn n hnl.le (h.late n hn (hisOf n hnl hb))
  · rw [happlied]
    intro n hn hb
    have hnl := hw.applied n hn
    exact hturn n hnl.le (h.applied n hn (hisOf n hnl hb))
  · rw [happlied]
    refine h.order.imp_of_mem fun {m n} hm hn hle hbm hbn => ?_
    exact hle (hisOf m (hw.applied m hm) hbm) (hisOf n (hw.applied n hn) hbn)
  · rw [happlied]
    intro c hc hphase
    rcases hcalls c hc with hc | ⟨-, hissued⟩
    · exact h.reached c hc hphase
    · rw [hissued] at hphase
      cases hphase
  · rw [happlied, hrelays]
    exact h.replayed
  · rw [happlied]
    intro c hc hphase
    rcases hcalls c hc with hc | ⟨-, hissued⟩
    · exact h.delivered c hc hphase
    · rw [hissued] at hphase
      cases hphase
  · rw [happlied, houtbox]
    exact h.deliveredRow
  · rw [happlied]
    intro c hc hd happ
    rcases hof c hc with hc | ⟨hnumber, -⟩
    · exact h.givenUp c hc (hdead c hd) happ
    · have := hw.applied _ happ
      omega
  · intro c hc hlost
    rcases hof c hc with hc | ⟨-, hissued⟩
    · exact h.kept c hc hlost
    · rw [hissued] at hlost
      cases hlost

/-- What a call of the booking needs for its next phase. -/
structure Enters (b : Uuid) (s : System J) (c : Call J) (phase : Phase) : Prop where
  checked : phase ≠ .issued → ∀ c' ∈ s.callsOf b, c'.number < c.number → ¬ c'.phase.underWay
  posting : ∀ reached, phase = .posting reached → s.Turn b c.number
  refused : phase = .refused → c.number ∉ s.applied
  kept : phase ≠ .lost

/-- A call under way goes on. -/
theorem Ordered.setPhase (h : Ordered b s) (hu : Table.Unique s.calls) {c : Call J}
    (hc : c ∈ s.calls) (hway : c.phase.underWay) {phase : Phase}
    (hreached : phase = .posting true ∨ phase = .delivered → c.number ∈ s.applied)
    (henters : c.request.bookingId = b → Enters b s c phase) :
    Ordered b (s.setPhase c.number phase) := by
  have hcalls : ∀ a, a ∈ (s.setPhase c.number phase).calls →
      a ∈ s.calls ∧ a.number ≠ c.number ∨ a = { c with phase := phase } := by
    intro a ha
    rcases mem_setPhase.mp ha with ha | ⟨c', hc', hn, rfl⟩
    · exact .inl ha
    · rw [Table.eq_of_key_eq hu hc' hc hn]
      exact .inr rfl
  have hof : ∀ a, a ∈ (s.setPhase c.number phase).callsOf b →
      a ∈ s.callsOf b ∧ a.number ≠ c.number ∨
        a = { c with phase := phase } ∧ c ∈ s.callsOf b ∧ Enters b s c phase := by
    intro a ha
    obtain ⟨ha, hb⟩ := mem_callsOf.mp ha
    rcases hcalls a ha with ⟨ha, hn⟩ | rfl
    · exact .inl ⟨mem_callsOf.mpr ⟨ha, hb⟩, hn⟩
    · exact .inr ⟨rfl, mem_callsOf.mpr ⟨hc, hb⟩, henters hb⟩
  have hturn : ∀ {n}, s.Turn b n → (s.setPhase c.number phase).Turn b n := by
    intro n ht a ha hlt
    rcases hof a ha with ⟨ha, -⟩ | ⟨rfl, hcb, -⟩
    · exact ht a ha hlt
    · exact absurd hway (ht c hcb hlt).1
  refine
    { checked := ?_, created := h.created, posting := ?_, claimed := ?_, late := ?_, applied := ?_,
      order := ?_, reached := ?_, replayed := h.replayed, delivered := ?_,
      deliveredRow := h.deliveredRow, givenUp := ?_, kept := ?_ }
  · intro a ha hphase a' ha' hn
    rcases hof a ha with ⟨ha, -⟩ | ⟨rfl, -, he⟩
    · rcases hof a' ha' with ⟨ha', -⟩ | ⟨rfl, hcb, -⟩
      · exact h.checked a ha hphase a' ha' hn
      · exact absurd hway (h.checked a ha hphase c hcb hn)
    · rcases hof a' ha' with ⟨ha', -⟩ | ⟨rfl, -, -⟩
      · exact he.checked hphase a' ha' hn
      · exact absurd hn (lt_irrefl _)
  · intro a ha reached hphase
    rcases hof a ha with ⟨ha, -⟩ | ⟨rfl, -, he⟩
    · exact hturn (h.posting a ha reached hphase)
    · exact hturn (he.posting reached hphase)
  · exact fun r hr row hrow hb => hturn (h.claimed r hr row hrow hb)
  · exact fun n hn hb => hturn (h.late n hn (isOf_setPhase.mp hb))
  · exact fun n hn hb => hturn (h.applied n hn (isOf_setPhase.mp hb))
  · exact h.order.imp fun hle hm hn => hle (isOf_setPhase.mp hm) (isOf_setPhase.mp hn)
  · intro a ha hphase
    rcases hcalls a ha with ⟨ha, -⟩ | rfl
    · exact h.reached a ha hphase
    · exact hreached (.inl hphase)
  · intro a ha hphase
    rcases hcalls a ha with ⟨ha, -⟩ | rfl
    · exact h.delivered a ha hphase
    · exact hreached (.inr hphase)
  · intro a ha hd
    rcases hof a ha with ⟨ha, -⟩ | ⟨rfl, hcb, he⟩
    · exact h.givenUp a ha hd
    · rcases hd with hrefused | hrow
      · exact he.refused hrefused
      · exact h.givenUp c hcb (.inr hrow)
  · intro a ha
    rcases hof a ha with ⟨ha, -⟩ | ⟨rfl, -, he⟩
    · exact h.kept a ha
    · exact he.kept

/-- A call under way has no row. -/
theorem WellFormed.no_row (hw : WellFormed s) {c : Call J} (hc : c ∈ s.calls)
    (hway : c.phase.underWay) : ∀ row ∈ s.outbox, row.id ≠ c.number := by
  intro row hrow hid
  obtain ⟨a, ha, hn, -, hq⟩ := hw.rows row hrow
  rw [hw.call_eq ha hc (hn.trans hid)] at hq
  exact not_queued_of_underWay hway hq

/-- The call of a row of the booking. -/
theorem WellFormed.call_of_row (hw : WellFormed s) {row : AppointmentCacheOutbox J}
    (hrow : row ∈ s.outbox) (hb : row.request.bookingId = b) :
    ∃ c ∈ s.callsOf b, c.number = row.id ∧ c.phase = .queued := by
  obtain ⟨c, hc, hn, hreq, hq⟩ := hw.rows row hrow
  exact ⟨c, mem_callsOf.mpr ⟨hc, hreq ▸ hb⟩, hn, hq⟩

/-- The row of a call under way is inserted. -/
theorem Ordered.insert (settings : Settings) (h : Ordered b s) (hw : WellFormed s) {c : Call J}
    (hc : c ∈ s.calls) (hway : c.phase.underWay) {now : Instant}
    (hrec : c.request.bookingId = b → ∀ row ∈ s.outbox, row.request.bookingId = b →
      row.status = .pending → row.createdAt < now) :
    Ordered b { s with outbox := s.outbox ++ [enqueued settings c.number c.request now] } := by
  generalize hrow' : enqueued settings c.number c.request now = new
  have hnew : new.id = c.number ∧ new.request = c.request ∧ new.status = .pending ∧
      new.createdAt = now := by
    subst hrow'
    exact ⟨rfl, rfl, rfl, rfl⟩
  clear hrow'
  obtain ⟨hid, hreq, hstatus, hcreated⟩ := hnew
  have hrows : ∀ row, row ∈ s.outbox ++ [new] → row ∈ s.outbox ∨ row = new :=
    fun row hrow => (List.mem_append.mp hrow).imp id List.mem_singleton.mp
  have hturn : ∀ {n}, s.Turn b n → ({ s with outbox := s.outbox ++ [new] } : System J).Turn b n := by
    intro n ht a ha hlt
    obtain ⟨hover, hpending⟩ := ht a ha hlt
    refine ⟨hover, ?_⟩
    rintro ⟨row, hrow, hrid, hrs⟩
    rcases hrows row hrow with hrow | rfl
    · exact hpending ⟨row, hrow, hrid, hrs⟩
    · have hac := hw.call_eq (mem_callsOf.mp ha).1 hc (hrid.symm.trans hid)
      rw [hac] at hover
      exact hover hway
  have hyounger : c.request.bookingId = b → ∀ row ∈ s.outbox, row.request.bookingId = b →
      ¬ c.number < row.id := by
    intro hb row hrow hrb hlt
    obtain ⟨a, ha, hn, hq⟩ := hw.call_of_row hrow hrb
    have hissued : a.phase ≠ .issued := by
      rw [hq]
      decide
    exact h.checked a ha hissued c (mem_callsOf.mpr ⟨hc, hb⟩) (hn.symm ▸ hlt) hway
  refine
    { h with
      created := ?_, deliveredRow := ?_, givenUp := ?_
      posting := fun a ha r hp => hturn (h.posting a ha r hp)
      claimed := fun r hr row hrow hb => hturn (h.claimed r hr row hrow hb)
      late := fun n hn hb => hturn (h.late n hn hb)
      applied := fun n hn hb => hturn (h.applied n hn hb) }
  · intro row hrow row' hrow' hb hb' hp hp' hlt
    rcases hrows row hrow with hold | rfl
    · rcases hrows row' hrow' with hold' | rfl
      · exact h.created row hold row' hold' hb hb' hp hp' hlt
      · rw [hcreated]
        exact hrec (hreq ▸ hb') row hold hb hp
    · rcases hrows row' hrow' with hold' | rfl
      · exact absurd (hid ▸ hlt) (hyounger (hreq ▸ hb) row' hold' hb')
      · exact absurd hlt (lt_irrefl _)
  · intro row hrow hs
    rcases hrows row hrow with hrow | rfl
    · exact h.deliveredRow row hrow hs
    · rw [hstatus] at hs
      cases hs
  · intro a ha hd
    refine h.givenUp a ha (hd.imp id ?_)
    rintro ⟨row, hrow, hrid, hs⟩
    rcases hrows row hrow with hrow | rfl
    · exact ⟨row, hrow, hrid, hs⟩
    · rw [hstatus] at hs
      cases hs

theorem Ordered.abandon (h : Ordered b s) {n : ℕ} (hn : s.isOf b n → s.Turn b n)
    (reached : Bool) : Ordered b (s.abandon n reached) := by
  unfold System.abandon
  split_ifs
  · exact h
  · refine { h with late := fun m hm hb => ?_ }
    rcases List.mem_append.mp hm with hm | hm
    · exact h.late m hm hb
    · rw [List.mem_singleton.mp hm] at hb ⊢
      exact hn hb

/-- A request that is open and has its turn is applied. -/
theorem Ordered.apply (h : Ordered b s) (hw : WellFormed s) {n : ℕ}
    (hturn : s.isOf b n → s.Turn b n) (hopen : s.isOf b n → s.Open n) :
    Ordered b { s with applied := s.applied ++ [n] } := by
  have hmem : ∀ {m}, m ∈ s.applied → m ∈ s.applied ++ [n] := fun hm => List.mem_append_left _ hm
  -- an open request is not given up
  have hnot : ∀ a ∈ s.callsOf b, a.number = n → ¬ s.Dead a := by
    rintro a ha rfl hd
    have hb := hw.isOf_iff.mpr ⟨a, ha, rfl⟩
    have hac := (mem_callsOf.mp ha).1
    have hsettled := hopen hb a (Table.get_eq_of_mem hw.unique hac)
    rw [System.Settled, not_and_or, not_not, not_not] at hsettled
    rcases hsettled with hway | ⟨row, hrow, hid, hs⟩
    · rcases hd with hrefused | ⟨row, hrow, hid, -⟩
      · rw [hrefused] at hway
        cases hway
      · exact hw.no_row hac hway row hrow hid
    · rcases hd with hrefused | ⟨row', hrow', hid', hs'⟩
      · obtain ⟨a', ha', hn', -, hq⟩ := hw.rows row hrow
        rw [hw.call_eq ha' hac (hn'.trans hid), hrefused] at hq
        cases hq
      · rw [Table.eq_of_key_eq hw.uniqueRows hrow hrow' (hid.trans hid'.symm), hs'] at hs
        cases hs
  refine
    { h with
      applied := ?_, order := ?_, givenUp := ?_
      reached := fun a ha hp => hmem (h.reached a ha hp)
      replayed := fun r hr hp row hrow => hmem (h.replayed r hr hp row hrow)
      delivered := fun a ha hp => hmem (h.delivered a ha hp)
      deliveredRow := fun row hrow hs => hmem (h.deliveredRow row hrow hs) }
  · intro m hm hb
    rcases List.mem_append.mp hm with hm | hm
    · exact h.applied m hm hb
    · rw [List.mem_singleton.mp hm] at hb ⊢
      exact hturn hb
  · rw [List.pairwise_append]
    refine ⟨h.order, List.pairwise_singleton _ _, fun m hm m' hm' hbm hbn => ?_⟩
    rw [List.mem_singleton] at hm'
    subst hm'
    -- were a newer one applied already, this one would be settled
    by_contra hlt
    obtain ⟨a, ha, han⟩ := hw.isOf_iff.mp hbn
    have hsettled := h.applied m hm hbm a ha (by omega)
    refine hopen hbn a ?_ hsettled
    rw [← han]
    exact Table.get_eq_of_mem hw.unique (mem_callsOf.mp ha).1
  · intro a ha hd happ
    rcases List.mem_append.mp happ with happ | happ
    · exact h.givenUp a ha hd happ
    · exact hnot a ha (List.mem_singleton.mp happ) hd

/-! ## Relays -/

/-- A relay drops rows of its batch, or goes on with the first one. -/
theorem Ordered.setRelay (h : Ordered b s) {k : ℕ} {f : Relay J → Relay J}
    (hbatch : ∀ r ∈ s.relays, r.number = k → ∀ row ∈ (f r).batch, row ∈ r.batch)
    (hposting : ∀ r ∈ s.relays, r.number = k → (f r).posting = some true →
      ∀ row ∈ (f r).batch.head?, row.id ∈ s.applied) : Ordered b (s.setRelay k f) := by
  refine { h with claimed := ?_, replayed := ?_ }
  · intro r hr row hrow hb
    rcases Table.mem_modify.mp hr with ⟨hr, -⟩ | ⟨a, ha, hk, rfl⟩
    · exact h.claimed r hr row hrow hb
    · exact h.claimed a ha row (hbatch a ha hk row hrow) hb
  · intro r hr
    rcases Table.mem_modify.mp hr with ⟨hr, -⟩ | ⟨a, ha, hk, rfl⟩
    · exact h.replayed r hr
    · exact hposting a ha hk

/-- What may become of a row: it is not pending again, and it is settled as its request is. -/
structure Settles (b : Uuid) (s : System J)
    (f : AppointmentCacheOutbox J → AppointmentCacheOutbox J) : Prop where
  id : ∀ row, (f row).id = row.id
  request : ∀ row, (f row).request = row.request
  createdAt : ∀ row, (f row).createdAt = row.createdAt
  pending : ∀ row ∈ s.outbox, (f row).status = .pending → row.status = .pending
  delivered : ∀ row ∈ s.outbox, (f row).status = .delivered → row.id ∈ s.applied
  dead : ∀ row ∈ s.outbox, row.request.bookingId = b → (f row).status = .dead →
    row.status = .dead ∨ row.id ∉ s.applied

theorem Ordered.mapOutbox (h : Ordered b s) (hw : WellFormed s)
    {f : AppointmentCacheOutbox J → AppointmentCacheOutbox J} (hf : Settles b s f) :
    Ordered b { s with outbox := s.outbox.map f } := by
  have hturn : ∀ {n}, s.Turn b n → ({ s with outbox := s.outbox.map f } : System J).Turn b n := by
    intro n ht a ha hlt
    obtain ⟨hover, hpending⟩ := ht a ha hlt
    refine ⟨hover, ?_⟩
    rintro ⟨row, hrow, hrid, hrs⟩
    obtain ⟨row', hrow', rfl⟩ := List.mem_map.mp hrow
    exact hpending ⟨row', hrow', (hf.id row').symm.trans hrid, hf.pending row' hrow' hrs⟩
  refine
    { h with
      created := ?_, deliveredRow := ?_, givenUp := ?_
      posting := fun a ha r hp => hturn (h.posting a ha r hp)
      claimed := fun r hr row hrow hb => hturn (h.claimed r hr row hrow hb)
      late := fun n hn hb => hturn (h.late n hn hb)
      applied := fun n hn hb => hturn (h.applied n hn hb) }
  · intro row hrow row' hrow' hb hb' hp hp' hlt
    obtain ⟨x, hx, rfl⟩ := List.mem_map.mp hrow
    obtain ⟨y, hy, rfl⟩ := List.mem_map.mp hrow'
    rw [hf.createdAt, hf.createdAt]
    rw [hf.request] at hb hb'
    rw [hf.id, hf.id] at hlt
    exact h.created x hx y hy hb hb' (hf.pending x hx hp) (hf.pending y hy hp') hlt
  · intro row hrow hs
    obtain ⟨x, hx, rfl⟩ := List.mem_map.mp hrow
    rw [hf.id]
    exact hf.delivered x hx hs
  · intro a ha hd
    rcases hd with hrefused | ⟨row, hrow, hid, hs⟩
    · exact h.givenUp a ha (.inl hrefused)
    · obtain ⟨x, hx, rfl⟩ := List.mem_map.mp hrow
      rw [hf.id] at hid
      obtain ⟨c, hc, hn, hreq, -⟩ := hw.rows x hx
      have hb : x.request.bookingId = b := by
        rw [← hreq, hw.call_eq hc (mem_callsOf.mp ha).1 (hn.trans hid)]
        exact (mem_callsOf.mp ha).2
      rcases hf.dead x hx hb hs with hdead | hnot
      · exact h.givenUp a ha (.inr ⟨x, hx, hid, hdead⟩)
      · exact hid ▸ hnot

/-- The rows of a new batch have their turn: nothing older is pending, and no older call is under way. -/
theorem Ordered.turn_of_claimable (h : Ordered b s) (hw : WellFormed s) {now : Instant}
    {row : AppointmentCacheOutbox J} (hrow : row ∈ s.outbox) (hb : row.request.bookingId = b)
    (hclaim : Claimable s.outbox now row) : s.Turn b row.id := by
  obtain ⟨hpending, -, holdest⟩ := hclaim
  obtain ⟨c, hc, hn, hq⟩ := hw.call_of_row hrow hb
  intro a ha hlt
  have hissued : c.phase ≠ .issued := by
    rw [hq]
    decide
  refine ⟨h.checked c hc hissued a ha (hn.symm ▸ hlt), ?_⟩
  rintro ⟨older, holder, hid, hs⟩
  obtain ⟨a', ha', hn', hreq', -⟩ := hw.rows older holder
  have hob : older.request.bookingId = b := by
    rw [← hreq', hw.call_eq ha' (mem_callsOf.mp ha).1 (hn'.trans hid)]
    exact (mem_callsOf.mp ha).2
  refine holdest older holder (hob.trans hb.symm) hs ?_
  exact h.created older holder row hrow hob hb hs hpending (hid.symm ▸ hlt)

theorem Ordered.startRelay (h : Ordered b s) {k : ℕ} (rows : List (AppointmentCacheOutbox J))
    (hrows : ∀ row ∈ rows, row.request.bookingId = b → s.Turn b row.id) :
    Ordered b { s with relays := s.relays ++ [{ number := k, batch := rows }] } := by
  refine { h with claimed := ?_, replayed := ?_ }
  · intro r hr
    rcases List.mem_append.mp hr with hr | hr
    · exact h.claimed r hr
    · obtain rfl := List.mem_singleton.mp hr
      exact hrows
  · intro r hr
    rcases List.mem_append.mp hr with hr | hr
    · exact h.replayed r hr
    · obtain rfl := List.mem_singleton.mp hr
      exact fun hp => nomatch hp

/-! ## Steps -/

theorem WellFormed.isOf_batch (hw : WellFormed s) {r : Relay J} (hr : r ∈ s.relays)
    {row : AppointmentCacheOutbox J} (hrow : row ∈ r.batch) :
    s.isOf b row.id ↔ row.request.bookingId = b := by
  obtain ⟨c, hc, hn, hreq, -⟩ := hw.call_of_batch hr hrow
  rw [hw.isOf_iff, ← hreq]
  constructor
  · rintro ⟨a, ha, han⟩
    rw [← hw.call_eq (mem_callsOf.mp ha).1 hc (han.trans hn.symm)]
    exact (mem_callsOf.mp ha).2
  · exact fun hb => ⟨c, mem_callsOf.mpr ⟨hc, hb⟩, hn⟩

/-- The next phase of a call that has asked for pending rows. -/
theorem Ordered.enters (h : Ordered b s) {c : Call J} (hc : c ∈ s.calls) (hissued : c.phase ≠ .issued)
    {phase : Phase} (hposting : ∀ reached, phase = .posting reached → c.phase = .posting false)
    (hrefused : phase = .refused → c.number ∉ s.applied) (hkept : phase ≠ .lost) :
    c.request.bookingId = b → Enters b s c phase := by
  intro hb
  have hcb : c ∈ s.callsOf b := mem_callsOf.mpr ⟨hc, hb⟩
  exact
    { checked := fun _ => h.checked c hcb hissued
      posting := fun reached hphase => h.posting c hcb false (hposting reached hphase)
      refused := hrefused
      kept := hkept }

theorem Ordered.enqueue (h : Ordered b s) (hw : WellFormed s) {c : Call J} (hc : c ∈ s.calls)
    (hway : c.phase.underWay) (hissued : c.phase ≠ .issued) {now : Instant} {failed : Bool}
    (hrec : c.request.bookingId = b → Recorded b s now failed) :
    Ordered b (s.enqueue settings c now failed) := by
  unfold System.enqueue
  split_ifs with hfailed
  · refine h.setPhase hw.unique hc hway (by simp) fun hb => ?_
    have := (hrec hb).1
    rw [hfailed] at this
    cases this
  · have hinsert := h.insert settings hw hc hway fun hb => (hrec hb).2
    exact hinsert.setPhase (c := c) hw.unique hc hway (by simp)
      (hinsert.enters hc hissued (by simp) (by simp) (by simp))

theorem Ordered.receive (h : Ordered b s) (hw : WellFormed s) {c : Call J} (hc : c ∈ s.calls)
    {reached : Bool} (hphase : c.phase = .posting reached) {reply : Reply} {now : Instant}
    {failed : Bool} (hrec : c.request.bookingId = b →
      Received settings b s c.number now failed (CacheOutbox.post reply)) :
    Ordered b (s.receive settings c reached reply now failed) := by
  have hway : c.phase.underWay := by rw [hphase]; rfl
  have hissued : c.phase ≠ .issued := by rw [hphase]; simp
  have hturn : s.isOf b c.number → s.Turn b c.number := by
    intro hb
    obtain ⟨a, ha, han⟩ := hw.isOf_iff.mp hb
    obtain rfl := hw.call_eq (mem_callsOf.mp ha).1 hc han
    exact h.posting a ha reached hphase
  have habandon := h.abandon hturn reached
  have hwabandon := hw.abandon (hw.number_lt hc) reached
  have hc' : c ∈ (s.abandon c.number reached).calls := (calls_abandon s _ _).symm ▸ hc
  have hsame : (s.abandon c.number reached).outbox = s.outbox ∧
      (s.abandon c.number reached).applied = s.applied := by
    unfold System.abandon
    split_ifs <;> exact ⟨rfl, rfl⟩
  unfold System.receive
  split
  · split_ifs with hreached
    · refine h.setPhase hw.unique hc hway (fun _ => h.reached c hc (by rw [hphase, hreached])) ?_
      exact h.enters hc hissued (by simp) (by simp) (by simp)
    · exact h
  · rename_i e hpost
    rw [hpost] at hrec
    simp only [Received] at hrec
    split_ifs with hretry
    · refine habandon.enqueue hwabandon hc' hway hissued fun hb => ?_
      have hwritten := hrec hb
      rw [if_pos hretry] at hwritten
      refine ⟨hwritten.1, ?_⟩
      rw [hsame.1]
      exact hwritten.2
    · refine habandon.setPhase hwabandon.unique hc' hway (by simp) fun hb => ?_
      have hnot := hrec hb
      rw [if_neg hretry] at hnot
      exact habandon.enters hc' hissued (by simp) (fun _ => hsame.2.symm ▸ hnot) (by simp) hb

/-- A call asks for pending rows. -/
theorem Ordered.check (h : Ordered b s) (hw : WellFormed s) {c : Call J} (hc : c ∈ s.calls)
    (hphase : c.phase = .issued) {failed : Bool}
    (hcheck : c.request.bookingId = b →
      (∀ c' ∈ s.callsOf b, c'.number < c.number → ¬ c'.phase.underWay) ∧
        (settings.cacheOutboxEnabled ∧ failed = false ∨ ¬ hasPendingForBooking s.outbox b)) :
    Ordered b (if settings.cacheOutboxEnabled ∧ ¬ failed ∧
      hasPendingForBooking s.outbox c.request.bookingId then s.setPhase c.number .behind
      else s.setPhase c.number (.posting false)) := by
  have hway : c.phase.underWay := by rw [hphase]; rfl
  split_ifs with hpending
  · refine h.setPhase hw.unique hc hway (by simp) fun hb => ?_
    exact
      { checked := fun _ => (hcheck hb).1
        posting := fun _ hp => nomatch hp
        refused := fun hp => nomatch hp
        kept := fun hp => nomatch hp }
  · refine h.setPhase hw.unique hc hway (by simp) fun hb => ?_
    have hnone : ¬ hasPendingForBooking s.outbox b := by
      rcases (hcheck hb).2 with ⟨henabled, hfailed⟩ | hnone
      · rw [hb, hfailed] at hpending
        simpa [henabled] using hpending
      · exact hnone
    have hturn : s.Turn b c.number := by
      refine fun a ha hlt => ⟨(hcheck hb).1 a ha hlt, ?_⟩
      rintro ⟨row, hrow, hid, hs⟩
      obtain ⟨a', ha', hn', hreq', -⟩ := hw.rows row hrow
      have hrb : row.request.bookingId = b := by
        rw [← hreq', hw.call_eq ha' (mem_callsOf.mp ha).1 (hn'.trans hid)]
        exact (mem_callsOf.mp ha).2
      exact hnone (List.any_eq_true.mpr ⟨row, hrow, by simp [hrb, hs]⟩)
    exact
      { checked := fun _ => (hcheck hb).1
        posting := fun _ _ => hturn
        refused := fun hp => nomatch hp
        kept := fun hp => nomatch hp }

theorem settles_leased (h : Ordered b s) (ids : List Uuid) (now : Instant) :
    Settles b s (leased ids now) where
  id row := (leased_id ids now row).1
  request row := (leased_id ids now row).2.1
  createdAt row := (leased_id ids now row).2.2.1
  pending row _ hs := (leased_id ids now row).2.2.2 ▸ hs
  delivered row hrow hs := h.deliveredRow row hrow ((leased_id ids now row).2.2.2 ▸ hs)
  dead row _ _ hs := .inl ((leased_id ids now row).2.2.2 ▸ hs)

theorem settles_postponed (h : Ordered b s) (id : Uuid) (now : Instant) :
    Settles b s fun row => if Table.Keyed.key row = id then postponed now row else row := by
  have hsame : ∀ row : AppointmentCacheOutbox J, ∀ x : AppointmentCacheOutbox J,
      x = (if Table.Keyed.key row = id then postponed now row else row) →
      x.id = row.id ∧ x.request = row.request ∧ x.createdAt = row.createdAt ∧
        x.status = row.status := by
    rintro row _ rfl
    split_ifs <;> exact ⟨rfl, rfl, rfl, rfl⟩
  exact
    { id := fun row => (hsame row _ rfl).1
      request := fun row => (hsame row _ rfl).2.1
      createdAt := fun row => (hsame row _ rfl).2.2.1
      pending := fun row _ hs => (hsame row _ rfl).2.2.2 ▸ hs
      delivered := fun row hrow hs => h.deliveredRow row hrow ((hsame row _ rfl).2.2.2 ▸ hs)
      dead := fun row _ _ hs => .inl ((hsame row _ rfl).2.2.2 ▸ hs) }

/-- The reply to a relay settles the row, or leaves it pending. -/
theorem settles_finished (settings : Settings) (h : Ordered b s) (row : AppointmentCacheOutbox J)
    (result : Except UpstreamError Unit) (now : Instant)
    (hok : result = .ok () → row.id ∈ s.applied)
    (hgive : ∀ x ∈ s.outbox, x.request.bookingId = b → x.id = row.id →
      Replayed settings s row result) :
    Settles b s fun x => if Table.Keyed.key x = row.id then finished settings row now result x
      else x := by
  refine
    { id := fun x => ?_, request := fun x => ?_, createdAt := fun x => ?_,
      pending := fun x hx => ?_, delivered := fun x hx => ?_, dead := fun x hx hb => ?_ }
  · split_ifs
    · exact (finished_id row x now result).1
    · rfl
  · split_ifs
    · exact (finished_id row x now result).2.1
    · rfl
  · split_ifs
    · exact (finished_id row x now result).2.2
    · rfl
  · split_ifs
    · unfold finished
      split
      · exact fun hs => nomatch hs
      · split_ifs
        · exact fun hs => nomatch hs
        · exact id
    · exact id
  · split_ifs with hkey
    · unfold finished
      split
      · exact fun _ => (show x.id = row.id from hkey) ▸ hok rfl
      · split_ifs
        · exact fun hs => nomatch hs
        · exact h.deliveredRow x hx
    · exact h.deliveredRow x hx
  · split_ifs with hkey
    · have hreplayed := hgive x hx hb hkey
      unfold finished
      split
      · exact fun hs => nomatch hs
      · rename_i e
        split_ifs with hgives
        · exact fun _ => .inr ((show x.id = row.id from hkey) ▸ hreplayed hgives)
        · exact .inl
    · exact .inl

theorem Ordered.finish (h : Ordered b s) (hw : WellFormed s) {r : Relay J}
    {row : AppointmentCacheOutbox J} {rest : List (AppointmentCacheOutbox J)}
    (hr : Table.get s.relays r.number = some r) (hbatch : r.batch = row :: rest) {reached : Bool}
    (hposting : r.posting = some reached) {result : Except UpstreamError Unit} {now : Instant}
    (hok : result = .ok () → reached = true)
    (hgive : row.request.bookingId = b → Replayed settings s row result) :
    Ordered b (s.finish settings r row rest reached result now) := by
  obtain ⟨hmem, -⟩ := Table.get_some hr
  have hrow : row ∈ r.batch := hbatch ▸ List.mem_cons_self
  have hsettles := settles_finished settings h row result now (fun hresult => h.replayed r hmem (by rw [hposting, hok hresult]) row
      (by rw [hbatch]; rfl)) fun x hx hb hid => by
        obtain ⟨x', hx', hid', hreq'⟩ := hw.batches r hmem row hrow
        have hxx : x = x' := Table.eq_of_key_eq hw.uniqueRows hx hx' (hid.trans hid'.symm)
        rw [hxx, hreq'] at hb
        exact hgive hb
  obtain ⟨f, hf⟩ : ∃ f, finished settings row now result = f := ⟨_, rfl⟩
  have hid : ∀ x, (f x).id = x.id ∧ (f x).request = x.request :=
    fun x => hf ▸ ⟨(finished_id row x now result).1, (finished_id row x now result).2.1⟩
  rw [hf] at hsettles
  have hwrite : Ordered b { s with outbox := Table.modify s.outbox row.id f } :=
    h.mapOutbox hw hsettles
  have hwwrite := hw.modifyOutbox row.id (f := f) (fun x => (hid x).1) fun x => (hid x).2
  have habandon := hwrite.abandon (n := row.id) (fun hb => hwrite.claimed r hmem row hrow
    ((hwwrite.isOf_batch hmem hrow).mp hb)) reached
  -- the write and the relay are apart from one another
  have hsame : ∀ g : Relay J → Relay J, { (s.abandon row.id reached).setRelay r.number g with
      outbox := Table.modify s.outbox row.id f } = System.setRelay (System.abandon
        { s with outbox := Table.modify s.outbox row.id f } row.id reached) r.number g := by
    intro g
    unfold System.abandon
    split_ifs <;> rfl
  unfold System.finish
  dsimp only
  rw [hf, hsame]
  refine habandon.setRelay (fun a ha hk x hx => ?_) fun a ha hk hp => ?_
  · rw [relays_abandon] at ha
    obtain rfl := Table.eq_of_key_eq hw.uniqueRelays ha hmem hk
    rw [hbatch]
    exact List.mem_cons_of_mem _ hx
  · cases hp

theorem ordered_step (h : Ordered b s) (hw : WellFormed s) {ev : Event J}
    (hev : Undisturbed settings b s ev) : Ordered b (step settings s ev) := by
  cases ev with
  | issue request => exact h.issue hw request
  | check n failed =>
    refine withCall_rule h fun c hc hn => ?_
    subst hn
    by_cases hphase : c.phase = .issued
    · rw [if_neg (not_not.mpr hphase)]
      exact h.check hw hc hphase
        fun hb => hev (hw.isOf_iff.mpr ⟨c, mem_callsOf.mpr ⟨hc, hb⟩, rfl⟩)
    · rw [if_pos hphase]
      exact h
  | enqueue n now failed =>
    refine withCall_rule h fun c hc hn => ?_
    subst hn
    split_ifs with hphase
    · exact h.enqueue hw hc (by rw [hphase]; rfl) (by rw [hphase]; simp)
        fun hb => hev (hw.isOf_iff.mpr ⟨c, mem_callsOf.mpr ⟨hc, hb⟩, rfl⟩)
    · exact h
  | reach n =>
    refine withCall_rule h fun c hc hn => ?_
    subst hn
    split_ifs with hphase
    swap
    · exact h
    have hway : c.phase.underWay := by rw [hphase]; rfl
    have hget := Table.get_eq_of_mem hw.unique hc
    have hof : s.isOf b c.number → c ∈ s.callsOf b := by
      rintro ⟨a, ha, hb⟩
      obtain rfl : a = c := Option.some.inj (ha.symm.trans hget)
      exact mem_callsOf.mpr ⟨hc, hb⟩
    have happly := h.apply hw (n := c.number) (fun hb => h.posting c (hof hb) false hphase)
      fun hb a ha hsettled => by
        obtain rfl : a = c := Option.some.inj (ha.symm.trans hget)
        exact hsettled.1 hway
    refine happly.setPhase (c := c) hw.unique hc hway
      (fun _ => List.mem_append_right _ (List.mem_singleton_self _)) ?_
    exact happly.enters hc (by rw [hphase]; simp) (fun _ _ => hphase) (by simp) (by simp)
  | receive n reply now failed =>
    refine withCall_rule h fun c hc hn => ?_
    subst hn
    split
    · rename_i reached hphase
      exact h.receive hw hc hphase
        fun hb => hev (hw.isOf_iff.mpr ⟨c, mem_callsOf.mpr ⟨hc, hb⟩, rfl⟩)
    · exact h
  | claim k ids now =>
    show Ordered b (if _ then _ else _)
    split_ifs with hclaim
    swap
    · exact h
    obtain ⟨hk, -, hdue⟩ := hclaim
    have hstart := h.startRelay (k := k) (s.rows ids) fun row hrow hb =>
      h.turn_of_claimable hw (mem_rows hrow) hb (hdue.claimable row hrow)
    have hwstart := hw.startRelay hk (s.rows ids) fun row hrow =>
      ⟨row, mem_rows hrow, rfl, rfl⟩
    exact hstart.mapOutbox hwstart (settles_leased hstart ids now)
  | skip k now =>
    refine withRelay_rule h fun r row rest hr hbatch => ?_
    obtain ⟨hmem, hk⟩ := Table.get_some hr
    split_ifs with hskip
    swap
    · exact h
    have hself : ∀ a ∈ s.relays, a.number = k → a = r :=
      fun a ha hka => Table.eq_of_key_eq hw.uniqueRelays ha hmem (hka.trans hk.symm)
    have hput := h.mapOutbox hw (settles_postponed h row.id now)
    refine hput.setRelay (k := k) (f := fun a => { a with batch := rest })
      (fun a ha hka x hx => ?_) fun a ha hka hp => ?_
    · obtain rfl := hself a ha hka
      rw [hbatch]
      exact List.mem_cons_of_mem _ hx
    · obtain rfl := hself a ha hka
      rw [hskip.1] at hp
      cases hp
  | post k =>
    refine withRelay_rule h fun r row rest hr hbatch => ?_
    split_ifs
    · exact h.setRelay (fun _ _ _ _ hx => hx) fun _ _ _ hp => nomatch hp
    · exact h
  | reachFrom k =>
    refine withRelay_rule h fun r row rest hr hbatch => ?_
    obtain ⟨hmem, hk⟩ := Table.get_some hr
    have hrow : row ∈ r.batch := hbatch ▸ List.mem_cons_self
    split_ifs with hposting
    swap
    · exact h
    have hb := hw.isOf_batch (b := b) hmem hrow
    have happly := h.apply hw (n := row.id) (fun hof => h.claimed r hmem row hrow (hb.mp hof))
      fun hof => hev r hr row (by rw [hbatch]; rfl) (hb.mp hof)
    refine happly.setRelay (k := k) (f := fun a => { a with posting := some true })
      (fun _ _ _ _ hx => hx) fun a ha hka _ x hx => ?_
    obtain rfl := Table.eq_of_key_eq hw.uniqueRelays ha hmem (hka.trans hk.symm)
    rw [hbatch] at hx
    obtain rfl := Option.some.inj hx
    exact List.mem_append_right _ (List.mem_singleton_self _)
  | finish k reply now =>
    refine withRelay_rule h fun r row rest hr hbatch => ?_
    have hk : r.number = k := (Table.get_some hr).2
    subst hk
    split
    · rename_i reached hposting
      split_ifs with hnone
      · exact h
      · refine h.finish hw hr hbatch hposting (fun hok => ?_) fun hb => ?_
        · by_contra hreached
          exact hnone ⟨hok, hreached⟩
        · exact hev r hr row (by rw [hbatch]; rfl) hb
    · exact h
  | stop k =>
    refine withRelay_rule h fun r row rest hr hbatch => ?_
    obtain ⟨hmem, -⟩ := Table.get_some hr
    have hrow : row ∈ r.batch := hbatch ▸ List.mem_cons_self
    split_ifs
    · have habandon := h.abandon (n := row.id) (fun hb => h.claimed r hmem row hrow
        ((hw.isOf_batch hmem hrow).mp hb)) false
      exact habandon.setRelay (fun _ _ _ _ hx => nomatch hx) fun _ _ _ hp => nomatch hp
    · exact h.setRelay (fun _ _ _ _ hx => nomatch hx) fun _ _ _ hp => nomatch hp
  | reachLate n =>
    show Ordered b (if _ then _ else _)
    split_ifs with hlate
    · have happly := h.apply hw (h.late n hlate) hev
      exact { happly with late := fun m hm => happly.late m (List.mem_of_mem_erase hm) }
    · exact h

/-! ## The order -/

theorem Ordered.mem_appliedTo (h : Ordered b s) (hw : WellFormed s)
    (hsettled : ∀ c ∈ s.callsOf b, s.Settled c) {n : ℕ} :
    n ∈ s.appliedTo b ↔ n ∈ ((s.callsOf b).filter fun c => ¬ s.Dead c).map Call.number := by
  simp only [System.appliedTo, List.mem_filter, decide_eq_true_eq, List.mem_map]
  constructor
  · rintro ⟨happlied, hof⟩
    obtain ⟨c, hc, hn⟩ := hw.isOf_iff.mp hof
    refine ⟨c, ⟨hc, fun hd => ?_⟩, hn⟩
    exact h.givenUp c hc hd (hn.symm ▸ happlied)
  · rintro ⟨c, ⟨hc, hd⟩, rfl⟩
    refine ⟨?_, hw.isOf_iff.mpr ⟨c, hc, rfl⟩⟩
    obtain ⟨hover, hpending⟩ := hsettled c hc
    have hmem := (mem_callsOf.mp hc).1
    cases hphase : c.phase with
    | issued => exact absurd (by rw [hphase]; rfl) hover
    | behind => exact absurd (by rw [hphase]; rfl) hover
    | posting reached => exact absurd (by rw [hphase]; rfl) hover
    | delivered => exact h.delivered c hmem hphase
    | refused => exact absurd (.inl hphase) hd
    | lost => exact absurd hphase (h.kept c hc)
    | queued =>
      obtain ⟨row, hrow, hid⟩ := hw.queued c hmem hphase
      cases hs : row.status with
      | pending => exact absurd ⟨row, hrow, hid, hs⟩ hpending
      | dead => exact absurd (.inr ⟨row, hrow, hid, hs⟩) hd
      | delivered => exact hid ▸ h.deliveredRow row hrow hs

theorem WellFormed.callsOf_sorted (hw : WellFormed s) :
    (s.callsOf b).Pairwise fun c c' => c.number < c'.number := by
  have hall : (s.calls.map Call.number).Pairwise (· < ·) := by
    rw [hw.numbers]
    exact List.pairwise_lt_range
  exact (List.pairwise_map.mp hall).filter _

theorem WellFormed.requests (hw : WellFormed s) {calls : List (Call J)}
    (hcalls : ∀ c ∈ calls, c ∈ s.calls) :
    (calls.map Call.number).filterMap (fun n => (Table.get s.calls n).map Call.request) =
      calls.map Call.request := by
  induction calls with
  | nil => rfl
  | cons c calls ih =>
    have hget : Table.get s.calls c.number = some c :=
      Table.get_eq_of_mem hw.unique (hcalls c List.mem_cons_self)
    have htail := ih fun a ha => hcalls a (List.mem_cons_of_mem _ ha)
    rw [List.map_cons, List.filterMap_cons, hget, List.map_cons, htail]
    rfl

theorem Ordered.inIssueOrder (h : Ordered b s) (hw : WellFormed s)
    {apply : CacheRequest J → σ → σ} (idem : ∀ r x, apply r (apply r x) = apply r x) (x : σ) :
    InIssueOrder b apply x s := by
  have horder : (s.appliedTo b).Pairwise (· ≤ ·) := by
    refine List.pairwise_filter.mpr (h.order.imp fun hle hm hn => ?_)
    exact hle (of_decide_eq_true hm) (of_decide_eq_true hn)
  refine ⟨horder, fun hsettled => ?_⟩
  have hsub : ∀ c ∈ (s.callsOf b).filter fun c => ¬ s.Dead c, c ∈ s.calls :=
    fun c hc => (mem_callsOf.mp (List.mem_of_mem_filter hc)).1
  have hsorted : (((s.callsOf b).filter fun c => ¬ s.Dead c).map Call.number).Pairwise (· < ·) :=
    List.pairwise_map.mpr (hw.callsOf_sorted.filter _)
  unfold System.cache System.intended applyAll
  rw [← hw.requests hsub, List.foldl_filterMap, List.foldl_filterMap]
  refine Replay.foldl_eq_of_sorted (fun y n => ?_) horder hsorted
    (fun n => h.mem_appliedTo hw hsettled) x
  cases (Table.get s.calls n).map Call.request with
  | none => rfl
  | some request => exact idem request y

/-- Along a run whose events do not disturb the order of the booking, its requests are applied in the
order of their issue. -/
theorem applied_in_issue_order (settings : Settings) (b : Uuid) (apply : CacheRequest J → σ → σ)
    (idem : ∀ r x, apply r (apply r x) = apply r x) (x : σ) (evs : List (Event J))
    (h : Runs.AllSteps (step settings) (Undisturbed settings b) {} evs) :
    Runs.Always (step settings) (InIssueOrder b apply x) {} evs := by
  have hrun := Runs.always_of_allSteps (P := fun s : System J => WellFormed s ∧ Ordered b s)
    (fun s ev hs hev => ⟨wellFormed_step hs.1 ev, ordered_step hs.2 hs.1 hev⟩)
    ⟨wellFormed_empty, ordered_empty⟩ h
  exact hrun.mono fun s hs => hs.2.inIssueOrder hs.1 idem x

/-- A request that times out, and one behind it that cancels the appointment; the relay takes one after
the other. -/
theorem applied_in_issue_order_example :
    Runs.Always (step {}) (InIssueOrder 1 (fun r _ => r.payload) none) {}
      [.issue ⟨1, "/create/", some "booked"⟩, .check 0 false, .receive 0 (.failed .timeout) 0 false,
        .issue ⟨1, "/status/", none⟩, .check 1 false, .enqueue 1 1000000 false,
        .claim 1 [0] 10000000, .post 1, .reachFrom 1, .finish 1 .json 11000000,
        .claim 2 [1] 12000000, .post 2, .reachFrom 2, .finish 2 .json 13000000] :=
  applied_in_issue_order {} 1 (fun r _ => r.payload) (fun _ _ => rfl) none _ (by decide)

/-- A lease that runs out: the first relay posts a row that the second one has delivered long since, and
the appointment is booked again after it has been cancelled. -/
theorem applied_after_newer :
    ¬ Runs.Always (step {}) (InIssueOrder 1 (fun r _ => r.payload) none) {}
      [.issue ⟨1, "/create/", some "booked"⟩, .check 0 false, .receive 0 (.failed .timeout) 0 false,
        .claim 1 [0] 10000000, .claim 2 [0] 100000000, .post 2, .reachFrom 2,
        .finish 2 .json 101000000, .issue ⟨1, "/status/", none⟩, .check 1 false, .reach 1,
        .receive 1 .json 102000000 false, .post 1, .reachFrom 1] :=
  fun h => absurd h.last.order (by decide)

end CacheOutbox
