import UshBookNPay.Booking.CacheOutboxRuns
import UshBookNPay.Lib.Replay

/-!
# When the requests of a booking are applied in the order of their issue

The rows of a booking are claimed one at a time, the oldest first, and a call that finds no pending row
has nothing older left to wait for. So whatever is sent of a booking has its turn: everything older is
settled, for good.
-/

namespace CacheOutbox

variable {J σ : Type} {settings : Settings} {b : Uuid} {s : System J}

theorem mem_callsOf {c : Call J} : c ∈ s.callsOf b ↔ c ∈ s.calls ∧ c.request.bookingId = b := by
  simp [System.callsOf]

theorem mem_setPhase {n : ℕ} {phase : Phase} {c : Call J} :
    c ∈ (s.setPhase n phase).calls ↔ (c ∈ s.calls ∧ c.number ≠ n) ∨
      ∃ a ∈ s.calls, a.number = n ∧ { a with phase := phase } = c := Table.mem_modify

theorem numbers_setPhase (s : System J) (n : ℕ) (phase : Phase) :
    (s.setPhase n phase).calls.map Call.number = s.calls.map Call.number :=
  Table.map_key_modify (f := fun c : Call J => { c with phase := phase }) (fun _ => rfl) s.calls n

theorem length_setPhase (s : System J) (n : ℕ) (phase : Phase) :
    (s.setPhase n phase).calls.length = s.calls.length := List.length_map _

theorem isOf_setPhase {n m : ℕ} {phase : Phase} :
    (s.setPhase n phase).isOf b m ↔ s.isOf b m := by
  unfold System.isOf
  by_cases hm : m = n
  · subst hm
    have hget : Table.get (s.setPhase m phase).calls m =
        (Table.get s.calls m).map fun c => { c with phase := phase } :=
      Table.get_modify_self fun _ => rfl
    rw [hget]
    cases Table.get s.calls m <;> simp
  · have hget : Table.get (s.setPhase n phase).calls m = Table.get s.calls m :=
      Table.get_modify_of_ne (fun _ => rfl) hm
    rw [hget]

theorem withCall_rule {P : System J → Prop} (hs : P s) {n : ℕ} {f : Call J → System J}
    (hf : ∀ c ∈ s.calls, c.number = n → P (f c)) : P (s.withCall n f) := by
  unfold System.withCall
  split
  · rename_i c hc
    obtain ⟨hmem, hn⟩ := Table.get_some hc
    exact hf c hmem hn
  · exact hs

theorem withRelay_rule {P : System J → Prop} (hs : P s) {k : ℕ}
    {f : Relay J → AppointmentCacheOutbox J → List (AppointmentCacheOutbox J) → System J}
    (hf : ∀ r row rest, Table.get s.relays k = some r → r.batch = row :: rest → P (f r row rest)) :
    P (s.withRelay k f) := by
  unfold System.withRelay
  split
  · rename_i r hr
    split
    · rename_i row rest hbatch
      exact hf r row rest hr hbatch
    · exact hs
  · exact hs

/-! ## Well-formed systems -/

/-- Calls are numbered in order; every row is the row of a queued call, and the other way round; a relay
holds rows there are. -/
structure WellFormed (s : System J) : Prop where
  numbers : s.calls.map Call.number = List.range s.calls.length
  rows : ∀ row ∈ s.outbox, ∃ c ∈ s.calls,
    c.number = row.id ∧ c.request = row.request ∧ c.phase = .queued
  queued : ∀ c ∈ s.calls, c.phase = .queued → ∃ row ∈ s.outbox, row.id = c.number
  uniqueRows : Table.Unique s.outbox
  uniqueRelays : Table.Unique s.relays
  batches : ∀ r ∈ s.relays, ∀ row ∈ r.batch,
    ∃ row' ∈ s.outbox, row'.id = row.id ∧ row'.request = row.request
  late : ∀ n ∈ s.late, n < s.calls.length
  applied : ∀ n ∈ s.applied, n < s.calls.length

theorem WellFormed.unique (h : WellFormed s) : Table.Unique s.calls := by
  show (s.calls.map Call.number).Nodup
  rw [h.numbers]
  exact List.nodup_range

theorem WellFormed.number_lt (h : WellFormed s) {c : Call J} (hc : c ∈ s.calls) :
    c.number < s.calls.length := by
  have hmem : c.number ∈ s.calls.map Call.number := List.mem_map_of_mem hc
  rw [h.numbers] at hmem
  exact List.mem_range.mp hmem

theorem WellFormed.call_eq (h : WellFormed s) {c c' : Call J} (hc : c ∈ s.calls) (hc' : c' ∈ s.calls)
    (hn : c.number = c'.number) : c = c' := Table.eq_of_key_eq h.unique hc hc' hn

theorem WellFormed.isOf_iff (h : WellFormed s) {n : ℕ} :
    s.isOf b n ↔ ∃ c ∈ s.callsOf b, c.number = n := by
  constructor
  · rintro ⟨c, hc, hb⟩
    obtain ⟨hmem, hkey⟩ := Table.get_some hc
    exact ⟨c, mem_callsOf.mpr ⟨hmem, hb⟩, hkey⟩
  · rintro ⟨c, hc, rfl⟩
    obtain ⟨hmem, hb⟩ := mem_callsOf.mp hc
    exact ⟨c, Table.get_eq_of_mem h.unique hmem, hb⟩

theorem wellFormed_empty : WellFormed ({} : System J) where
  numbers := rfl
  rows := by simp
  queued := by simp
  uniqueRows := List.nodup_nil
  uniqueRelays := List.nodup_nil
  batches := by simp
  late := by simp
  applied := by simp

theorem WellFormed.issue (h : WellFormed s) (request : CacheRequest J) :
    WellFormed { s with
      calls := s.calls ++ [{ number := s.calls.length, request := request }] } where
  numbers := by
    simp only [List.map_append, h.numbers, List.length_append, List.map_cons, List.map_nil,
      List.length_cons, List.length_nil, List.range_succ]
  rows row hrow := by
    obtain ⟨c, hc, hrest⟩ := h.rows row hrow
    exact ⟨c, List.mem_append_left _ hc, hrest⟩
  queued c hc hphase := by
    rcases List.mem_append.mp hc with hc | hc
    · exact h.queued c hc hphase
    · obtain rfl := List.mem_singleton.mp hc
      cases hphase
  uniqueRows := h.uniqueRows
  uniqueRelays := h.uniqueRelays
  batches := h.batches
  late n hn := by
    have := h.late n hn
    simp only [List.length_append, List.length_cons, List.length_nil]
    omega
  applied n hn := by
    have := h.applied n hn
    simp only [List.length_append, List.length_cons, List.length_nil]
    omega

/-- A call under way, which has no row, goes on to a phase without one. -/
theorem WellFormed.setPhase (h : WellFormed s) {c : Call J} (hc : c ∈ s.calls)
    (hway : c.phase ≠ .queued) {phase : Phase} (hphase : phase ≠ .queued) :
    WellFormed (s.setPhase c.number phase) where
  numbers := by
    rw [length_setPhase]
    exact (numbers_setPhase s _ _).trans h.numbers
  rows row hrow := by
    obtain ⟨a, ha, hid, hreq, hq⟩ := h.rows row hrow
    have hne : a.number ≠ c.number := by
      intro heq
      rw [h.call_eq ha hc heq] at hq
      exact hway hq
    exact ⟨a, mem_setPhase.mpr (.inl ⟨ha, hne⟩), hid, hreq, hq⟩
  queued a ha hq := by
    rcases mem_setPhase.mp ha with ⟨ha, -⟩ | ⟨a', -, -, rfl⟩
    · exact h.queued a ha hq
    · exact absurd hq hphase
  uniqueRows := h.uniqueRows
  uniqueRelays := h.uniqueRelays
  batches := h.batches
  late n hn := (length_setPhase s _ _).symm ▸ h.late n hn
  applied n hn := (length_setPhase s _ _).symm ▸ h.applied n hn

/-- A call under way gets a row. -/
theorem WellFormed.enqueue (h : WellFormed s) {c : Call J} (hc : c ∈ s.calls)
    (hway : c.phase ≠ .queued) (now : Instant) :
    WellFormed { s.setPhase c.number .queued with
      outbox := s.outbox ++ [enqueued settings c.number c.request now] } where
  numbers := by
    rw [length_setPhase]
    exact (numbers_setPhase s _ _).trans h.numbers
  rows row hrow := by
    rcases List.mem_append.mp hrow with hrow | hrow
    · obtain ⟨a, ha, hid, hreq, hq⟩ := h.rows row hrow
      have hne : a.number ≠ c.number := by
        intro heq
        rw [h.call_eq ha hc heq] at hq
        exact hway hq
      exact ⟨a, mem_setPhase.mpr (.inl ⟨ha, hne⟩), hid, hreq, hq⟩
    · obtain rfl := List.mem_singleton.mp hrow
      exact ⟨_, mem_setPhase.mpr (.inr ⟨c, hc, rfl, rfl⟩), rfl, rfl, rfl⟩
  queued a ha hq := by
    rcases mem_setPhase.mp ha with ⟨ha, -⟩ | ⟨a', -, hn, rfl⟩
    · obtain ⟨row, hrow, hid⟩ := h.queued a ha hq
      exact ⟨row, List.mem_append_left _ hrow, hid⟩
    · exact ⟨_, List.mem_append_right _ (List.mem_singleton_self _), hn.symm⟩
  uniqueRows := by
    refine h.uniqueRows.append (Option.eq_none_iff_forall_ne_some.mpr fun row hrow => ?_)
    obtain ⟨hmem, hid⟩ := Table.get_some hrow
    obtain ⟨a, ha, hid', -, hq⟩ := h.rows row hmem
    rw [h.call_eq ha hc (hid'.trans hid)] at hq
    exact hway hq
  uniqueRelays := h.uniqueRelays
  batches r hr row hrow := by
    obtain ⟨row', hrow', hsame⟩ := h.batches r hr row hrow
    exact ⟨row', List.mem_append_left _ hrow', hsame⟩
  late n hn := (length_setPhase s _ _).symm ▸ h.late n hn
  applied n hn := (length_setPhase s _ _).symm ▸ h.applied n hn

theorem WellFormed.abandon (h : WellFormed s) {n : ℕ} (hn : n < s.calls.length) (reached : Bool) :
    WellFormed (s.abandon n reached) := by
  unfold System.abandon
  split_ifs
  · exact h
  · refine { h with late := fun m hm => ?_ }
    rcases List.mem_append.mp hm with hm | hm
    · exact h.late m hm
    · exact List.mem_singleton.mp hm ▸ hn

theorem WellFormed.apply (h : WellFormed s) {n : ℕ} (hn : n < s.calls.length) :
    WellFormed { s with applied := s.applied ++ [n] } := by
  refine { h with applied := fun m hm => ?_ }
  rcases List.mem_append.mp hm with hm | hm
  · exact h.applied m hm
  · exact List.mem_singleton.mp hm ▸ hn

/-- A relay drops rows of its batch. -/
theorem WellFormed.setRelay (h : WellFormed s) (k : ℕ) {f : Relay J → Relay J}
    (hnumber : ∀ r, (f r).number = r.number)
    (hbatch : ∀ r ∈ s.relays, r.number = k → ∀ row ∈ (f r).batch, row ∈ r.batch) :
    WellFormed (s.setRelay k f) := by
  refine { h with uniqueRelays := h.uniqueRelays.modify hnumber k, batches := fun r hr row hrow => ?_ }
  rcases Table.mem_modify.mp hr with ⟨hr, -⟩ | ⟨a, ha, hk, rfl⟩
  · exact h.batches r hr row hrow
  · exact h.batches a ha row (hbatch a ha hk row hrow)

/-- The rows change, and keep their ids and requests. -/
theorem WellFormed.mapOutbox (h : WellFormed s)
    {f : AppointmentCacheOutbox J → AppointmentCacheOutbox J}
    (hid : ∀ row, (f row).id = row.id) (hreq : ∀ row, (f row).request = row.request) :
    WellFormed { s with outbox := s.outbox.map f } := by
  have hmap : (s.outbox.map f).map Table.Keyed.key = s.outbox.map Table.Keyed.key := by
    rw [List.map_map]
    exact List.map_congr_left fun row _ => hid row
  refine { h with rows := ?_, queued := ?_, uniqueRows := ?_, batches := ?_ }
  · intro row hrow
    obtain ⟨a, ha, rfl⟩ := List.mem_map.mp hrow
    obtain ⟨c, hc, h1, h2, h3⟩ := h.rows a ha
    exact ⟨c, hc, h1.trans (hid a).symm, h2.trans (hreq a).symm, h3⟩
  · intro c hc hq
    obtain ⟨row, hrow, h1⟩ := h.queued c hc hq
    exact ⟨f row, List.mem_map_of_mem hrow, (hid row).trans h1⟩
  · show ((s.outbox.map f).map Table.Keyed.key).Nodup
    rw [hmap]
    exact h.uniqueRows
  · intro r hr row hrow
    obtain ⟨row', hrow', h1, h2⟩ := h.batches r hr row hrow
    exact ⟨f row', List.mem_map_of_mem hrow', (hid row').trans h1, (hreq row').trans h2⟩

/-- A new relay holds rows there are. -/
theorem WellFormed.startRelay (h : WellFormed s) {k : ℕ} (hk : Table.get s.relays k = none)
    (rows : List (AppointmentCacheOutbox J))
    (hrows : ∀ row ∈ rows, ∃ row' ∈ s.outbox, row'.id = row.id ∧ row'.request = row.request) :
    WellFormed { s with relays := s.relays ++ [{ number := k, batch := rows }] } := by
  refine { h with uniqueRelays := h.uniqueRelays.append hk, batches := fun r hr => ?_ }
  rcases List.mem_append.mp hr with hr | hr
  · exact h.batches r hr
  · obtain rfl := List.mem_singleton.mp hr
    exact hrows

/-! ## Steps -/

theorem not_queued_of_underWay {phase : Phase} (h : phase.underWay) : phase ≠ .queued := by
  rintro rfl
  cases h

theorem WellFormed.enqueueCall (h : WellFormed s) {c : Call J} (hc : c ∈ s.calls)
    (hway : c.phase ≠ .queued) (now : Instant) (failed : Bool) :
    WellFormed (s.enqueue settings c now failed) := by
  unfold System.enqueue
  split_ifs
  · exact h.setPhase hc hway (by decide)
  · exact h.enqueue hc hway now

theorem calls_abandon (s : System J) (n : ℕ) (reached : Bool) :
    (s.abandon n reached).calls = s.calls := by
  unfold System.abandon
  split_ifs <;> rfl

theorem relays_abandon (s : System J) (n : ℕ) (reached : Bool) :
    (s.abandon n reached).relays = s.relays := by
  unfold System.abandon
  split_ifs <;> rfl

theorem WellFormed.receive (h : WellFormed s) {c : Call J} (hc : c ∈ s.calls)
    (hway : c.phase ≠ .queued) (reached : Bool) (reply : Reply) (now : Instant) (failed : Bool) :
    WellFormed (s.receive settings c reached reply now failed) := by
  have habandon := h.abandon (h.number_lt hc) reached
  have hc' : c ∈ (s.abandon c.number reached).calls := (calls_abandon s _ _).symm ▸ hc
  unfold System.receive
  split
  · split_ifs
    · exact h.setPhase hc hway (by decide)
    · exact h
  · split_ifs
    · exact habandon.enqueueCall hc' hway now failed
    · exact habandon.setPhase hc' hway (by decide)

/-- A row of a batch has a call. -/
theorem WellFormed.call_of_batch (h : WellFormed s) {r : Relay J} (hr : r ∈ s.relays)
    {row : AppointmentCacheOutbox J} (hrow : row ∈ r.batch) :
    ∃ c ∈ s.calls, c.number = row.id ∧ c.request = row.request ∧ c.phase = .queued := by
  obtain ⟨row', hrow', hid, hreq⟩ := h.batches r hr row hrow
  obtain ⟨c, hc, h1, h2, h3⟩ := h.rows row' hrow'
  exact ⟨c, hc, h1.trans hid, h2.trans hreq, h3⟩

theorem WellFormed.id_lt (h : WellFormed s) {r : Relay J} (hr : r ∈ s.relays)
    {row : AppointmentCacheOutbox J} (hrow : row ∈ r.batch) : row.id < s.calls.length := by
  obtain ⟨c, hc, hn, -⟩ := h.call_of_batch hr hrow
  exact hn ▸ h.number_lt hc

theorem finished_id (claimed row : AppointmentCacheOutbox J) (now : Instant)
    (result : Except UpstreamError Unit) :
    (finished settings claimed now result row).id = row.id ∧
      (finished settings claimed now result row).request = row.request ∧
      (finished settings claimed now result row).createdAt = row.createdAt := by
  unfold finished
  split
  · exact ⟨rfl, rfl, rfl⟩
  · split_ifs <;> exact ⟨rfl, rfl, rfl⟩

theorem leased_id (ids : List Uuid) (now : Instant) (row : AppointmentCacheOutbox J) :
    (leased ids now row).id = row.id ∧ (leased ids now row).request = row.request ∧
      (leased ids now row).createdAt = row.createdAt ∧
      (leased ids now row).status = row.status := by
  unfold leased
  split_ifs <;> exact ⟨rfl, rfl, rfl, rfl⟩

/-- One row changes, and keeps its id and request. -/
theorem WellFormed.modifyOutbox (h : WellFormed s) (id : Uuid)
    {f : AppointmentCacheOutbox J → AppointmentCacheOutbox J}
    (hid : ∀ row, (f row).id = row.id) (hreq : ∀ row, (f row).request = row.request) :
    WellFormed { s with outbox := Table.modify s.outbox id f } := by
  refine h.mapOutbox (fun row => ?_) fun row => ?_
  · split_ifs
    · exact hid row
    · rfl
  · split_ifs
    · exact hreq row
    · rfl

theorem WellFormed.finish (h : WellFormed s) {r : Relay J} {row : AppointmentCacheOutbox J}
    {rest : List (AppointmentCacheOutbox J)} (hr : Table.get s.relays r.number = some r)
    (hbatch : r.batch = row :: rest) (reached : Bool) (result : Except UpstreamError Unit)
    (now : Instant) : WellFormed (s.finish settings r row rest reached result now) := by
  obtain ⟨hmem, -⟩ := Table.get_some hr
  have hrow : row ∈ r.batch := hbatch ▸ List.mem_cons_self
  have habandon := h.abandon (h.id_lt hmem hrow) reached
  have hrelay : ∀ f : Relay J → Relay J, (∀ a, (f a).number = a.number) → (∀ a, (f a).batch = rest) →
      WellFormed ((s.abandon row.id reached).setRelay r.number f) := by
    intro f hnumber hf
    refine habandon.setRelay r.number hnumber fun a ha hk x hx => ?_
    rw [relays_abandon] at ha
    obtain rfl := Table.eq_of_key_eq h.uniqueRelays ha hmem hk
    rw [hf] at hx
    rw [hbatch]
    exact List.mem_cons_of_mem _ hx
  have houtbox : s.outbox = (s.abandon row.id reached).outbox := by
    unfold System.abandon
    split_ifs <;> rfl
  unfold System.finish
  rw [houtbox]
  refine (hrelay _ ?_ ?_).modifyOutbox row.id (fun a => (finished_id row a now result).1)
    fun a => (finished_id row a now result).2.1
  · exact fun _ => rfl
  · exact fun _ => rfl

theorem mem_rows {ids : List Uuid} {row : AppointmentCacheOutbox J} (h : row ∈ s.rows ids) :
    row ∈ s.outbox := by
  obtain ⟨id, -, hget⟩ := List.mem_filterMap.mp h
  exact (Table.get_some hget).1

theorem WellFormed.claim (h : WellFormed s) {k : ℕ} (hk : Table.get s.relays k = none)
    (ids : List Uuid) (now : Instant) : WellFormed (s.claim k ids now) := by
  have hstart := h.startRelay hk (s.rows ids) fun row hrow =>
    ⟨row, mem_rows hrow, rfl, rfl⟩
  exact hstart.mapOutbox (fun row => (leased_id ids now row).1)
    fun row => (leased_id ids now row).2.1

theorem wellFormed_step (h : WellFormed s) (ev : Event J) : WellFormed (step settings s ev) := by
  cases ev with
  | issue request => exact h.issue request
  | check n failed =>
    refine withCall_rule h fun c hc hn => ?_
    subst hn
    split_ifs with hphase
    · exact h
    · have hway : c.phase ≠ .queued := fun hq => hphase (by rw [hq]; decide)
      exact h.setPhase hc hway (by decide)
    · have hway : c.phase ≠ .queued := fun hq => hphase (by rw [hq]; decide)
      exact h.setPhase hc hway (by decide)
  | enqueue n now failed =>
    refine withCall_rule h fun c hc hn => ?_
    split_ifs with hphase
    · exact h.enqueueCall hc (by rw [hphase]; decide) now failed
    · exact h
  | reach n =>
    refine withCall_rule h fun c hc hn => ?_
    subst hn
    split_ifs with hphase
    · exact (h.setPhase hc (by rw [hphase]; decide) (by decide)).apply
        ((length_setPhase s _ _).symm ▸ h.number_lt hc)
    · exact h
  | receive n reply now failed =>
    refine withCall_rule h fun c hc hn => ?_
    split
    · rename_i reached hphase
      exact h.receive hc (by rw [hphase]; exact fun hq => by cases hq) reached reply now failed
    · exact h
  | claim k ids now =>
    show WellFormed (if _ then _ else _)
    split_ifs with hclaim
    · exact h.claim hclaim.1 ids now
    · exact h
  | skip k now =>
    refine withRelay_rule h fun r row rest hr hbatch => ?_
    obtain ⟨hmem, hk⟩ := Table.get_some hr
    split_ifs
    · have hrelay := h.setRelay k (f := fun a => { a with batch := rest }) (fun _ => rfl)
        fun a ha hka x hx => by
          obtain rfl := Table.eq_of_key_eq h.uniqueRelays ha hmem (hka.trans hk.symm)
          rw [hbatch]
          exact List.mem_cons_of_mem _ hx
      exact hrelay.modifyOutbox row.id (f := postponed now) (fun _ => rfl) fun _ => rfl
    · exact h
  | post k =>
    refine withRelay_rule h fun r row rest hr hbatch => ?_
    split_ifs
    · exact h.setRelay k (fun _ => rfl) fun _ _ _ _ hx => hx
    · exact h
  | reachFrom k =>
    refine withRelay_rule h fun r row rest hr hbatch => ?_
    obtain ⟨hmem, hk⟩ := Table.get_some hr
    split_ifs
    · have hlt : row.id < s.calls.length := h.id_lt hmem (hbatch ▸ List.mem_cons_self)
      have hrelay := h.setRelay k (f := fun a => { a with posting := some true }) (fun _ => rfl)
        fun _ _ _ _ hx => hx
      exact hrelay.apply hlt
    · exact h
  | finish k reply now =>
    refine withRelay_rule h fun r row rest hr hbatch => ?_
    have hk : r.number = k := (Table.get_some hr).2
    subst hk
    split
    · split_ifs
      · exact h
      · exact h.finish hr hbatch _ _ now
    · exact h
  | stop k =>
    refine withRelay_rule h fun r row rest hr hbatch => ?_
    obtain ⟨hmem, -⟩ := Table.get_some hr
    have hlt : row.id < s.calls.length := h.id_lt hmem (hbatch ▸ List.mem_cons_self)
    split_ifs
    · exact (h.abandon hlt false).setRelay k (fun _ => rfl) fun _ _ _ _ hx => nomatch hx
    · exact h.setRelay k (fun _ => rfl) fun _ _ _ _ hx => nomatch hx
  | reachLate n =>
    show WellFormed (if _ then _ else _)
    split_ifs with hlate
    · have hlt := h.late n hlate
      exact { h.apply hlt with late := fun m hm => h.late m (List.mem_of_mem_erase hm) }
    · exact h

end CacheOutbox
