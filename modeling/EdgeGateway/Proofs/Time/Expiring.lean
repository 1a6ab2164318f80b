import EdgeGateway.Time.Expiring

/-!
# What an expiring cache remembers

A cache is used only by looking a key up, so all that matters of it is which
values still live at which time.  That is a function of what has been stored: the
latest value under the key, for a lifetime from its storing on.  Looking up and
purging do not change it.
-/

namespace EdgeGateway

namespace Expiring

variable {Key Value : Type} [DecidableEq Key]

/-- The value that a look-up finds. -/
def live? (cache : Expiring Key Value) (now : Instant) (key : Key) :
    Option Value :=
  (cache.lookup now key).1

theorem live?_eq (cache : Expiring Key Value) (now : Instant) (key : Key) :
    cache.live? now key =
      (cache.dated? key).bind fun dated =>
        if now.nanos < dated.expiresAt.nanos then some dated.value else none := by
  unfold live? lookup
  cases hentry : cache.dated? key with
  | none => rfl
  | some dated => by_cases hlive : now.nanos < dated.expiresAt.nanos <;>
      simp [Instant.before, hlive]

theorem dated?_of_live? {cache : Expiring Key Value} {now : Instant} {key : Key}
    {value : Value} (hlive : cache.live? now key = some value) :
    ∃ dated, cache.dated? key = some dated ∧ dated.value = value := by
  rw [live?_eq, Option.bind_eq_some_iff] at hlive
  obtain ⟨dated, hentry, hvalue⟩ := hlive
  refine ⟨dated, hentry, ?_⟩
  split at hvalue
  next => exact Option.some.inj hvalue
  next => simp at hvalue

/-- A key has one entry, so finding an entry and having it are the same. -/
theorem dated?_eq_some_iff (cache : Expiring Key Value) (key : Key)
    (dated : Dated Value) :
    cache.dated? key = some dated ↔ (key, dated) ∈ cache.entries := by
  have hfind : ∀ entries : List (Key × Dated Value),
      (entries.map Prod.fst).Nodup →
        ((entries.find? fun entry => entry.1 = key).map Prod.snd = some dated ↔
          (key, dated) ∈ entries) := by
    intro entries hdistinct
    induction entries with
    | nil => simp
    | cons entry entries ih =>
        obtain ⟨known, kept⟩ := entry
        rw [List.map_cons, List.nodup_cons] at hdistinct
        by_cases hsame : known = key
        · subst hsame
          have habsent : (known, dated) ∉ entries := fun hmem =>
            hdistinct.1 (List.mem_map.mpr ⟨_, hmem, rfl⟩)
          simp [habsent, eq_comm]
        · simp [hsame, ih hdistinct.2, Ne.symm hsame]
  exact hfind cache.entries cache.distinct

theorem dated?_keep (cache : Expiring Key Value)
    (kept : Key × Dated Value → Bool) (key : Key) :
    (cache.keep kept).dated? key =
      (cache.dated? key).filter fun dated => kept (key, dated) := by
  ext dated
  rw [dated?_eq_some_iff, Option.filter_eq_some_iff, dated?_eq_some_iff]
  exact List.mem_filter

theorem dated?_erase (cache : Expiring Key Value) (key other : Key) :
    (cache.erase key).dated? other =
      if other = key then none else cache.dated? other := by
  rw [erase, dated?_keep]
  by_cases hsame : other = key <;> cases cache.dated? other <;> simp [hsame]

theorem dated?_put (cache : Expiring Key Value) (key other : Key)
    (dated : Dated Value) :
    (cache.put key dated).dated? other =
      if other = key then some dated else cache.dated? other := by
  by_cases hsame : other = key
  · subst hsame
    simp [put, dated?]
  · rw [if_neg hsame]
    have herase := cache.dated?_erase key other
    rw [if_neg hsame] at herase
    rw [← herase]
    simp [put, dated?, Ne.symm hsame]

theorem lookup_snd (cache : Expiring Key Value) (now : Instant) (key : Key) :
    (cache.lookup now key).2 = cache ∨
      (cache.lookup now key).2 = cache.erase key ∧
        ∀ dated, cache.dated? key = some dated →
          dated.expiresAt.nanos ≤ now.nanos := by
  unfold lookup
  cases hentry : cache.dated? key with
  | none => exact Or.inl rfl
  | some dated =>
      by_cases hlive : now.before dated.expiresAt
      · simp [hlive]
      · have hdead : dated.expiresAt.nanos ≤ now.nanos := by
          simpa [Instant.before] using hlive
        right
        simpa [hlive] using hdead

theorem store_eq_ok_iff (cache next : Expiring Key Value) (now : Instant)
    (ttl : Duration) (key : Key) (value : Value) :
    cache.store now ttl key value = .ok next ↔
      now.nanos + ttl.nanos ≤ Instant.limit ∧
        next = cache.put key ⟨value, now.advance ttl⟩ := by
  by_cases hlimit : now.nanos + ttl.nanos ≤ Instant.limit
  · simp [store, deadline, Instant.add?, hlimit, Instant.advance, bind, Except.bind,
      pure, Except.pure, eq_comm]
  · simp [store, deadline, Instant.add?, hlimit, bind, Except.bind]

theorem store_eq_error_iff (cache : Expiring Key Value) (now : Instant)
    (ttl : Duration) (key : Key) (value : Value) (fault : ClockFault) :
    cache.store now ttl key value = .error fault ↔
      Instant.limit < now.nanos + ttl.nanos := by
  by_cases hlimit : now.nanos + ttl.nanos ≤ Instant.limit
  · simp [store, deadline, Instant.add?, hlimit, bind, Except.bind, pure, Except.pure]
  · cases fault
    simp [store, deadline, Instant.add?, hlimit, bind, Except.bind]
    omega

/-! ## Which values live -/

/-- Dropping what is dead changes nothing. -/
theorem live?_keep (cache : Expiring Key Value) {now later : Instant}
    (hlater : now.nanos ≤ later.nanos) {kept : Key × Dated Value → Bool}
    (hdead : ∀ key dated, cache.dated? key = some dated →
      kept (key, dated) = false → dated.expiresAt.nanos ≤ now.nanos) (key : Key) :
    (cache.keep kept).live? later key = cache.live? later key := by
  rw [live?_eq, live?_eq, dated?_keep]
  cases hentry : cache.dated? key with
  | none => rfl
  | some dated =>
      rw [Option.filter_some]
      cases hkept : kept (key, dated) with
      | true => rfl
      | false =>
          have hexpired := hdead key dated hentry hkept
          exact (if_neg (by omega)).symm

theorem live?_purge (cache : Expiring Key Value) {now later : Instant}
    (hlater : now.nanos ≤ later.nanos) (key : Key) :
    (cache.purge now).live? later key = cache.live? later key := by
  refine cache.live?_keep hlater ?_ key
  intro other dated _ hdropped
  simpa [Instant.before] using hdropped

theorem live?_lookup (cache : Expiring Key Value) {now later : Instant}
    (hlater : now.nanos ≤ later.nanos) (key other : Key) :
    (cache.lookup now key).2.live? later other = cache.live? later other := by
  rcases cache.lookup_snd now key with h | ⟨h, hdead⟩
  · rw [h]
  · rw [h]
    refine cache.live?_keep hlater ?_ other
    intro found dated hentry hdropped
    obtain rfl : found = key := by simpa using hdropped
    exact hdead dated hentry

omit [DecidableEq Key] in
/-- The task that sweeps a cache purges it or leaves it alone. -/
theorem sweep_cases (cache : Expiring Key Value) (sweeper : Option Sweeper)
    (now : Instant) :
    (Sweeper.run sweeper now (purge · now) cache).2 = cache ∨
      (Sweeper.run sweeper now (purge · now) cache).2 = cache.purge now := by
  unfold Sweeper.run
  cases sweeper with
  | none => exact Or.inl rfl
  | some task => by_cases hdue : task.isDue now <;> simp [hdue]

theorem live?_sweep (cache : Expiring Key Value) (sweeper : Option Sweeper)
    {now later : Instant} (hlater : now.nanos ≤ later.nanos) (key : Key) :
    (Sweeper.run sweeper now (purge · now) cache).2.live? later key =
      cache.live? later key := by
  rcases cache.sweep_cases sweeper now with h | h <;> rw [h]
  exact cache.live?_purge hlater key

theorem live?_put (cache : Expiring Key Value) (later : Instant) (key other : Key)
    (dated : Dated Value) :
    (cache.put key dated).live? later other =
      if other = key then
        if later.nanos < dated.expiresAt.nanos then some dated.value else none
      else cache.live? later other := by
  rw [live?_eq, live?_eq, dated?_put]
  by_cases hsame : other = key
  · rw [if_pos hsame, if_pos hsame]
    rfl
  · rw [if_neg hsame, if_neg hsame]

/-- A look-up that finds nothing leaves nothing under its key. -/
theorem dated?_lookup_of_dead (cache : Expiring Key Value) {now : Instant} {key : Key}
    (hdead : cache.live? now key = none) :
    (cache.lookup now key).2.dated? key = none := by
  unfold live? lookup at hdead
  unfold lookup
  cases hentry : cache.dated? key with
  | none => simpa using hentry
  | some dated =>
      rw [hentry] at hdead
      by_cases hlive : now.before dated.expiresAt
      · simp [hlive] at hdead
      · simp [hlive, dated?_erase]

/-! ## All values -/

/-- All values have a property, the dead ones too. -/
def Holds (cache : Expiring Key Value) (property : Key → Value → Prop) : Prop :=
  ∀ key dated, cache.dated? key = some dated → property key dated.value

section Holds

variable {cache : Expiring Key Value} {property : Key → Value → Prop}

theorem holds_empty : (empty : Expiring Key Value).Holds property := by
  intro key dated hentry
  simp [dated?, empty] at hentry

theorem Holds.keep (hholds : cache.Holds property) (kept : Key × Dated Value → Bool) :
    (cache.keep kept).Holds property := by
  intro key dated hentry
  rw [dated?_keep, Option.filter_eq_some_iff] at hentry
  exact hholds key dated hentry.1

theorem Holds.lookup (hholds : cache.Holds property) (now : Instant) (key : Key) :
    (cache.lookup now key).2.Holds property := by
  rcases cache.lookup_snd now key with h | ⟨h, -⟩
  · rw [h]
    exact hholds
  · rw [h]
    exact hholds.keep _

theorem Holds.sweep (hholds : cache.Holds property) (sweeper : Option Sweeper)
    (now : Instant) :
    (Sweeper.run sweeper now (purge · now) cache).2.Holds property := by
  rcases cache.sweep_cases sweeper now with h | h <;> rw [h]
  · exact hholds
  · exact hholds.keep _

theorem Holds.put (hholds : cache.Holds property) {key : Key} {dated : Dated Value}
    (hvalue : property key dated.value) : (cache.put key dated).Holds property := by
  intro other found hentry
  rw [dated?_put] at hentry
  split at hentry
  next hsame =>
    obtain rfl := Option.some.inj hentry
    rwa [hsame]
  next => exact hholds other found hentry

end Holds

end Expiring

/-! ## What has been stored -/

/-- A value and when it was stored. -/
structure Stored (Key Value : Type) where
  key : Key
  time : Instant
  value : Value
  deriving Repr, DecidableEq

namespace Stored

variable {Key Value : Type} [DecidableEq Key]

/-- The last value stored under a key. -/
def latest? (log : List (Stored Key Value)) (key : Key) :
    Option (Stored Key Value) :=
  (log.filter (·.key = key)).getLast?

def isYoung (ttl : Duration) (now : Instant) (stored : Stored Key Value) : Prop :=
  now.nanos < stored.time.nanos + ttl.nanos

instance (ttl : Duration) (now : Instant) (stored : Stored Key Value) :
    Decidable (stored.isYoung ttl now) := Nat.decLt _ _

/-- What a log of stored values gives for a key. -/
def current? (log : List (Stored Key Value)) (ttl : Duration) (now : Instant)
    (key : Key) : Option Value :=
  (latest? log key).bind fun stored =>
    if stored.isYoung ttl now then some stored.value else none

/-- The times do not descend. -/
def Ascending (log : List (Stored Key Value)) : Prop :=
  log.Pairwise fun earlier later => earlier.time.nanos ≤ later.time.nanos

theorem current?_isSome_iff {log : List (Stored Key Value)}
    (hascending : Ascending log) (ttl : Duration) (now : Instant) (key : Key) :
    (current? log ttl now key).isSome ↔
      ∃ stored ∈ log, stored.key = key ∧ stored.isYoung ttl now := by
  have hcurrent : (current? log ttl now key).isSome ↔
      ∃ stored, latest? log key = some stored ∧ stored.isYoung ttl now := by
    unfold current?
    cases latest? log key with
    | none => simp
    | some stored => by_cases hyoung : stored.isYoung ttl now <;> simp [hyoung]
  rw [hcurrent]
  constructor
  · rintro ⟨stored, hlatest, hyoung⟩
    have hmem := List.mem_of_getLast? hlatest
    obtain ⟨hmem, hkey⟩ := List.mem_filter.mp hmem
    exact ⟨stored, hmem, by simpa using hkey, hyoung⟩
  · rintro ⟨stored, hmem, hkey, hyoung⟩
    have hmem : stored ∈ log.filter (·.key = key) :=
      List.mem_filter.mpr ⟨hmem, by simpa using hkey⟩
    -- the last one of the key is no older than this one
    obtain ⟨last, hlast⟩ : ∃ last, latest? log key = some last :=
      ⟨_, List.getLast?_eq_some_getLast (List.ne_nil_of_mem hmem)⟩
    refine ⟨last, hlast, ?_⟩
    obtain ⟨earlier, hsplit⟩ := List.getLast?_eq_some_iff.mp hlast
    have hsorted : (log.filter (·.key = key)).Pairwise
        fun earlier later => earlier.time.nanos ≤ later.time.nanos :=
      List.Pairwise.filter _ hascending
    rw [hsplit] at hmem hsorted
    rcases List.mem_append.mp hmem with hearlier | hself
    · have hle := (List.pairwise_append.mp hsorted).2.2 stored hearlier last (by simp)
      exact Nat.lt_of_lt_of_le hyoung (Nat.add_le_add_right hle _)
    · obtain rfl : stored = last := by simpa using hself
      exact hyoung

omit [DecidableEq Key] in
theorem Ascending.concat {log : List (Stored Key Value)} (hascending : Ascending log)
    {stored : Stored Key Value}
    (hlater : ∀ earlier ∈ log, earlier.time.nanos ≤ stored.time.nanos) :
    Ascending (log ++ [stored]) := by
  refine List.pairwise_append.mpr ⟨hascending, List.pairwise_singleton _ _, ?_⟩
  intro earlier hearlier last hlast
  rw [List.mem_singleton.mp hlast]
  exact hlater earlier hearlier

theorem latest?_concat (log : List (Stored Key Value)) (stored : Stored Key Value)
    (key : Key) :
    latest? (log ++ [stored]) key =
      if stored.key = key then some stored else latest? log key := by
  by_cases hsame : stored.key = key <;> simp [latest?, List.filter_append, hsame]

end Stored

namespace Expiring

variable {Key Value : Type} [DecidableEq Key]

/-- From a time on the cache gives what the log gives. -/
def Recalls (cache : Expiring Key Value) (log : List (Stored Key Value))
    (ttl : Duration) (now : Instant) : Prop :=
  ∀ later : Instant, now.nanos ≤ later.nanos →
    ∀ key, cache.live? later key = Stored.current? log ttl later key

variable {cache : Expiring Key Value} {log : List (Stored Key Value)}
variable {ttl : Duration} {now : Instant}

theorem recalls_empty : (empty : Expiring Key Value).Recalls [] ttl now := by
  intro later _ key
  simp [live?_eq, dated?, empty, Stored.current?, Stored.latest?]

theorem Recalls.later (hrecalls : cache.Recalls log ttl now) {later : Instant}
    (hlater : now.nanos ≤ later.nanos) : cache.Recalls log ttl later :=
  fun evenLater hle key => hrecalls evenLater (Nat.le_trans hlater hle) key

theorem Recalls.purge (hrecalls : cache.Recalls log ttl now) :
    (cache.purge now).Recalls log ttl now := by
  intro later hlater key
  rw [live?_purge cache hlater, hrecalls later hlater]

theorem Recalls.sweep (hrecalls : cache.Recalls log ttl now)
    (sweeper : Option Sweeper) :
    (Sweeper.run sweeper now (Expiring.purge · now) cache).2.Recalls log ttl now := by
  intro later hlater key
  rw [live?_sweep cache sweeper hlater, hrecalls later hlater]

theorem Recalls.lookup (hrecalls : cache.Recalls log ttl now) (key : Key) :
    (cache.lookup now key).2.Recalls log ttl now := by
  intro later hlater other
  rw [live?_lookup cache hlater, hrecalls later hlater]

/-- Storing a value adds it to the log. -/
theorem Recalls.store (hrecalls : cache.Recalls log ttl now) {key : Key}
    {value : Value} {next : Expiring Key Value}
    (hstore : cache.store now ttl key value = .ok next) :
    next.Recalls (log ++ [⟨key, now, value⟩]) ttl now := by
  obtain ⟨-, rfl⟩ := (store_eq_ok_iff cache next now ttl key value).mp hstore
  intro later hlater other
  rw [live?_put, Stored.current?, Stored.latest?_concat]
  by_cases hsame : other = key
  · rw [if_pos hsame, if_pos hsame.symm]
    rfl
  · rw [if_neg hsame, if_neg (Ne.symm hsame)]
    exact hrecalls later hlater other

end Expiring

end EdgeGateway
