import SharedIntegration.Library.Transition
import SharedIntegration.Library.Window
import Mathlib.Algebra.Order.Field.Rat
import Mathlib.Data.List.AList
import Mathlib.Data.Rat.Floor

/-!
# The exchange rate limiter

`ExchangeRateLimiter.check` records the attempts of each client in a bucket of its own, and those of
further clients in one shared bucket once there are too many. Readings of the monotonic clock are
rational numbers.
-/

namespace SharedIntegration

open Transition Window

/-- The settings that `__init__` accepts. -/
structure RateLimits where
  maxAttempts : ℤ
  windowSeconds : ℤ
  maxKeys : ℤ
  accepted : ¬ (maxAttempts < 1 ∨ windowSeconds < 1 ∨ maxKeys < 2)

/-- `_attempts`. -/
abbrev Attempts := AList fun _ : String => List ℚ

namespace ExchangeRateLimiter

/-- `__init__`. -/
def init (maxAttempts windowSeconds maxKeys : ℤ) : Except String (RateLimits × Attempts) :=
  if h : maxAttempts < 1 ∨ windowSeconds < 1 ∨ maxKeys < 2 then .error "exchange rate limits must be positive"
  else .ok (⟨maxAttempts, windowSeconds, maxKeys, h⟩, AList.singleton "overflow" [])

/-- The number of buckets is that of their keys. -/
theorem length_entries (attempts : Attempts) : attempts.entries.length = attempts.keys.length :=
  (List.length_map Sigma.fst).symm

/-- The attempts stored for a key. -/
def attemptsOf (attempts : Attempts) (key : String) : List ℚ := (attempts.lookup key).getD []

/-- The keys without an attempt after the cutoff. -/
def staleKeys (attempts : Attempts) (cutoff : ℚ) : List String :=
  (attempts.entries.filter fun entry =>
    decide (entry.1 ≠ "overflow") && entry.2.getLast?.all fun last => last ≤ cutoff).map Sigma.fst

/-- Stale keys make room for a new one; without room the key shares the overflow bucket. -/
def bucketFor (limits : RateLimits) (attempts : Attempts) (cutoff : ℚ) (key : String) : Attempts × String :=
  if key ∉ attempts ∧ limits.maxKeys ≤ attempts.entries.length then
    let attempts := (staleKeys attempts cutoff).foldl (fun attempts stale => attempts.erase stale) attempts
    if limits.maxKeys ≤ attempts.entries.length then (attempts, "overflow") else (attempts, key)
  else (attempts, key)

/-- `check`: whether the attempt is allowed, and the seconds to wait. -/
def check (limits : RateLimits) (attempts : Attempts) (now : ℚ) (key : String) : Attempts × Bool × ℤ :=
  let cutoff := now - limits.windowSeconds
  let (attempts, key) := bucketFor limits attempts cutoff key
  let kept := (attemptsOf attempts key).dropWhile fun attempt => attempt ≤ cutoff
  if limits.maxAttempts ≤ kept.length then
    (attempts.insert key kept, false, max 1 ⌊limits.windowSeconds - (now - kept.headD 0)⌋)
  else (attempts.insert key (kept ++ [now]), true, 0)

/-! ### Runs of the limiter -/

/-- An attempt that was allowed, and the bucket that counts it. -/
structure Admission where
  key : String
  bucket : String
  time : ℚ

/-- A limiter, the last reading of its clock, and the attempts it has allowed. -/
structure State where
  attempts : Attempts
  clock : ℚ
  admitted : List Admission

/-- A new limiter. -/
def State.initial (clock : ℚ) : State := ⟨AList.singleton "overflow" [], clock, []⟩

/-- A call of `check` for a key when the clock reads `now`; the clock does not run backwards. -/
def step (limits : RateLimits) (s : State) : ℚ × String → Option State
  | (now, key) =>
    if s.clock ≤ now then
      let (attempts, allowed, _) := check limits s.attempts now key
      let bucket := (bucketFor limits s.attempts (now - limits.windowSeconds) key).2
      some ⟨attempts, now, if allowed then s.admitted ++ [⟨key, bucket, now⟩] else s.admitted⟩
    else none

/-- The times of the attempts that a condition selects. -/
def State.times (s : State) (selected : Admission → Bool) : List ℚ :=
  (s.admitted.filter selected).map Admission.time

/-- No client was allowed more than `max_attempts` attempts within a window. -/
def Bounded (limits : RateLimits) (s : State) : Prop :=
  ∀ (key : String) (start : ℚ), ((s.times fun admission => admission.key = key).filter fun time =>
    start ≤ time ∧ time < start + limits.windowSeconds).length ≤ limits.maxAttempts

/-- A client that gets a bucket of its own has no recent attempt in the shared one. -/
def StartsClean (limits : RateLimits) (s : State) : ℚ × String → Prop
  | (now, key) => key ∉ s.attempts →
    (bucketFor limits s.attempts (now - limits.windowSeconds) key).2 = key →
      ∀ admission ∈ s.admitted, admission.key = key → admission.bucket = "overflow" →
        admission.time ≤ now - limits.windowSeconds

instance (limits : RateLimits) (s : State) : ∀ label, Decidable (StartsClean limits s label)
  | (_, _) => inferInstanceAs (Decidable (_ → _ → _))

/-! ### Buckets -/

variable {limits : RateLimits} {attempts : Attempts} {cutoff now : ℚ} {key : String} {s s' : State}

/-- Erasing keys one after another. -/
theorem lookup_foldl_erase (keys : List String) (attempts : Attempts) (bucket : String) :
    (keys.foldl (fun attempts stale => attempts.erase stale) attempts).lookup bucket =
      if bucket ∈ keys then none else attempts.lookup bucket := by
  induction keys generalizing attempts with
  | nil => simp
  | cons stale rest ih =>
    rw [List.foldl_cons, ih]
    by_cases hsame : bucket = stale
    · subst hsame
      simp
    · rw [AList.lookup_erase_ne hsame]
      simp [hsame]

/-- A stale key is not the shared one, and its last attempt is old. -/
theorem of_mem_staleKeys {bucket : String} (h : bucket ∈ staleKeys attempts cutoff) :
    bucket ≠ "overflow" ∧ ((attemptsOf attempts bucket).getLast?.all fun last => last ≤ cutoff) = true := by
  obtain ⟨entry, hentry, rfl⟩ := List.mem_map.mp h
  obtain ⟨hmem, hstale⟩ := List.mem_filter.mp hentry
  rw [Bool.and_eq_true, decide_eq_true_eq] at hstale
  have hlookup : attempts.lookup entry.1 = some entry.2 := AList.mem_lookup_iff.mpr hmem
  rw [attemptsOf, hlookup]
  exact hstale

/-- What making room for a key leaves. -/
structure Room (attempts : Attempts) (cutoff : ℚ) (key : String) (attempts' : Attempts) (bucket : String) : Prop where
  lookup : ∀ b, attempts'.lookup b = attempts.lookup b ∨
    attempts'.lookup b = none ∧ b ∈ staleKeys attempts cutoff
  bucket : bucket = key ∨ bucket = "overflow" ∧ key ∉ attempts'

/-- Only stale buckets go, and a key goes to the shared bucket only when it has none. -/
theorem room_of_bucketFor (limits : RateLimits) (attempts : Attempts) (cutoff : ℚ) (key : String) :
    Room attempts cutoff key (bucketFor limits attempts cutoff key).1 (bucketFor limits attempts cutoff key).2 := by
  unfold bucketFor
  split
  · next hfull =>
    have hlookup : ∀ b, ((staleKeys attempts cutoff).foldl (fun attempts stale => attempts.erase stale)
        attempts).lookup b = attempts.lookup b ∨
        ((staleKeys attempts cutoff).foldl (fun attempts stale => attempts.erase stale) attempts).lookup b = none ∧
          b ∈ staleKeys attempts cutoff := by
      intro b
      rw [lookup_foldl_erase]
      by_cases hstale : b ∈ staleKeys attempts cutoff
      · exact Or.inr ⟨if_pos hstale, hstale⟩
      · exact Or.inl (if_neg hstale)
    dsimp only
    split
    · refine ⟨hlookup, Or.inr ⟨rfl, ?_⟩⟩
      rw [← AList.lookup_eq_none]
      rcases hlookup key with hsame | ⟨hnone, -⟩
      · rw [hsame]
        exact AList.lookup_eq_none.mpr hfull.1
      · exact hnone
    · exact ⟨hlookup, Or.inl rfl⟩
  · exact ⟨fun b => Or.inl rfl, Or.inl rfl⟩

/-- A bucket that is there was there. -/
theorem Room.mem {attempts' : Attempts} {bucket b : String} (h : Room attempts cutoff key attempts' bucket)
    (hb : b ∈ attempts') : b ∈ attempts := by
  rw [← AList.lookup_isSome] at hb ⊢
  rcases h.lookup b with hsame | ⟨hnone, -⟩
  · rwa [← hsame]
  · rw [hnone] at hb
    exact absurd hb Bool.false_ne_true

/-- Room is made without losing an attempt that still counts. -/
theorem Room.live {attempts' : Attempts} {bucket : String} {window : ℚ}
    (h : Room attempts (now - window) key attempts' bucket)
    (hsorted : ∀ b, (attemptsOf attempts b).Pairwise (· ≤ ·)) (b : String) :
    (attemptsOf attempts' b).Pairwise (· ≤ ·) ∧
      live window now (attemptsOf attempts' b) = live window now (attemptsOf attempts b) := by
  rcases h.lookup b with hsame | ⟨hnone, hstale⟩
  · rw [attemptsOf, hsame]
    exact ⟨hsorted b, rfl⟩
  · rw [attemptsOf, hnone]
    refine ⟨List.Pairwise.nil, (List.filter_eq_nil_iff.mpr ?_).symm⟩
    intro t ht
    have hold := le_getLast? (hsorted b) (of_mem_staleKeys hstale).2 ht
    simpa using hold

/-! ### What is counted -/

/-- The most attempts of a window, as a natural number. -/
def most (limits : RateLimits) : ℕ := limits.maxAttempts.toNat

/-- The length of a window on the clock. -/
def window (limits : RateLimits) : ℚ := limits.windowSeconds

/-- Each bucket counts the attempts that it allowed within the window. -/
structure Counted (limits : RateLimits) (s : State) : Prop where
  past : ∀ admission ∈ s.admitted, admission.time ≤ s.clock
  ordered : s.admitted.Pairwise fun a b => a.time ≤ b.time
  sorted : ∀ b, (attemptsOf s.attempts b).Pairwise (· ≤ ·)
  counts : ∀ b, live (window limits) s.clock (attemptsOf s.attempts b) =
    live (window limits) s.clock (s.times fun admission => admission.bucket = b)
  bucket : ∀ admission ∈ s.admitted, admission.bucket = admission.key ∨ admission.bucket = "overflow"
  spaced : ∀ b, Spaced (most limits) (window limits) (s.times fun admission => admission.bucket = b)

/-- A step reads the clock, makes room, drops what is old, and then refuses the attempt or counts it. -/
structure Checked (limits : RateLimits) (s : State) (now : ℚ) (key : String) (s' : State) (attempts : Attempts)
    (bucket : String) : Prop where
  clock : s.clock ≤ now
  clock' : s'.clock = now
  room : Room s.attempts (now - window limits) key attempts bucket
  outcome : let kept := (attemptsOf attempts bucket).dropWhile fun attempt => attempt ≤ now - window limits
    (s'.attempts = attempts.insert bucket kept ∧ s'.admitted = s.admitted) ∨
    (kept.length < most limits ∧ s'.attempts = attempts.insert bucket (kept ++ [now]) ∧
      s'.admitted = s.admitted ++ [⟨key, bucket, now⟩])

/-- Every step is such a check. -/
theorem checked_of_step (h : step limits s (now, key) = some s') :
    Checked limits s now key s' (bucketFor limits s.attempts (now - window limits) key).1
      (bucketFor limits s.attempts (now - window limits) key).2 := by
  unfold step at h
  dsimp only at h
  split at h
  · next hclock =>
    refine ⟨hclock, by cases h; rfl, room_of_bucketFor limits s.attempts _ key, ?_⟩
    unfold check at h
    dsimp only at h ⊢
    split at h
    · cases h
      exact Or.inl ⟨rfl, rfl⟩
    · next hfew =>
      cases h
      refine Or.inr ⟨?_, rfl, rfl⟩
      have hfew' := not_le.mp hfew
      exact Int.lt_toNat.mpr hfew'
  · cases h

/-- The times of the old attempts and of a new one. -/
theorem times_append (selected : Admission → Bool) (new : Admission) (hadmitted : s'.admitted = s.admitted ++ [new]) :
    s'.times selected = s.times selected ++ if selected new then [new.time] else [] := by
  rw [State.times, hadmitted, List.filter_append, List.map_append, State.times]
  congr 1
  by_cases hnew : selected new
  · simp [hnew]
  · simp [hnew]

/-- The selected attempts that still count. -/
theorem live_times (selected : Admission → Bool) (length : ℚ) :
    live length now (s.times selected) =
      ((s.admitted.filter selected).filter fun admission => decide (now - length < admission.time)).map
        Admission.time := by
  rw [live, State.times, List.filter_map]
  rfl

/-- Attempts that count and are selected are no more than those that a weaker condition selects. -/
theorem length_live_le (length : ℚ) {selected selected' : Admission → Bool}
    (h : ∀ admission ∈ s.admitted, selected admission = true → now - length < admission.time →
      selected' admission = true) :
    (live length now (s.times selected)).length ≤ (live length now (s.times selected')).length := by
  rw [live_times, live_times, List.length_map, List.length_map, List.filter_filter, List.filter_filter,
    ← List.countP_eq_length_filter, ← List.countP_eq_length_filter]
  apply List.countP_mono_left
  intro admission hmem hboth
  rw [Bool.and_eq_true] at hboth ⊢
  exact ⟨hboth.1, h admission hmem hboth.2 (of_decide_eq_true hboth.1)⟩

/-- After making room the buckets still count what they allowed. -/
theorem Counted.room {attempts : Attempts} {bucket : String} (h : Counted limits s) (hclock : s.clock ≤ now)
    (hroom : Room s.attempts (now - window limits) key attempts bucket) (b : String) :
    (attemptsOf attempts b).Pairwise (· ≤ ·) ∧ live (window limits) now (attemptsOf attempts b) =
      live (window limits) now (s.times fun admission => admission.bucket = b) := by
  obtain ⟨hsorted, hlive⟩ := hroom.live h.sorted b
  exact ⟨hsorted, hlive.trans (live_mono hclock (h.counts b))⟩

/-- What a check keeps of its bucket are the attempts that still count. -/
theorem Counted.kept {attempts : Attempts} {bucket : String} (h : Counted limits s) (hclock : s.clock ≤ now)
    (hroom : Room s.attempts (now - window limits) key attempts bucket) :
    ((attemptsOf attempts bucket).dropWhile fun attempt => attempt ≤ now - window limits) =
      live (window limits) now (s.times fun admission => admission.bucket = bucket) := by
  obtain ⟨hsorted, hlive⟩ := h.room hclock hroom bucket
  rw [dropWhile_eq_filter hsorted, ← hlive]
  rfl

/-- The stored attempts after a bucket was written. -/
theorem attemptsOf_insert (attempts : Attempts) (bucket b : String) (times : List ℚ) :
    attemptsOf (attempts.insert bucket times) b = if b = bucket then times else attemptsOf attempts b := by
  unfold attemptsOf
  by_cases hsame : b = bucket
  · subst hsame
    rw [AList.lookup_insert, if_pos rfl]
    rfl
  · rw [AList.lookup_insert_ne hsame, if_neg hsame]

/-- A window has a length. -/
theorem window_pos (limits : RateLimits) : 0 < window limits := by
  have haccepted := limits.accepted
  have hpos : 0 < limits.windowSeconds := by omega
  exact Int.cast_pos.mpr hpos

/-- A refused attempt keeps the counts. -/
theorem Counted.refused {attempts : Attempts} {bucket : String} (h : Counted limits s) (hclock : s.clock ≤ now)
    (hclock' : s'.clock = now) (hroom : Room s.attempts (now - window limits) key attempts bucket)
    (hattempts : s'.attempts = attempts.insert bucket
      ((attemptsOf attempts bucket).dropWhile fun attempt => attempt ≤ now - window limits))
    (hadmitted : s'.admitted = s.admitted) : Counted limits s' := by
  have htimes : ∀ selected, s'.times selected = s.times selected := by
    intro selected
    rw [State.times, hadmitted, State.times]
  refine ⟨?_, hadmitted ▸ h.ordered, fun b => ?_, fun b => ?_, hadmitted ▸ h.bucket, fun b => ?_⟩
  · rw [hadmitted, hclock']
    exact fun admission hmem => (h.past admission hmem).trans hclock
  · rw [hattempts, attemptsOf_insert]
    split
    · exact (h.room hclock hroom bucket).1.sublist (List.dropWhile_sublist _)
    · exact (h.room hclock hroom b).1
  · rw [hattempts, attemptsOf_insert, hclock', htimes]
    split
    · next hsame =>
      subst hsame
      rw [h.kept hclock hroom, live_live le_rfl]
    · exact (h.room hclock hroom b).2
  · rw [htimes]
    exact h.spaced b

/-- An allowed attempt is counted. -/
theorem Counted.allowed {attempts : Attempts} {bucket : String} (h : Counted limits s) (hclock : s.clock ≤ now)
    (hclock' : s'.clock = now) (hroom : Room s.attempts (now - window limits) key attempts bucket)
    (hfew : (live (window limits) now (s.times fun admission => admission.bucket = bucket)).length < most limits)
    (hattempts : s'.attempts = attempts.insert bucket
      (((attemptsOf attempts bucket).dropWhile fun attempt => attempt ≤ now - window limits) ++ [now]))
    (hadmitted : s'.admitted = s.admitted ++ [⟨key, bucket, now⟩]) : Counted limits s' := by
  have hother : ∀ b, b ≠ bucket → ¬ decide (bucket = b) = true := by
    intro b hne heq
    exact hne (of_decide_eq_true heq).symm
  refine ⟨?_, ?_, fun b => ?_, fun b => ?_, ?_, fun b => ?_⟩
  · rw [hadmitted, hclock', List.forall_mem_append, List.forall_mem_singleton]
    exact ⟨fun admission hmem => (h.past admission hmem).trans hclock, le_rfl⟩
  · rw [hadmitted, List.pairwise_append]
    refine ⟨h.ordered, List.pairwise_singleton _ _, fun admission hmem new hnew => ?_⟩
    rw [List.mem_singleton.mp hnew]
    exact (h.past admission hmem).trans hclock
  · rw [hattempts, attemptsOf_insert]
    split
    · rw [List.pairwise_append]
      refine ⟨(h.room hclock hroom bucket).1.sublist (List.dropWhile_sublist _), List.pairwise_singleton _ _,
        fun t ht new hnew => ?_⟩
      rw [h.kept hclock hroom] at ht
      obtain ⟨admission, hmem, rfl⟩ := List.mem_map.mp (List.mem_filter.mp ht).1
      rw [List.mem_singleton.mp hnew]
      exact (h.past admission (List.mem_filter.mp hmem).1).trans hclock
    · exact (h.room hclock hroom b).1
  · rw [hattempts, attemptsOf_insert, hclock', times_append _ _ hadmitted]
    by_cases hsame : b = bucket
    · subst hsame
      rw [if_pos rfl, if_pos (decide_eq_true rfl), live_append (window_pos limits), live_append (window_pos limits),
        h.kept hclock hroom, live_live le_rfl]
    · rw [if_neg hsame, if_neg (hother b hsame), List.append_nil]
      exact (h.room hclock hroom b).2
  · rw [hadmitted, List.forall_mem_append, List.forall_mem_singleton]
    exact ⟨h.bucket, hroom.bucket.imp id fun hshared => hshared.1⟩
  · rw [times_append _ _ hadmitted]
    by_cases hsame : b = bucket
    · subst hsame
      rw [if_pos (decide_eq_true rfl)]
      exact (h.spaced b).append hfew
    · rw [if_neg (hother b hsame), List.append_nil]
      exact h.spaced b

/-- Every check keeps the counts. -/
theorem Counted.step {label : ℚ × String} (h : Counted limits s)
    (hstep : ExchangeRateLimiter.step limits s label = some s') : Counted limits s' := by
  obtain ⟨now, key⟩ := label
  obtain ⟨hclock, hclock', hroom, houtcome⟩ := checked_of_step hstep
  rcases houtcome with ⟨hattempts, hadmitted⟩ | ⟨hfew, hattempts, hadmitted⟩
  · exact h.refused hclock hclock' hroom hattempts hadmitted
  · rw [h.kept hclock hroom] at hfew
    exact h.allowed hclock hclock' hroom hfew hattempts hadmitted

/-- A new limiter has stored nothing. -/
theorem attemptsOf_initial (clock : ℚ) (b : String) : attemptsOf (State.initial clock).attempts b = [] := by
  have hinitial : (State.initial clock).attempts = (∅ : Attempts).insert "overflow" [] := rfl
  rw [hinitial, attemptsOf_insert]
  split <;> rfl

/-- A new limiter has counted nothing. -/
theorem counted_initial (limits : RateLimits) (clock : ℚ) : Counted limits (State.initial clock) where
  past := by simp [State.initial]
  ordered := List.Pairwise.nil
  sorted b := by
    rw [attemptsOf_initial]
    exact List.Pairwise.nil
  counts b := by
    rw [attemptsOf_initial]
    rfl
  bucket := by simp [State.initial]
  spaced b := by
    intro before t after hsplit
    exact absurd hsplit (by simp [State.times, State.initial])

/-! ### What a client is allowed -/

/-- The times of a client are in order. -/
theorem Counted.times_ordered (h : Counted limits s) (selected : Admission → Bool) :
    (s.times selected).Pairwise (· ≤ ·) := by
  rw [State.times, List.pairwise_map]
  exact h.ordered.sublist List.filter_sublist

/-- A client with a bucket of its own has no recent attempt in the shared one, and its attempts are spaced. -/
structure Apart (limits : RateLimits) (s : State) : Prop where
  shared : "overflow" ∈ s.attempts
  apart : ∀ key ∈ s.attempts, key ≠ "overflow" → ∀ admission ∈ s.admitted, admission.key = key →
    admission.bucket = "overflow" → admission.time ≤ s.clock - window limits
  spaced : ∀ key, Spaced (most limits) (window limits) (s.times fun admission => admission.key = key)

/-- The attempts of a client that still count are in the bucket that it is given. -/
theorem Apart.bucket_of_live (hapart : Apart limits s) (h : Counted limits s) (hclock : s.clock ≤ now)
    (hclean : StartsClean limits s (now, key)) {admission : Admission} (hmem : admission ∈ s.admitted)
    (hkey : admission.key = key) (hlive : now - window limits < admission.time) :
    admission.bucket = (bucketFor limits s.attempts (now - window limits) key).2 := by
  have hroom := room_of_bucketFor limits s.attempts (now - window limits) key
  rcases hroom.bucket with hown | ⟨hshared, hnone⟩
  · rw [hown]
    rcases h.bucket admission hmem with hself | hoverflow
    · exact hself.trans hkey
    · by_cases hsame : key = "overflow"
      · exact hoverflow.trans hsame.symm
      · have hold : admission.time ≤ now - window limits := by
          by_cases hstored : key ∈ s.attempts
          · exact (hapart.apart key hstored hsame admission hmem hkey hoverflow).trans (sub_le_sub_right hclock _)
          · exact hclean hstored hown admission hmem hkey hoverflow
        exact absurd hlive (not_lt.mpr hold)
  · rw [hshared]
    refine (h.bucket admission hmem).resolve_left fun hself => ?_
    have hempty : live (window limits) now (s.times fun admission => admission.bucket = key) = [] := by
      rw [← (h.room hclock hroom key).2, attemptsOf, AList.lookup_eq_none.mpr hnone]
      rfl
    have htime : admission.time ∈ live (window limits) now (s.times fun admission => admission.bucket = key) := by
      apply List.mem_filter.mpr
      refine ⟨List.mem_map_of_mem (List.mem_filter.mpr ⟨hmem, ?_⟩), decide_eq_true hlive⟩
      exact decide_eq_true (hself.trans hkey)
    rw [hempty] at htime
    exact List.not_mem_nil htime

/-- Clients stay apart when each that gets a bucket of its own starts clean. -/
theorem Apart.step {label : ℚ × String} (hapart : Apart limits s) (h : Counted limits s)
    (hclean : StartsClean limits s label) (hstep : ExchangeRateLimiter.step limits s label = some s') :
    Apart limits s' := by
  obtain ⟨now, key⟩ := label
  obtain ⟨hclock, hclock', hroom, houtcome⟩ := checked_of_step hstep
  have hbucket := fun admission hmem hkey hlive =>
    @Apart.bucket_of_live limits now key s hapart h hclock hclean admission hmem hkey hlive
  have hkept := h.kept hclock hroom
  have hmem' : ∀ b, b ∈ s'.attempts → b ≠ "overflow" →
      b ∈ s.attempts ∨ b = key ∧ (bucketFor limits s.attempts (now - window limits) key).2 = key := by
    intro b hb hne
    have hinsert : b = (bucketFor limits s.attempts (now - window limits) key).2 ∨
        b ∈ (bucketFor limits s.attempts (now - window limits) key).1 := by
      rcases houtcome with ⟨hattempts, -⟩ | ⟨-, hattempts, -⟩
      · rwa [hattempts, AList.mem_insert] at hb
      · rwa [hattempts, AList.mem_insert] at hb
    rcases hinsert with hsame | hold
    · rcases hroom.bucket with hown | ⟨hshared, -⟩
      · exact Or.inr ⟨hsame.trans hown, hown⟩
      · exact absurd (hsame.trans hshared) hne
    · exact Or.inl (hroom.mem hold)
  have hold : ∀ b ∈ s'.attempts, b ≠ "overflow" → ∀ admission ∈ s.admitted, admission.key = b →
      admission.bucket = "overflow" → admission.time ≤ now - window limits := by
    intro b hb hne admission hadmission hkey hshared
    rcases hmem' b hb hne with hwas | ⟨rfl, hown⟩
    · exact (hapart.apart b hwas hne admission hadmission hkey hshared).trans (sub_le_sub_right hclock _)
    · by_contra hlive
      have hgiven := hbucket admission hadmission hkey (not_le.mp hlive)
      exact hne (hown.symm.trans (hgiven.symm.trans hshared))
  have hsharedStays : "overflow" ∈ (bucketFor limits s.attempts (now - window limits) key).1 := by
    rcases hroom.lookup "overflow" with hsame | ⟨-, hstale⟩
    · rw [← AList.lookup_isSome, hsame, AList.lookup_isSome]
      exact hapart.shared
    · exact absurd rfl (of_mem_staleKeys hstale).1
  rcases houtcome with ⟨hattempts, hadmitted⟩ | ⟨hfew, hattempts, hadmitted⟩
  · refine ⟨?_, ?_, fun client => ?_⟩
    · rw [hattempts, AList.mem_insert]
      exact Or.inr hsharedStays
    · rw [hadmitted, hclock']
      exact hold
    · rw [State.times, hadmitted]
      exact hapart.spaced client
  · refine ⟨?_, ?_, fun client => ?_⟩
    · rw [hattempts, AList.mem_insert]
      exact Or.inr hsharedStays
    · rw [hadmitted, hclock']
      intro b hb hne admission hadmission hkey hshared
      rcases List.mem_append.mp hadmission with hwas | hnew
      · exact hold b hb hne admission hwas hkey hshared
      · rw [List.mem_singleton.mp hnew] at hkey hshared
        change key = b at hkey
        change (bucketFor limits s.attempts (now - window limits) key).2 = "overflow" at hshared
        subst hkey
        rw [hattempts, AList.mem_insert, hshared] at hb
        rcases hroom.bucket with hown | ⟨-, hnone⟩
        · exact absurd (hown.symm.trans hshared) hne
        · exact absurd (hb.resolve_left hne) hnone
    · rw [times_append _ _ hadmitted]
      split
      · next hsame =>
        have hsame : key = client := of_decide_eq_true hsame
        apply (hapart.spaced client).append
        rw [hkept] at hfew
        apply lt_of_le_of_lt (length_live_le (window limits) ?_) hfew
        intro admission hadmission hclient hlive
        exact decide_eq_true (hbucket admission hadmission ((of_decide_eq_true hclient).trans hsame.symm) hlive)
      · rw [List.append_nil]
        exact hapart.spaced client

/-- A new limiter keeps clients apart. -/
theorem apart_initial (limits : RateLimits) (clock : ℚ) : Apart limits (State.initial clock) where
  shared := by
    rw [← AList.lookup_isSome]
    rfl
  apart key _ _ admission hadmission := absurd hadmission List.not_mem_nil
  spaced key := by
    intro before t after hsplit
    exact absurd hsplit (by simp [State.times, State.initial])

/-- Spaced attempts stay within the limit. -/
theorem bounded_of_apart (h : Counted limits s) (hapart : Apart limits s) : Bounded limits s := by
  intro key start
  have hbound := (hapart.spaced key).bound (h.times_ordered _) start
  have haccepted := limits.accepted
  have hmost : ((most limits : ℕ) : ℤ) = limits.maxAttempts := Int.toNat_of_nonneg (by omega)
  rw [← hmost]
  exact Int.ofNat_le.mpr hbound

/-- In every run in which clients that get a bucket of their own start clean, every client is bounded. -/
theorem exchange_limiter_bounds (limits : RateLimits) (clock : ℚ) (calls : List (ℚ × String)) (s : State)
    (hrun : runSteps (step limits) (State.initial clock) calls = some s)
    (hclean : GuardedAlong (step limits) (StartsClean limits) (State.initial clock) calls) :
    Bounded limits s := by
  have hinv : Counted limits s ∧ Apart limits s := by
    refine runSteps_guarded_invariant (fun s => Counted limits s ∧ Apart limits s) ?_
      ⟨counted_initial limits clock, apart_initial limits clock⟩ hclean hrun
    intro s label s' ⟨hcounted, hapart⟩ hguard hstep
    exact ⟨hcounted.step hstep, hapart.step hcounted hguard hstep⟩
  exact bounded_of_apart hinv.1 hinv.2

/-- One attempt in a minute, and one bucket beside the shared one. -/
def onePerMinute : RateLimits := ⟨1, 60, 2, by decide⟩

/-- Two clients and one that waits until its attempts in the shared bucket are old. -/
def waits : List (ℚ × String) :=
  [(0, "client-a"), (30, "client-b"), (31, "client-b"), (91, "client-b"), (92, "client-b")]

/-- The theorem applies to clients that wait. -/
theorem exchange_limiter_bounds_waits :
    ∃ s, runSteps (step onePerMinute) (State.initial 0) waits = some s ∧ Bounded onePerMinute s := by
  have hsome : (runSteps (step onePerMinute) (State.initial 0) waits).isSome = true := by decide +kernel
  obtain ⟨s, hrun⟩ := Option.isSome_iff_exists.mp hsome
  exact ⟨s, hrun, exchange_limiter_bounds onePerMinute 0 waits s hrun (by decide +kernel)⟩

/-- A client that was counted in the shared bucket is allowed again as soon as it gets a bucket of its own. -/
theorem exchange_limiter_forgets : ¬ ∀ (limits : RateLimits) (clock : ℚ) (calls : List (ℚ × String)) (s : State),
    runSteps (step limits) (State.initial clock) calls = some s → Bounded limits s := by
  intro hall
  have hany : ((runSteps (step onePerMinute) (State.initial 0)
      [(0, "client-a"), (30, "client-b"), (60, "client-b")]).any fun s =>
        decide (1 < ((s.times fun admission => admission.key = "client-b").filter fun time =>
          30 ≤ time ∧ time < 30 + 60).length)) = true := by
    decide +kernel
  obtain ⟨s, hrun, htwo⟩ := (Option.any_eq_true _ _).mp hany
  have hbound := hall onePerMinute 0 _ s hrun "client-b" 30
  have htwo := of_decide_eq_true htwo
  have hone : ((s.times fun admission => admission.key = "client-b").filter fun time =>
      30 ≤ time ∧ time < 30 + 60).length ≤ 1 := Int.ofNat_le.mp hbound
  omega

end ExchangeRateLimiter

end SharedIntegration
