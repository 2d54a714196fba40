import SharedIntegration.ExchangeLimiter

/-!
# The Retry-After of a refused attempt

A refused client is told to wait until the oldest attempt of its bucket is old, in whole seconds. The
seconds are rounded down, so at the end of the wait that attempt usually still counts.
-/

namespace SharedIntegration

open Transition Window

namespace ExchangeRateLimiter

/-- The attempts that a check of the key counts. -/
def counting (limits : RateLimits) (attempts : Attempts) (now : ℚ) (key : String) : List ℚ :=
  let (attempts, bucket) := bucketFor limits attempts (now - limits.windowSeconds) key
  (attemptsOf attempts bucket).dropWhile fun attempt => attempt ≤ now - limits.windowSeconds

/-- The oldest of them, which decides how long a refused client waits. -/
def oldest (limits : RateLimits) (attempts : Attempts) (now : ℚ) (key : String) : ℚ :=
  (counting limits attempts now key).headD 0

/-- The oldest attempt gets old within a second, or it was made a whole number of seconds ago, or the key shares a
bucket and another bucket was last used no later than the oldest attempt, rounded down to whole seconds. -/
def WaitsEnough (limits : RateLimits) (attempts : Attempts) (now : ℚ) (key : String) : Prop :=
  oldest limits attempts now key + limits.windowSeconds ≤ now + 1 ∨
    Int.fract (now - oldest limits attempts now key) = 0 ∨
    (bucketFor limits attempts (now - limits.windowSeconds) key).2 ≠ key ∧
      staleKeys (bucketFor limits attempts (now - limits.windowSeconds) key).1
        (now + ⌊oldest limits attempts now key - now⌋) ≠ []

instance (limits : RateLimits) (attempts : Attempts) (now : ℚ) (key : String) :
    Decidable (WaitsEnough limits attempts now key) :=
  inferInstanceAs (Decidable (_ ∨ _ ∨ _ ∧ _))

/-! ### The size of the table -/

/-- The shared bucket is there, there are no more buckets than keys allowed, and none holds more than the limit. -/
structure Fits (limits : RateLimits) (attempts : Attempts) : Prop where
  shared : "overflow" ∈ attempts
  keys : attempts.keys.length ≤ limits.maxKeys
  lengths : ∀ b, (attemptsOf attempts b).length ≤ most limits

variable {limits : RateLimits} {attempts attempts' : Attempts} {cutoff now later : ℚ} {key bucket : String}
  {s s' : State} {retryAfter : ℤ}

/-- The limits are positive. -/
theorem most_pos (limits : RateLimits) : 0 < most limits := by
  have haccepted := limits.accepted
  rw [most]
  omega

/-- Fewer attempts than the limit, as the code compares them. -/
theorem lt_most_iff (count : ℕ) : count < most limits ↔ ¬ limits.maxAttempts ≤ count := by
  have haccepted := limits.accepted
  rw [most]
  omega

/-- Erasing keys leaves the other ones. -/
theorem keys_foldl_erase (stale : List String) (attempts : Attempts) :
    (stale.foldl (fun attempts key => attempts.erase key) attempts).keys = attempts.keys.diff stale := by
  induction stale generalizing attempts with
  | nil => simp
  | cons key rest ih => rw [List.foldl_cons, ih, AList.keys_erase, List.diff_cons]

/-- A stale key is in the table. -/
theorem mem_of_mem_staleKeys (h : bucket ∈ staleKeys attempts cutoff) : bucket ∈ attempts := by
  obtain ⟨entry, hentry, rfl⟩ := List.mem_map.mp h
  exact AList.mem_keys.mpr (List.mem_map_of_mem (List.mem_filter.mp hentry).1)

/-- There is room once a stale key has been erased. -/
theorem length_foldl_erase (h : staleKeys attempts cutoff ≠ []) :
    ((staleKeys attempts cutoff).foldl (fun attempts stale => attempts.erase stale) attempts).keys.length <
      attempts.keys.length := by
  obtain ⟨stale, rest, hstale⟩ := List.exists_cons_of_ne_nil h
  have hmem : stale ∈ attempts.keys := by
    apply mem_of_mem_staleKeys
    rw [hstale]
    exact List.mem_cons_self
  have hpos := List.length_pos_of_mem hmem
  have hless := ((attempts.keys.erase stale).diff_sublist rest).length_le
  rw [List.length_erase_of_mem hmem] at hless
  rw [hstale, keys_foldl_erase, List.diff_cons]
  omega

/-- A key is stale if its bucket is not the shared one and was last used before the cutoff. -/
theorem staleKeys_ne_nil_iff : staleKeys attempts cutoff ≠ [] ↔
    ∃ b times, attempts.lookup b = some times ∧ b ≠ "overflow" ∧ (times.getLast?.all fun last => last ≤ cutoff) = true := by
  rw [staleKeys, ne_eq, List.map_eq_nil_iff, List.filter_eq_nil_iff]
  constructor
  · intro h
    push Not at h
    obtain ⟨⟨b, times⟩, hmem, hstale⟩ := h
    rw [Bool.and_eq_true, decide_eq_true_eq] at hstale
    exact ⟨b, times, AList.mem_lookup_iff.mpr hmem, hstale⟩
  · rintro ⟨b, times, hlookup, hne, hold⟩ hnone
    apply hnone ⟨b, times⟩ (AList.mem_lookup_iff.mp hlookup)
    rw [Bool.and_eq_true, decide_eq_true_eq]
    exact ⟨hne, hold⟩

/-- Whether a key is stale does not depend on the shared bucket. -/
theorem staleKeys_insert_overflow (times : List ℚ) :
    staleKeys (attempts.insert "overflow" times) cutoff ≠ [] ↔ staleKeys attempts cutoff ≠ [] := by
  rw [staleKeys_ne_nil_iff, staleKeys_ne_nil_iff]
  apply exists_congr
  intro b
  apply exists_congr
  intro stored
  rw [and_congr_left_iff]
  intro hstale
  rw [AList.lookup_insert_ne hstale.1]

/-- A bucket that is stale at some time stays stale. -/
theorem staleKeys_mono {cutoff' : ℚ} (hcutoff : cutoff ≤ cutoff') (h : staleKeys attempts cutoff ≠ []) :
    staleKeys attempts cutoff' ≠ [] := by
  rw [staleKeys_ne_nil_iff] at h ⊢
  obtain ⟨b, times, hlookup, hne, hold⟩ := h
  refine ⟨b, times, hlookup, hne, ?_⟩
  cases hlast : times.getLast? with
  | none => rfl
  | some last =>
    rw [hlast] at hold
    exact decide_eq_true ((of_decide_eq_true hold).trans hcutoff)

/-- Making room leaves no bucket with more than the limit. -/
theorem Fits.room (h : Fits limits attempts) (hroom : Room attempts cutoff key attempts' bucket) (b : String) :
    (attemptsOf attempts' b).length ≤ most limits := by
  rcases hroom.lookup b with hsame | ⟨hnone, -⟩
  · rw [attemptsOf, hsame]
    exact h.lengths b
  · rw [attemptsOf, hnone]
    exact Nat.zero_le _

/-- Making room leaves the shared bucket. -/
theorem Room.shared (hroom : Room attempts cutoff key attempts' bucket) (hshared : "overflow" ∈ attempts) :
    "overflow" ∈ attempts' := by
  rcases hroom.lookup "overflow" with hsame | ⟨-, hstale⟩
  · rw [← AList.lookup_isSome, hsame, AList.lookup_isSome]
    exact hshared
  · exact absurd rfl (of_mem_staleKeys hstale).1

/-- The bucket of a key is in the table, or the table has room for it. -/
theorem bucketFor_room (hshared : "overflow" ∈ attempts) :
    (bucketFor limits attempts cutoff key).2 ∈ (bucketFor limits attempts cutoff key).1 ∨
      ((bucketFor limits attempts cutoff key).1.keys.length : ℤ) < limits.maxKeys := by
  have hstays := (room_of_bucketFor limits attempts cutoff key).shared hshared
  unfold bucketFor at hstays ⊢
  split
  · next hfull =>
    rw [if_pos hfull] at hstays
    dsimp only at hstays ⊢
    split
    · next hstill =>
      rw [if_pos hstill] at hstays
      exact Or.inl hstays
    · next hroom =>
      rw [length_entries] at hroom
      exact Or.inr (not_le.mp hroom)
  · next hroom =>
    by_cases hkey : key ∈ attempts
    · exact Or.inl hkey
    · have hfew := fun hfull => hroom ⟨hkey, hfull⟩
      rw [length_entries] at hfew
      exact Or.inr (not_le.mp hfew)

/-- Making room adds no bucket. -/
theorem length_bucketFor_le (limits : RateLimits) (attempts : Attempts) (cutoff : ℚ) (key : String) :
    (bucketFor limits attempts cutoff key).1.keys.length ≤ attempts.keys.length := by
  have herased := ((attempts.keys).diff_sublist (staleKeys attempts cutoff)).length_le
  rw [← keys_foldl_erase] at herased
  unfold bucketFor
  split
  · dsimp only
    split
    · exact herased
    · exact herased
  · exact le_rfl

/-- Writing the bucket that was made room for keeps the table within its size. -/
theorem Fits.insert (h : Fits limits attempts) {times : List ℚ} (htimes : times.length ≤ most limits) :
    Fits limits ((bucketFor limits attempts cutoff key).1.insert (bucketFor limits attempts cutoff key).2 times) := by
  have hroom := room_of_bucketFor limits attempts cutoff key
  have hsize := length_bucketFor_le limits attempts cutoff key
  have hkeys := h.keys
  constructor
  · rw [AList.mem_insert]
    exact Or.inr (hroom.shared h.shared)
  · rw [AList.keys_insert, List.length_cons]
    rcases @bucketFor_room limits attempts cutoff key h.shared with hmem | hless
    · have hmem' := AList.mem_keys.mp hmem
      have hpos := List.length_pos_of_mem hmem'
      rw [List.length_erase_of_mem hmem']
      omega
    · have herase := List.length_erase_le (a := (bucketFor limits attempts cutoff key).2)
        (l := (bucketFor limits attempts cutoff key).1.keys)
      omega
  · intro b
    rw [attemptsOf_insert]
    split
    · exact htimes
    · exact h.room hroom b

/-- What a check counts is part of its bucket. -/
theorem Fits.length_counting (h : Fits limits attempts) : (counting limits attempts now key).length ≤ most limits := by
  have hstored := h.room (room_of_bucketFor limits attempts (now - limits.windowSeconds) key)
    (bucketFor limits attempts (now - limits.windowSeconds) key).2
  exact le_trans (List.dropWhile_sublist _).length_le hstored

/-- A new table fits. -/
theorem fits_initial (limits : RateLimits) (clock : ℚ) : Fits limits (State.initial clock).attempts where
  shared := by
    rw [← AList.lookup_isSome]
    rfl
  keys := by
    have haccepted := limits.accepted
    have hone : (State.initial clock).attempts.keys.length = 1 := rfl
    omega
  lengths b := by
    rw [attemptsOf_initial]
    exact Nat.zero_le _

/-- A check allows the attempt exactly if it counts fewer than the limit. -/
theorem check_allowed_iff : (check limits attempts now key).2.1 = true ↔
    (counting limits attempts now key).length < most limits := by
  rw [lt_most_iff]
  unfold check counting
  dsimp only
  split
  · next hmany => exact iff_of_false Bool.false_ne_true (not_not.mpr hmany)
  · next hfew => exact iff_of_true rfl hfew

/-- A check writes one bucket. -/
theorem check_attempts : ∃ times : List ℚ, times.length ≤ max (counting limits attempts now key).length (most limits) ∧
    (check limits attempts now key).1 = (bucketFor limits attempts (now - limits.windowSeconds) key).1.insert
      (bucketFor limits attempts (now - limits.windowSeconds) key).2 times := by
  by_cases hfew : (counting limits attempts now key).length < most limits
  · refine ⟨counting limits attempts now key ++ [now], ?_, ?_⟩
    · rw [List.length_append, List.length_singleton]
      omega
    · have hless := (lt_most_iff _).mp hfew
      unfold counting at hless ⊢
      exact congrArg Prod.fst (if_neg hless)
  · refine ⟨counting limits attempts now key, le_max_left _ _, ?_⟩
    have hmany := not_not.mp (fun hless => hfew ((lt_most_iff _).mpr hless))
    unfold counting at hmany ⊢
    exact congrArg Prod.fst (if_pos hmany)

/-- Every check keeps the table within its size. -/
theorem Fits.step {label : ℚ × String} (h : Fits limits s.attempts)
    (hstep : ExchangeRateLimiter.step limits s label = some s') : Fits limits s'.attempts := by
  obtain ⟨now, key⟩ := label
  obtain ⟨times, hlength, hattempts⟩ := @check_attempts limits s.attempts now key
  have hchecked : s'.attempts = (check limits s.attempts now key).1 := by
    unfold ExchangeRateLimiter.step at hstep
    dsimp only at hstep
    split at hstep
    · cases hstep
      rfl
    · cases hstep
  rw [hchecked, hattempts]
  apply h.insert
  exact hlength.trans (max_le h.length_counting le_rfl)

/-! ### The end of the wait -/

/-- What a refused attempt leaves, and the seconds it is told to wait. -/
theorem check_refused (hrefused : check limits attempts now key = (attempts', false, retryAfter)) :
    most limits ≤ (counting limits attempts now key).length ∧
      attempts' = (bucketFor limits attempts (now - limits.windowSeconds) key).1.insert
        (bucketFor limits attempts (now - limits.windowSeconds) key).2 (counting limits attempts now key) ∧
      retryAfter = max 1 ⌊(limits.windowSeconds : ℚ) - (now - oldest limits attempts now key)⌋ := by
  have hnot : ¬ (check limits attempts now key).2.1 = true := by
    rw [hrefused]
    exact Bool.false_ne_true
  rw [check_allowed_iff, not_lt] at hnot
  refine ⟨hnot, ?_⟩
  have hmany : limits.maxAttempts ≤ (counting limits attempts now key).length :=
    not_not.mp fun hless => absurd ((lt_most_iff _).mpr hless) (not_lt.mpr hnot)
  unfold check at hrefused
  unfold oldest
  unfold counting at hmany ⊢
  dsimp only at hrefused hmany ⊢
  rw [if_pos hmany, Prod.mk.injEq, Prod.mk.injEq] at hrefused
  exact ⟨hrefused.1.symm, hrefused.2.2.symm⟩

/-- What a later check of the refused key counts: what is left of the bucket, unless room was made for the key. -/
theorem counting_later (h : Fits limits attempts) (hbucket : bucket = key ∨ bucket = "overflow" ∧ key ∉ attempts ∧
      key ≠ "overflow" ∧ limits.maxKeys ≤ (attempts.keys.length : ℤ)) (times : List ℚ) :
    counting limits (attempts.insert bucket times) later key =
      if bucket ≠ key ∧ staleKeys attempts (later - limits.windowSeconds) ≠ [] then []
      else times.dropWhile fun attempt => attempt ≤ later - limits.windowSeconds := by
  rcases hbucket with rfl | ⟨rfl, hnone, hne, hfull⟩
  · have hfor : bucketFor limits (attempts.insert bucket times) (later - limits.windowSeconds) bucket =
        (attempts.insert bucket times, bucket) := by
      apply if_neg
      rw [AList.mem_insert]
      exact fun habsent => absurd (Or.inl rfl) habsent.1
    unfold counting
    rw [hfor, if_neg (fun hne => hne.1 rfl)]
    dsimp only
    rw [attemptsOf_insert, if_pos rfl]
  · have hsize : (attempts.insert "overflow" times).keys.length = attempts.keys.length := by
      have hmem := AList.mem_keys.mp h.shared
      have hpos := List.length_pos_of_mem hmem
      rw [AList.keys_insert, List.length_cons, List.length_erase_of_mem hmem]
      omega
    have habsent : key ∉ attempts.insert "overflow" times := by
      rw [AList.mem_insert]
      exact fun hmem => hmem.elim hne hnone
    have hguard : key ∉ attempts.insert "overflow" times ∧
        limits.maxKeys ≤ ((attempts.insert "overflow" times).entries.length : ℤ) := by
      rw [length_entries, hsize]
      exact ⟨habsent, hfull⟩
    unfold counting bucketFor
    rw [if_pos hguard]
    dsimp only
    by_cases hstale : staleKeys attempts (later - limits.windowSeconds) ≠ []
    · -- a stale bucket makes room, and the key starts with an empty one
      have hkeys := h.keys
      have hless := length_foldl_erase ((staleKeys_insert_overflow times).mpr hstale)
      rw [hsize] at hless
      rw [length_entries, if_neg (by omega), if_pos ⟨hne.symm, hstale⟩]
      dsimp only
      have hempty : attemptsOf ((staleKeys (attempts.insert "overflow" times) (later - limits.windowSeconds)).foldl
          (fun attempts stale => attempts.erase stale) (attempts.insert "overflow" times)) key = [] := by
        rw [attemptsOf, lookup_foldl_erase, AList.lookup_eq_none.mpr habsent, ite_self]
        rfl
      rw [hempty, List.dropWhile_nil]
    · have hnothing : staleKeys (attempts.insert "overflow" times) (later - limits.windowSeconds) = [] := by
        rw [← not_not (a := _ = _)]
        exact fun hsome => hstale ((staleKeys_insert_overflow times).mp hsome)
      rw [hnothing, List.foldl_nil, if_pos hguard.2, if_neg (fun hboth => hstale hboth.2)]
      dsimp only
      rw [attemptsOf_insert, if_pos rfl]

/-- A key that shares a bucket has none of its own, and the table is full. -/
theorem bucketFor_cases : (bucketFor limits attempts cutoff key).2 = key ∨
    (bucketFor limits attempts cutoff key).2 = "overflow" ∧ key ∉ (bucketFor limits attempts cutoff key).1 ∧
      limits.maxKeys ≤ ((bucketFor limits attempts cutoff key).1.keys.length : ℤ) := by
  have hroom := room_of_bucketFor limits attempts cutoff key
  rcases hroom.bucket with hown | ⟨hshared, hnone⟩
  · exact Or.inl hown
  · unfold bucketFor at hshared hnone ⊢
    split
    · next hfull =>
      rw [if_pos hfull] at hshared hnone
      dsimp only at hshared hnone ⊢
      split
      · next hstill =>
        rw [if_pos hstill] at hnone
        rw [length_entries] at hstill
        exact Or.inr ⟨rfl, hnone, hstill⟩
      · exact Or.inl rfl
    · exact Or.inl rfl

/-- Making room keeps the table within its size. -/
theorem Fits.bucketFor (h : Fits limits attempts) : Fits limits (bucketFor limits attempts cutoff key).1 where
  shared := (room_of_bucketFor limits attempts cutoff key).shared h.shared
  keys := by
    have hkeys := h.keys
    have hsize := length_bucketFor_le limits attempts cutoff key
    omega
  lengths := h.room (room_of_bucketFor limits attempts cutoff key)

/-- Attempts up to a cutoff are dropped exactly if the first one is. -/
theorem length_dropWhile_lt_iff {times : List ℚ} (htimes : times ≠ []) :
    (times.dropWhile fun attempt => attempt ≤ cutoff).length < times.length ↔ times.headD 0 ≤ cutoff := by
  cases times with
  | nil => exact absurd rfl htimes
  | cons first rest =>
    rw [List.headD_cons]
    by_cases hold : first ≤ cutoff
    · have hless := (List.dropWhile_sublist (l := rest) fun attempt => attempt ≤ cutoff).length_le
      rw [List.dropWhile_cons_of_pos (by simpa using hold), List.length_cons]
      exact iff_of_true (by omega) hold
    · rw [List.dropWhile_cons_of_neg (by simpa using hold)]
      exact iff_of_false (lt_irrefl _) hold

/-- A later check of a refused key is allowed exactly if the oldest attempt is old by then, or another bucket has
made room. -/
theorem allowed_later_iff (h : Fits limits attempts)
    (hrefused : check limits attempts now key = (attempts', false, retryAfter)) :
    (check limits attempts' later key).2.1 = true ↔
      oldest limits attempts now key ≤ later - limits.windowSeconds ∨
        (bucketFor limits attempts (now - limits.windowSeconds) key).2 ≠ key ∧
          staleKeys (bucketFor limits attempts (now - limits.windowSeconds) key).1 (later - limits.windowSeconds) ≠ [] := by
  obtain ⟨hmany, hattempts, -⟩ := check_refused hrefused
  have hexactly : (counting limits attempts now key).length = most limits := le_antisymm h.length_counting hmany
  have hsome : counting limits attempts now key ≠ [] := by
    rw [← List.length_pos_iff, hexactly]
    exact most_pos limits
  have hbucket : (bucketFor limits attempts (now - limits.windowSeconds) key).2 = key ∨
      (bucketFor limits attempts (now - limits.windowSeconds) key).2 = "overflow" ∧
        key ∉ (bucketFor limits attempts (now - limits.windowSeconds) key).1 ∧ key ≠ "overflow" ∧
        limits.maxKeys ≤ ((bucketFor limits attempts (now - limits.windowSeconds) key).1.keys.length : ℤ) := by
    rcases @bucketFor_cases limits attempts (now - limits.windowSeconds) key with hown | ⟨hshared, hnone, hfull⟩
    · exact Or.inl hown
    · refine Or.inr ⟨hshared, hnone, ?_, hfull⟩
      rintro rfl
      exact hnone ((room_of_bucketFor limits attempts _ _).shared h.shared)
  rw [check_allowed_iff, hattempts, counting_later h.bucketFor hbucket]
  split
  · next hroom => exact iff_of_true (most_pos limits) (Or.inr hroom)
  · next hnone =>
    rw [← hexactly, length_dropWhile_lt_iff hsome]
    exact ⟨Or.inl, fun hold => hold.resolve_right hnone⟩

/-- The attempts that a reachable limiter counts lie in the window before the check. -/
theorem Counted.oldest (h : Counted limits s) (hclock : s.clock ≤ now)
    (hsome : counting limits s.attempts now key ≠ []) :
    now - limits.windowSeconds < oldest limits s.attempts now key ∧ oldest limits s.attempts now key ≤ now := by
  have hkept : counting limits s.attempts now key = live (window limits) now (s.times fun admission =>
      admission.bucket = (bucketFor limits s.attempts (now - limits.windowSeconds) key).2) :=
    h.kept hclock (room_of_bucketFor limits s.attempts (now - limits.windowSeconds) key)
  have hmem : ExchangeRateLimiter.oldest limits s.attempts now key ∈ counting limits s.attempts now key := by
    obtain ⟨first, rest, hlist⟩ := List.exists_cons_of_ne_nil hsome
    rw [ExchangeRateLimiter.oldest, hlist]
    exact List.mem_cons_self
  rw [hkept, live, List.mem_filter] at hmem
  obtain ⟨admission, hadmission, htime⟩ := List.mem_map.mp hmem.1
  refine ⟨of_decide_eq_true hmem.2, ?_⟩
  rw [← htime]
  exact (h.past admission (List.mem_filter.mp hadmission).1).trans hclock

/-- The start of the window at the end of the wait. -/
theorem rounded_wait (windowSeconds : ℤ) (first : ℚ) :
    now + ((max 1 ⌊(windowSeconds : ℚ) - (now - first)⌋ : ℤ) : ℚ) - windowSeconds =
      if first + windowSeconds ≤ now + 1 then now + 1 - windowSeconds else now + ⌊first - now⌋ := by
  have hsplit : (windowSeconds : ℚ) - (now - first) = windowSeconds + (first - now) := by ring
  rw [hsplit, Int.floor_intCast_add]
  split
  · next hsoon =>
    have hfloor : windowSeconds + ⌊first - now⌋ ≤ 1 := by
      rw [← Int.floor_intCast_add, ← Int.lt_add_one_iff, Int.floor_lt]
      push_cast
      linarith
    rw [max_eq_left hfloor, Int.cast_one]
  · next hlate =>
    have hfloor : 1 ≤ windowSeconds + ⌊first - now⌋ := by
      rw [← Int.floor_intCast_add, Int.le_floor]
      push_cast
      linarith
    rw [max_eq_right hfloor]
    push_cast
    ring

/-- A refused client of a reachable limiter waits between one second and a window, and is allowed at any time after
that exactly if it waits enough. -/
theorem retry_after_honest_iff (limits : RateLimits) (clock : ℚ) (calls : List (ℚ × String)) (s : State)
    (hrun : runSteps (step limits) (State.initial clock) calls = some s) (now : ℚ) (hclock : s.clock ≤ now)
    (key : String) (attempts' : Attempts) (retryAfter : ℤ)
    (hrefused : check limits s.attempts now key = (attempts', false, retryAfter)) :
    (1 ≤ retryAfter ∧ retryAfter ≤ limits.windowSeconds ∧
      ∀ later, now + retryAfter ≤ later → (check limits attempts' later key).2.1 = true) ↔
      WaitsEnough limits s.attempts now key := by
  have hcounted : Counted limits s :=
    runSteps_invariant (Counted limits) (fun _ _ _ h hstep => h.step hstep) (counted_initial limits clock) hrun
  have hfits : Fits limits s.attempts :=
    runSteps_invariant (fun s => Fits limits s.attempts) (fun _ _ _ h hstep => h.step hstep)
      (fits_initial limits clock) hrun
  obtain ⟨hmany, -, hretry⟩ := check_refused hrefused
  have hsome : counting limits s.attempts now key ≠ [] := by
    rw [← List.length_pos_iff]
    exact lt_of_lt_of_le (most_pos limits) hmany
  obtain ⟨hlive, hpast⟩ := @Counted.oldest limits now key s hcounted hclock hsome
  have hbounds : 1 ≤ retryAfter ∧ retryAfter ≤ limits.windowSeconds := by
    have haccepted := limits.accepted
    rw [hretry]
    refine ⟨le_max_left _ _, max_le (by omega) ?_⟩
    apply Int.floor_le_iff.mpr
    linarith
  have hend : (∀ later, now + retryAfter ≤ later → (check limits attempts' later key).2.1 = true) ↔
      (check limits attempts' (now + retryAfter) key).2.1 = true := by
    refine ⟨fun hall => hall _ le_rfl, fun hallowed later hlater => ?_⟩
    rw [allowed_later_iff hfits hrefused] at hallowed ⊢
    have hcutoff := sub_le_sub_right hlater (limits.windowSeconds : ℚ)
    rcases hallowed with hold | ⟨hshared, hstale⟩
    · exact Or.inl (hold.trans hcutoff)
    · exact Or.inr ⟨hshared, staleKeys_mono hcutoff hstale⟩
  rw [and_iff_right hbounds.1, and_iff_right hbounds.2, hend, allowed_later_iff hfits hrefused, hretry,
    rounded_wait limits.windowSeconds, WaitsEnough]
  by_cases hsoon : oldest limits s.attempts now key + limits.windowSeconds ≤ now + 1
  · rw [if_pos hsoon]
    exact iff_of_true (Or.inl (by linarith)) (Or.inl hsoon)
  · rw [if_neg hsoon, or_iff_right hsoon]
    -- the oldest attempt is old in time exactly if nothing was rounded off
    have hwhole : oldest limits s.attempts now key ≤ now + ⌊oldest limits s.attempts now key - now⌋ ↔
        Int.fract (now - oldest limits s.attempts now key) = 0 := by
      have hfloor := Int.floor_le (oldest limits s.attempts now key - now)
      rw [← neg_sub (oldest limits s.attempts now key) now, Int.fract_neg_eq_zero, Int.fract, sub_eq_zero]
      constructor
      · intro hle
        linarith
      · intro heq
        linarith
    rw [hwhole]

/-- The theorem applies to a client that asks again half a minute later. -/
theorem retry_after_honest_iff_halfMinute :
    ∃ s ∈ runSteps (step onePerMinute) (State.initial 0) [(1 / 2, "client-a")],
      ∃ attempts', check onePerMinute s.attempts (61 / 2) "client-a" = (attempts', false, 30) ∧
        ∀ later, 61 / 2 + 30 ≤ later → (check onePerMinute attempts' later "client-a").2.1 = true := by
  have hreach : ∃ s ∈ runSteps (step onePerMinute) (State.initial 0) [(1 / 2, "client-a")],
      s.clock ≤ 61 / 2 ∧ (check onePerMinute s.attempts (61 / 2) "client-a").2 = (false, 30) ∧
        WaitsEnough onePerMinute s.attempts (61 / 2) "client-a" := by
    decide +kernel
  obtain ⟨s, hrun, hclock, hanswer, hwaits⟩ := hreach
  have hrefused : check onePerMinute s.attempts (61 / 2) "client-a" =
      ((check onePerMinute s.attempts (61 / 2) "client-a").1, false, 30) := Prod.ext rfl hanswer
  have hhonest := (retry_after_honest_iff onePerMinute 0 _ s hrun (61 / 2) hclock "client-a" _ 30 hrefused).mpr hwaits
  exact ⟨s, hrun, _, hrefused, hhonest.2.2⟩

/-- A client that was refused at second 1 is told to wait 59 seconds, and is refused at second 60. -/
theorem retry_after_too_short : ¬ ∀ (limits : RateLimits) (clock : ℚ) (calls : List (ℚ × String)) (s : State),
    runSteps (step limits) (State.initial clock) calls = some s → ∀ now, s.clock ≤ now →
      ∀ key attempts' retryAfter, check limits s.attempts now key = (attempts', false, retryAfter) →
        1 ≤ retryAfter ∧ retryAfter ≤ limits.windowSeconds ∧
          ∀ later, now + retryAfter ≤ later → (check limits attempts' later key).2.1 = true := by
  intro hall
  have hreach : ∃ s ∈ runSteps (step onePerMinute) (State.initial 0) [(1 / 2, "client-a")],
      s.clock ≤ 1 ∧ (check onePerMinute s.attempts 1 "client-a").2 = (false, 59) ∧
        (check onePerMinute (check onePerMinute s.attempts 1 "client-a").1 60 "client-a").2.1 = false := by
    decide +kernel
  obtain ⟨s, hrun, hclock, hanswer, hagain⟩ := hreach
  have hhonest := hall onePerMinute 0 _ s hrun 1 hclock "client-a" (check onePerMinute s.attempts 1 "client-a").1 59
    (Prod.ext rfl hanswer)
  have hallowed := hhonest.2.2 60 (by norm_num)
  rw [hagain] at hallowed
  exact Bool.false_ne_true hallowed

end ExchangeRateLimiter

end SharedIntegration
