import SharedIntegration.ExchangeLimiter

/-!
# The memory of the exchange rate limiter

Clients choose the keys that they are counted under. The table of buckets stays small all the same: a
new key is stored only while there is room, room is made by giving up buckets without a recent
attempt, and a key without room shares the overflow bucket, which is never given up.
-/

namespace SharedIntegration

open Transition Window

namespace ExchangeRateLimiter

/-- What the limiter holds in memory. -/
structure WellFormed (limits : RateLimits) (attempts : Attempts) : Prop where
  overflow : "overflow" ∈ attempts
  keys : attempts.keys.length ≤ limits.maxKeys
  sorted : ∀ bucket times, attempts.lookup bucket = some times → times.Pairwise (· ≤ ·)
  few : ∀ bucket times, attempts.lookup bucket = some times → times.length ≤ limits.maxAttempts

/-- A check gives up no attempt that lies within its window, neither with a bucket that it evicts nor
when it drops the old attempts of a bucket. -/
def KeepsWindow (limits : RateLimits) (attempts : Attempts) (now : ℚ) (key : String) : Prop :=
  ∀ bucket times, attempts.lookup bucket = some times → ∀ time ∈ times, now - limits.windowSeconds < time →
    ∃ times', (check limits attempts now key).1.lookup bucket = some times' ∧ time ∈ times'

variable {limits : RateLimits} {attempts : Attempts} {cutoff now : ℚ} {key : String}

/-- Erasing keys one after another leaves no more of them. -/
theorem length_foldl_erase_le (keys : List String) (attempts : Attempts) :
    (keys.foldl (fun attempts stale => attempts.erase stale) attempts).keys.length ≤ attempts.keys.length := by
  induction keys generalizing attempts with
  | nil => exact le_rfl
  | cons stale rest ih =>
    have herase : (attempts.erase stale).keys.length ≤ attempts.keys.length := by
      rw [AList.keys_erase]
      exact List.length_erase_le
    exact (ih (attempts.erase stale)).trans herase

/-- A bucket that is written is stored once. -/
theorem length_insert (attempts : Attempts) (bucket : String) (times : List ℚ) :
    (attempts.insert bucket times).keys.length =
      if bucket ∈ attempts then attempts.keys.length else attempts.keys.length + 1 := by
  rw [AList.keys_insert, List.length_cons]
  split
  · next hstored =>
    have hmem : bucket ∈ attempts.keys := AList.mem_keys.mp hstored
    have hpos : 0 < attempts.keys.length := List.length_pos_of_mem hmem
    rw [List.length_erase_of_mem hmem]
    omega
  · next hnew =>
    have hnotMem : bucket ∉ attempts.keys := fun hmem => hnew (AList.mem_keys.mpr hmem)
    rw [List.erase_of_not_mem hnotMem]

/-- The shared bucket is never given up. -/
theorem overflow_mem_bucketFor (h : "overflow" ∈ attempts) :
    "overflow" ∈ (bucketFor limits attempts cutoff key).1 := by
  rcases (room_of_bucketFor limits attempts cutoff key).lookup "overflow" with hsame | ⟨-, hstale⟩
  · rw [← AList.lookup_isSome, hsame, AList.lookup_isSome]
    exact h
  · exact absurd rfl (of_mem_staleKeys hstale).1

/-- A check writes to a stored bucket, or there is room for one more. -/
theorem room_in_bucketFor (hoverflow : "overflow" ∈ attempts) (hkeys : attempts.keys.length ≤ limits.maxKeys) :
    (bucketFor limits attempts cutoff key).1.keys.length ≤ limits.maxKeys ∧
      ((bucketFor limits attempts cutoff key).2 ∈ (bucketFor limits attempts cutoff key).1 ∨
        (bucketFor limits attempts cutoff key).1.keys.length < limits.maxKeys) := by
  have hshared := @overflow_mem_bucketFor limits attempts cutoff key hoverflow
  unfold bucketFor at hshared ⊢
  by_cases hfull : key ∉ attempts ∧ limits.maxKeys ≤ attempts.entries.length
  · rw [if_pos hfull] at hshared ⊢
    have hfewer := length_foldl_erase_le (staleKeys attempts cutoff) attempts
    dsimp only at hshared ⊢
    rw [length_entries] at hshared ⊢
    split
    · next hstill =>
      rw [if_pos hstill] at hshared
      exact ⟨(Int.ofNat_le.mpr hfewer).trans hkeys, .inl hshared⟩
    · next hroom => exact ⟨(Int.ofNat_le.mpr hfewer).trans hkeys, .inr (not_le.mp hroom)⟩
  · rw [if_neg hfull]
    refine ⟨hkeys, ?_⟩
    by_cases hstored : key ∈ attempts
    · exact .inl hstored
    · rw [length_entries] at hfull
      exact .inr (not_le.mp fun hmax => hfull ⟨hstored, hmax⟩)

/-- What a check writes. -/
theorem exists_check_eq (limits : RateLimits) (attempts : Attempts) (now : ℚ) (key : String) :
    let bucket := (bucketFor limits attempts (now - window limits) key).2
    let room := (bucketFor limits attempts (now - window limits) key).1
    let kept := (attemptsOf room bucket).dropWhile fun attempt => attempt ≤ now - window limits
    ((check limits attempts now key).1 = room.insert bucket kept) ∨
      kept.length < limits.maxAttempts ∧ (check limits attempts now key).1 = room.insert bucket (kept ++ [now]) := by
  unfold check
  dsimp only
  split
  · exact .inl rfl
  · next hfew => exact .inr ⟨not_le.mp hfew, rfl⟩

/-- The attempts of a stored bucket. -/
theorem attemptsOf_of_lookup {bucket : String} {times : List ℚ} (h : attempts.lookup bucket = some times) :
    attemptsOf attempts bucket = times := by
  rw [attemptsOf, h, Option.getD_some]

/-- Making room lengthens no bucket. -/
theorem WellFormed.length_room_le (h : WellFormed limits attempts) (bucket : String) :
    (attemptsOf (bucketFor limits attempts cutoff key).1 bucket).length ≤ limits.maxAttempts := by
  have haccepted := limits.accepted
  have hempty : (([] : List ℚ).length : ℤ) ≤ limits.maxAttempts := by
    rw [List.length_nil]
    omega
  rcases (room_of_bucketFor limits attempts cutoff key).lookup bucket with hsame | ⟨hnone, -⟩
  · rw [attemptsOf, hsame]
    cases hlookup : attempts.lookup bucket with
    | none => exact hempty
    | some times => exact h.few bucket times hlookup
  · rw [attemptsOf, hnone]
    exact hempty

/-- A check keeps the memory well formed, as long as it keeps the buckets in order. -/
theorem WellFormed.check (h : WellFormed limits attempts)
    (hsorted : ∀ bucket, (attemptsOf (check limits attempts now key).1 bucket).Pairwise (· ≤ ·)) :
    WellFormed limits (check limits attempts now key).1 := by
  obtain ⟨hkeys, hroom⟩ := @room_in_bucketFor limits attempts (now - window limits) key h.overflow h.keys
  have hoverflow := @overflow_mem_bucketFor limits attempts (now - window limits) key h.overflow
  have hfew := @WellFormed.length_room_le limits attempts (now - window limits) key h
  -- what holds whichever times are written
  have hwritten : ∀ times : List ℚ, times.length ≤ limits.maxAttempts →
      (ExchangeRateLimiter.check limits attempts now key).1 =
        (bucketFor limits attempts (now - window limits) key).1.insert
          (bucketFor limits attempts (now - window limits) key).2 times →
      WellFormed limits (ExchangeRateLimiter.check limits attempts now key).1 := by
    intro times htimes hcheck
    refine ⟨?_, ?_, ?_, ?_⟩
    · rw [hcheck, AList.mem_insert]
      exact .inr hoverflow
    · rw [hcheck, length_insert]
      split
      · exact hkeys
      · next hnew => exact hroom.resolve_left hnew
    · intro bucket stored hlookup
      rw [← attemptsOf_of_lookup hlookup]
      exact hsorted bucket
    · intro bucket stored hlookup
      rw [← attemptsOf_of_lookup hlookup, hcheck, attemptsOf_insert]
      split
      · exact htimes
      · exact hfew bucket
  rcases exists_check_eq limits attempts now key with hrefused | ⟨hlength, hallowed⟩
  · exact hwritten _ ((Int.ofNat_le.mpr (List.dropWhile_sublist _).length_le).trans (hfew _)) hrefused
  · refine hwritten _ ?_ hallowed
    rw [List.length_append, List.length_singleton]
    exact hlength

/-- An attempt of the window is in the bucket that had it. -/
theorem keepsWindow_of_sorted (hsorted : ∀ bucket, (attemptsOf attempts bucket).Pairwise (· ≤ ·)) :
    KeepsWindow limits attempts now key := by
  intro bucket times hlookup time htime hlive
  have htimes := attemptsOf_of_lookup hlookup
  have hkept : (bucketFor limits attempts (now - window limits) key).1.lookup bucket = some times := by
    rcases (room_of_bucketFor limits attempts (now - window limits) key).lookup bucket with hsame | ⟨-, hstale⟩
    · exact hsame.trans hlookup
    · have hlast := (of_mem_staleKeys hstale).2
      have hold := le_getLast? (hsorted bucket) hlast (htimes ▸ htime)
      exact absurd hlive (not_lt.mpr hold)
  have hwritten : ∀ rest : List ℚ, (check limits attempts now key).1 =
      (bucketFor limits attempts (now - window limits) key).1.insert
        (bucketFor limits attempts (now - window limits) key).2
        (((attemptsOf (bucketFor limits attempts (now - window limits) key).1
          (bucketFor limits attempts (now - window limits) key).2).dropWhile
            fun attempt => attempt ≤ now - window limits) ++ rest) →
      ∃ times', (check limits attempts now key).1.lookup bucket = some times' ∧ time ∈ times' := by
    intro rest hcheck
    rw [hcheck]
    by_cases hserved : bucket = (bucketFor limits attempts (now - window limits) key).2
    · rw [← hserved, AList.lookup_insert]
      refine ⟨_, rfl, List.mem_append_left _ ?_⟩
      rw [attemptsOf_of_lookup hkept, dropWhile_eq_filter (htimes ▸ hsorted bucket)]
      exact List.mem_filter.mpr ⟨htime, decide_eq_true hlive⟩
    · rw [AList.lookup_insert_ne hserved]
      exact ⟨times, hkept, htime⟩
  rcases exists_check_eq limits attempts now key with hrefused | ⟨-, hallowed⟩
  · exact hwritten [] (by rwa [List.append_nil])
  · exact hwritten [now] hallowed

/-- A step is a check. -/
theorem attempts_of_step {s s' : State} (h : step limits s (now, key) = some s') :
    s'.attempts = (check limits s.attempts now key).1 := by
  unfold step at h
  dsimp only at h
  split at h
  · cases h
    rfl
  · cases h

/-- A new limiter holds the shared bucket only. -/
theorem wellFormed_singleton (limits : RateLimits) : WellFormed limits (AList.singleton "overflow" []) := by
  have haccepted := limits.accepted
  have hlookup : ∀ bucket times, (AList.singleton "overflow" [] : Attempts).lookup bucket = some times →
      times = [] := by
    intro bucket times hlookup
    rw [← attemptsOf_of_lookup hlookup]
    exact attemptsOf_initial 0 bucket
  refine ⟨?_, ?_, fun bucket times h => ?_, fun bucket times h => ?_⟩
  · rw [← AList.lookup_isSome]
    rfl
  · change ((1 : ℕ) : ℤ) ≤ limits.maxKeys
    omega
  · rw [hlookup bucket times h]
    exact List.Pairwise.nil
  · rw [hlookup bucket times h, List.length_nil]
    omega

/-- After every sequence of checks, with any settings and keys and a clock that does not run backwards, the
memory is well formed and the next check keeps the attempts of its window. -/
theorem limiter_memory_bounded (maxAttempts windowSeconds maxKeys : ℤ) (limits : RateLimits) (attempts : Attempts)
    (hinit : init maxAttempts windowSeconds maxKeys = .ok (limits, attempts)) (clock : ℚ)
    (calls : List (ℚ × String)) (s : State) (hrun : runSteps (step limits) ⟨attempts, clock, []⟩ calls = some s) :
    WellFormed limits s.attempts ∧ ∀ now key, KeepsWindow limits s.attempts now key := by
  have hattempts : attempts = AList.singleton "overflow" [] := by
    unfold init at hinit
    split at hinit
    · cases hinit
    · cases hinit
      rfl
  subst hattempts
  have hinv : Counted limits s ∧ WellFormed limits s.attempts := by
    refine runSteps_invariant (fun s => Counted limits s ∧ WellFormed limits s.attempts) ?_
      ⟨counted_initial limits clock, wellFormed_singleton limits⟩ hrun
    intro s ⟨now, key⟩ s' ⟨hcounted, hformed⟩ hstep
    have hcounted' := hcounted.step hstep
    have hattempts := attempts_of_step hstep
    refine ⟨hcounted', ?_⟩
    rw [hattempts]
    exact hformed.check fun bucket => hattempts ▸ hcounted'.sorted bucket
  exact ⟨hinv.2, fun now key => keepsWindow_of_sorted hinv.1.sorted⟩

/-- The theorem applies to a run in which a full table makes room for a third client. -/
theorem limiter_memory_bounded_full :
    ∃ s, runSteps (step onePerMinute) (State.initial 0) [(0, "client-a"), (30, "client-b"), (60, "client-c")] =
        some s ∧ WellFormed onePerMinute s.attempts ∧ ∀ now key, KeepsWindow onePerMinute s.attempts now key := by
  have hsome : (runSteps (step onePerMinute) (State.initial 0)
      [(0, "client-a"), (30, "client-b"), (60, "client-c")]).isSome = true := by decide +kernel
  obtain ⟨s, hrun⟩ := Option.isSome_iff_exists.mp hsome
  exact ⟨s, hrun, limiter_memory_bounded 1 60 2 onePerMinute (AList.singleton "overflow" []) rfl 0 _ s hrun⟩

end ExchangeRateLimiter

end SharedIntegration
