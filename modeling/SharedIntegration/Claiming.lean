import Mathlib.Algebra.GroupWithZero.Nat
import SharedIntegration.SystemMoves
import SharedIntegration.FindingDict

/-!
# Who claims a job

A retry claims a job that is already running, so one conditional update does not exclude two
executions. What excludes them is global: no step returns a job to the queue, and a run
reaches its second claim only after its first. Each run counts its successful claims, and the
sum over all runs of a job is the attempt number stored for it.
-/

namespace SharedIntegration

open Transition

/-- The attempt a position belongs to, inside the loop of `execute`. -/
def Pc.attempt : Pc → Option ℕ
  | .loopTop attempt | .cancelling attempt | .claiming attempt _ | .trying attempt _ => some attempt
  | _ => none

/-- How often a run at this position has claimed its job, as far as the position tells. -/
def Pc.claims : Pc → Option ℕ
  | .start | .unknownSource _ => some 0
  | .loopTop attempt | .cancelling attempt | .claiming attempt _ => some (attempt - 1)
  | .trying attempt _ => some attempt
  | .done _ | .dead => none

/-- The position is on its way to a further attempt. -/
def Pc.retries : Pc → Bool
  | .trying _ stage => stage.retries
  | _ => false

/-- The claim counters of a run agree with its position. -/
structure Run.Counted (run : Run) : Prop where
  position : ∀ n ∈ run.pc.claims, run.claims = n
  attempt : ∀ n ∈ run.pc.attempt, 1 ≤ n ∧ n ≤ run.executor.maxAttempts
  retry : ∀ n ∈ run.pc.attempt, run.pc.retries = true → n < run.executor.maxAttempts
  queued : run.queuedClaims = if run.claims = 0 then 0 else 1
  bounded : run.claims ≤ run.executor.maxAttempts
  scanned : run.scans.length = run.claims

/-- A run that has not begun is counted. -/
theorem Run.counted_fresh (executor : JobExecutor) (key : JobKey) :
    (Run.fresh executor key).Counted := by
  constructor <;> simp [Run.fresh, Pc.claims, Pc.attempt]

/-- Moving to a position of no attempt keeps the counters. -/
theorem Run.Counted.leave {run : Run} (hrun : run.Counted) {pc : Pc} (hclaims : pc.claims = none)
    (hattempt : pc.attempt = none) : (run.goto pc).Counted where
  position := by simp [goto, hclaims]
  attempt := by simp [goto, hattempt]
  retry := by simp [goto, hattempt]
  queued := hrun.queued
  bounded := hrun.bounded
  scanned := hrun.scanned

/-- Moving within an attempt keeps the counters. -/
theorem Run.Counted.stay {run : Run} (hrun : run.Counted) {pc : Pc} (hclaims : pc.claims = run.pc.claims)
    (hattempt : pc.attempt = run.pc.attempt)
    (hretry : pc.retries = true → ∀ n ∈ run.pc.attempt, n < run.executor.maxAttempts) :
    (run.goto pc).Counted where
  position := by
    intro n hn
    rw [goto, hclaims] at hn
    exact hrun.position n hn
  attempt := by
    intro n hn
    rw [goto, hattempt] at hn
    exact hrun.attempt n hn
  retry := by
    intro n hn hpc
    rw [goto, hattempt] at hn
    exact hretry hpc n hn
  queued := hrun.queued
  bounded := hrun.bounded
  scanned := hrun.scanned

/-- A run in an attempt has claimed its job from the queue. -/
theorem Run.Counted.queuedClaims_pos {run : Run} (hrun : run.Counted) {attempt : ℕ} {stage : Stage}
    (hpc : run.pc = .trying attempt stage) : 0 < run.queuedClaims := by
  have hclaims := hrun.position attempt (by simp [hpc, Pc.claims])
  have hattempt := hrun.attempt attempt (by simp [hpc, Pc.attempt])
  have hqueued := hrun.queued
  rw [if_neg (by omega)] at hqueued
  omega

/-- Every step of a run keeps its counters in agreement with its position. -/
theorem Run.Counted.move {now : Instant} {run run' : Run} {event : RunEvent} {v v' : JobView}
    (hrun : run.Counted) (h : run.Move now event v v' run') : run'.Counted := by
  cases h with
  | crash | skip | abort | failUnknown | stopAtTop | cancel | refuse | finish | findTerminal
  | abandonRetry | loseRetry => exact hrun.leave rfl rfl
  | accept hpc =>
    have hclaims := hrun.position 0 (by simp [hpc, Pc.claims])
    have hpos := run.executor.maxAttempts_pos
    refine ⟨?_, ?_, ?_, hrun.queued, hrun.bounded, hrun.scanned⟩
    · simpa [admitted, Pc.claims] using hclaims
    · simpa [admitted, Pc.attempt] using hpos
    · simp [admitted, Pc.retries]
  | reject hpc =>
    refine hrun.stay ?_ ?_ ?_
    · simp [hpc, Pc.claims]
    · simp [hpc, Pc.attempt]
    · simp [Pc.retries]
  | cancelAtTop hpc | proceed hpc =>
    refine hrun.stay ?_ ?_ ?_
    · simp [hpc, Pc.claims]
    · simp [hpc, Pc.attempt]
    · simp [Pc.retries]
  | @claim attempt payload hpc hclaimable =>
    have hclaims := hrun.position (attempt - 1) (by simp [hpc, Pc.claims])
    have hattempt := hrun.attempt attempt (by simp [hpc, Pc.attempt])
    have hqueued := hrun.queued
    have hscanned := hrun.scanned
    refine ⟨?_, ?_, ?_, ?_, ?_, ?_⟩
    · simp only [claimed, Pc.claims, Option.mem_some_iff]
      omega
    · simpa [claimed, Pc.attempt] using hattempt
    · simp [claimed, Pc.retries, Stage.retries]
    · simp only [claimed, Nat.add_one_ne_zero, if_false]
      split at hqueued <;> split <;> omega
    · simp only [claimed]
      omega
    · simp only [claimed, List.length_append, List.length_singleton]
      omega
  | work stage' hpc hlog hretry =>
    refine hrun.stay ?_ ?_ ?_
    · simp [hpc, Pc.claims]
    · simp [hpc, Pc.attempt]
    · intro hretries n hn
      rcases hretry hretries with hold | hleft
      · exact hrun.retry n hn (by simpa [hpc, Pc.retries] using hold)
      · simp only [hpc, Pc.attempt, Option.mem_some_iff] at hn
        omega
  | @retry attempt hpc =>
    have hclaims := hrun.position attempt (by simp [hpc, Pc.claims])
    have hattempt := hrun.attempt attempt (by simp [hpc, Pc.attempt])
    have hleft := hrun.retry attempt (by simp [hpc, Pc.attempt]) (by simp [hpc, Pc.retries, Stage.retries])
    refine ⟨?_, ?_, ?_, hrun.queued, hrun.bounded, hrun.scanned⟩
    · simpa [goto, Pc.claims] using hclaims
    · simp only [goto, Pc.attempt, Option.mem_some_iff]
      omega
    · simp [goto, Pc.retries]

/-- The sum of a counter over the runs of one job. -/
def total (count : Run → ℕ) (key : JobKey) (runs : List Run) : ℕ :=
  (runs.map fun run => if run.key = key then count run else 0).sum

@[simp] theorem total_nil (count : Run → ℕ) (key : JobKey) : total count key [] = 0 := rfl

@[simp] theorem total_cons (count : Run → ℕ) (key : JobKey) (run : Run) (runs : List Run) :
    total count key (run :: runs) = (if run.key = key then count run else 0) + total count key runs := by
  simp [total]

@[simp] theorem total_append (count : Run → ℕ) (key : JobKey) (runs runs' : List Run) :
    total count key (runs ++ runs') = total count key runs + total count key runs' := by
  simp [total]

/-- The sum is zero when no run of the job counts anything. -/
theorem total_eq_zero (count : Run → ℕ) {key : JobKey} {runs : List Run}
    (h : ∀ run ∈ runs, run.key = key → count run = 0) : total count key runs = 0 := by
  induction runs with
  | nil => rfl
  | cons run rest ih =>
    have hrest := ih fun r hr => h r (List.mem_cons_of_mem run hr)
    rw [total_cons, hrest, Nat.add_zero]
    split
    · next hkey => exact h run List.mem_cons_self hkey
    · rfl

/-- Counters that agree on the runs of the job have the same sum. -/
theorem total_congr {count count' : Run → ℕ} (key : JobKey) {runs : List Run}
    (h : ∀ run ∈ runs, count run = count' run) : total count key runs = total count' key runs := by
  induction runs with
  | nil => rfl
  | cons run rest ih =>
    rw [total_cons, total_cons, h run List.mem_cons_self,
      ih fun r hr => h r (List.mem_cons_of_mem run hr)]

/-- The sum after one run has taken a step. -/
theorem total_step (count : Run → ℕ) (key : JobKey) {runs runs' before after : List Run}
    {run run' : Run} (hkey : run'.key = run.key) (hruns : runs = before ++ run :: after)
    (hruns' : runs' = before ++ run' :: after) :
    total count key runs' + (if run.key = key then count run else 0) =
      total count key runs + if run.key = key then count run' else 0 := by
  rw [hruns, hruns', total_append, total_append, total_cons, total_cons, hkey]
  omega

/-- A counter of one run is at most the sum. -/
theorem le_total (count : Run → ℕ) {key : JobKey} {runs : List Run} {run : Run} (hrun : run ∈ runs)
    (hkey : run.key = key) : count run ≤ total count key runs := by
  induction runs with
  | nil => cases hrun
  | cons first rest ih =>
    rw [total_cons]
    rcases List.mem_cons.mp hrun with rfl | hrest
    · rw [if_pos hkey]
      omega
    · have := ih hrest
      omega

/-- When the sum is at most one, only one run counts anything. -/
theorem total_unique (count : Run → ℕ) {key : JobKey} {runs : List Run}
    (htotal : total count key runs ≤ 1) {i j : ℕ} {run run' : Run} (hi : runs[i]? = some run)
    (hj : runs[j]? = some run') (hkey : run.key = key) (hkey' : run'.key = key)
    (hrun : 0 < count run) (hrun' : 0 < count run') : i = j := by
  induction runs generalizing i j with
  | nil => simp at hi
  | cons first rest ih =>
    rw [total_cons] at htotal
    cases i with
    | zero =>
      cases j with
      | zero => rfl
      | succ j =>
        simp only [List.getElem?_cons_zero, Option.some.injEq, List.getElem?_cons_succ] at hi hj
        have hle := le_total count (List.mem_of_getElem? hj) hkey'
        rw [hi, if_pos hkey] at htotal
        omega
    | succ i =>
      cases j with
      | zero =>
        simp only [List.getElem?_cons_zero, Option.some.injEq, List.getElem?_cons_succ] at hi hj
        have hle := le_total count (List.mem_of_getElem? hi) hkey
        rw [hj, if_pos hkey'] at htotal
        omega
      | succ j =>
        simp only [List.getElem?_cons_succ] at hi hj
        have hrest : total count key rest ≤ 1 := by omega
        rw [ih hrest hi hj]

/-- The counters of all runs together agree with the stored jobs. -/
structure System.Counted {World : Type} (backend : Backend World) (s : System World) : Prop where
  runs : ∀ run ∈ s.runs, run.Counted
  missing : ∀ key, backend.view s.world key = none → total Run.claims key s.runs = 0
  attempt : ∀ key v, backend.view s.world key = some v →
    v.record.attempt = total Run.claims key s.runs
  queued : ∀ key v, backend.view s.world key = some v → v.record.status = .queued →
    total Run.claims key s.runs = 0
  once : ∀ key, total Run.queuedClaims key s.runs ≤ 1

/-- Runs that never claimed never claimed from the queue. -/
theorem total_queuedClaims_eq_zero {key : JobKey} {runs : List Run} (hruns : ∀ run ∈ runs, run.Counted)
    (htotal : total Run.claims key runs = 0) : total Run.queuedClaims key runs = 0 := by
  induction runs with
  | nil => rfl
  | cons run rest ih =>
    rw [total_cons] at htotal ⊢
    have hrest := ih (fun r hr => hruns r (List.mem_cons_of_mem run hr)) (by omega)
    have hqueued := (hruns run List.mem_cons_self).queued
    by_cases hkey : run.key = key
    · rw [if_pos hkey] at htotal ⊢
      rw [if_pos (by omega)] at hqueued
      omega
    · rw [if_neg hkey] at htotal ⊢
      omega

/-- All claims are made by the runs that claimed from the queue. -/
theorem total_claims_le {key : JobKey} {runs : List Run} {maxAttempts : ℕ}
    (hruns : ∀ run ∈ runs, run.Counted)
    (hmax : ∀ run ∈ runs, run.key = key → run.executor.maxAttempts = maxAttempts) :
    total Run.claims key runs ≤ maxAttempts * total Run.queuedClaims key runs := by
  induction runs with
  | nil => simp
  | cons run rest ih =>
    have hrest := ih (fun r hr => hruns r (List.mem_cons_of_mem run hr))
      (fun r hr => hmax r (List.mem_cons_of_mem run hr))
    have hrun := hruns run List.mem_cons_self
    have hbounded := hrun.bounded
    have hqueued := hrun.queued
    simp only [total_cons, Nat.mul_add]
    split
    · next hkey =>
      rw [hmax run List.mem_cons_self hkey] at hbounded
      split at hqueued
      · omega
      · rw [hqueued, Nat.mul_one]
        omega
    · omega

namespace System

variable {World : Type} {backend : Backend World}

/-- No job has been claimed in a new system. -/
theorem counted_initial : Counted backend (initial backend) := by
  constructor
  · simp [initial]
  · simp [initial]
  · intro key v hv
    rw [initial, backend.view_empty] at hv
    cases hv
  · simp [initial]
  · simp [initial]

/-- A write that keeps the attempt of its job and does not queue it, by a step that leaves the
sums alone, keeps the counts. -/
theorem Counted.write {s s' : System World} (hs : Counted backend s) {key : JobKey} {v v' : JobView}
    (hv : backend.view s.world key = some v)
    (hview : backend.view s'.world = Function.update (backend.view s.world) key (some v'))
    (hruns' : ∀ run ∈ s'.runs, run.Counted)
    (hclaims : ∀ key, total Run.claims key s'.runs = total Run.claims key s.runs)
    (hqueuedClaims : ∀ key, total Run.queuedClaims key s'.runs = total Run.queuedClaims key s.runs)
    (hattempt : v'.record.attempt = v.record.attempt)
    (hqueued : v'.record.status = .queued → v.record.status = .queued) : Counted backend s' := by
  refine ⟨hruns', ?_, ?_, ?_, fun key => hqueuedClaims key ▸ hs.once key⟩
  · intro other hnone
    rw [hclaims]
    apply hs.missing other
    by_cases hother : other = key
    · rw [hview, hother, Function.update_self] at hnone
      cases hnone
    · rwa [hview, Function.update_of_ne hother] at hnone
  · intro other u hu
    rw [hclaims]
    by_cases hother : other = key
    · subst hother
      rw [hview, Function.update_self, Option.some.injEq] at hu
      rw [← hu, hattempt]
      exact hs.attempt other v hv
    · rw [hview, Function.update_of_ne hother] at hu
      exact hs.attempt other u hu
  · intro other u hu hstatus
    rw [hclaims]
    by_cases hother : other = key
    · subst hother
      rw [hview, Function.update_self, Option.some.injEq] at hu
      rw [← hu] at hstatus
      exact hs.queued other v hv (hqueued hstatus)
    · rw [hview, Function.update_of_ne hother] at hu
      exact hs.queued other u hu hstatus

/-- A successful claim is counted once in the run and once in the job. -/
theorem Counted.claim {s s' : System World} (hs : Counted backend s) {now : Instant}
    {before after : List Run} {run : Run} {attempt : ℕ} {payload : Document} {v : JobView}
    (hruns : s.runs = before ++ run :: after)
    (hruns' : s'.runs = before ++ run.claimed attempt payload :: after)
    (hcounted : (run.claimed attempt payload).Counted)
    (hv : backend.view s.world run.key = some v)
    (hview : backend.view s'.world =
      Function.update (backend.view s.world) run.key (some (v.markRunning now)))
    (hclaimable : JobView.claimable (attempt = 1) v.record = true) : Counted backend s' := by
  have hsum : ∀ (count : Run → ℕ) key, total count key s'.runs + (if run.key = key then count run else 0) =
      total count key s.runs + if run.key = key then count (run.claimed attempt payload) else 0 :=
    fun count key => total_step count key rfl hruns hruns'
  have hother : ∀ (count : Run → ℕ) {key}, key ≠ run.key →
      total count key s'.runs = total count key s.runs := by
    intro count key hne
    have hkey := hsum count key
    rwa [if_neg (Ne.symm hne), if_neg (Ne.symm hne)] at hkey
  have hown : ∀ count : Run → ℕ, total count run.key s'.runs + count run =
      total count run.key s.runs + count (run.claimed attempt payload) := by
    intro count
    have hkey := hsum count run.key
    rwa [if_pos rfl, if_pos rfl] at hkey
  have hclaims : total Run.claims run.key s'.runs = total Run.claims run.key s.runs + 1 := by
    have hkey := hown Run.claims
    simp only [Run.claimed] at hkey
    omega
  refine ⟨?_, ?_, ?_, ?_, ?_⟩
  · intro r hr
    rw [hruns'] at hr
    rcases List.mem_append.mp hr with hbefore | hr
    · exact hs.runs r (by simp [hruns, hbefore])
    · rcases List.mem_cons.mp hr with rfl | hafter
      · exact hcounted
      · exact hs.runs r (by simp [hruns, hafter])
  · intro key hnone
    by_cases hkey : key = run.key
    · rw [hview, hkey, Function.update_self] at hnone
      cases hnone
    · rw [hview, Function.update_of_ne hkey] at hnone
      rw [hother _ hkey]
      exact hs.missing key hnone
  · intro key u hu
    by_cases hkey : key = run.key
    · subst hkey
      rw [hview, Function.update_self, Option.some.injEq] at hu
      rw [← hu, hclaims, ← hs.attempt _ v hv]
      rfl
    · rw [hview, Function.update_of_ne hkey] at hu
      rw [hother _ hkey]
      exact hs.attempt key u hu
  · intro key u hu hstatus
    by_cases hkey : key = run.key
    · subst hkey
      rw [hview, Function.update_self, Option.some.injEq] at hu
      rw [← hu] at hstatus
      cases hstatus
    · rw [hview, Function.update_of_ne hkey] at hu
      rw [hother _ hkey]
      exact hs.queued key u hu hstatus
  · intro key
    by_cases hkey : key = run.key
    · subst hkey
      have honce := hs.once run.key
      have hqueued := hown Run.queuedClaims
      simp only [Run.claimed] at hqueued
      by_cases hfirst : attempt = 1
      · -- the first claim found the job queued, so no run has claimed it before
        have hstatus : v.record.status = .queued := by
          simpa [JobView.claimable, hfirst] using (Bool.and_eq_true_iff.mp hclaimable).1
        have hzero := total_queuedClaims_eq_zero hs.runs (hs.queued run.key v hv hstatus)
        rw [if_pos hfirst] at hqueued
        omega
      · rw [if_neg hfirst] at hqueued
        omega
    · rw [hother _ hkey]
      exact hs.once key

/-- A step of a run keeps the counts. -/
theorem Counted.run {s s' : System World} (hs : Counted backend s) {now : Instant} {event : RunEvent}
    {before after : List Run} {run run' : Run} {v v' : JobView}
    (hruns : s.runs = before ++ run :: after) (hruns' : s'.runs = before ++ run' :: after)
    (hv : backend.view s.world run.key = some v)
    (hview : backend.view s'.world = Function.update (backend.view s.world) run.key (some v'))
    (hmove : run.Move now event v v' run') : Counted backend s' := by
  have hcounted := (hs.runs run (by simp [hruns])).move hmove
  rcases hmove.claim_or_same with ⟨attempt, payload, -, hclaimable, rfl, rfl⟩ |
    ⟨hclaims, hqueuedClaims, hattempt, hqueued⟩
  · exact hs.claim hruns hruns' hcounted hv hview hclaimable
  · have hsame : ∀ count : Run → ℕ, count run' = count run → ∀ key,
        total count key s'.runs = total count key s.runs := by
      intro count hcount key
      rw [hruns, hruns', total_append, total_append, total_cons, total_cons, hmove.arguments.1, hcount]
    refine hs.write hv hview ?_ (hsame _ hclaims) (hsame _ hqueuedClaims) hattempt hqueued
    intro r hr
    rw [hruns'] at hr
    rcases List.mem_append.mp hr with hbefore | hr
    · exact hs.runs r (by simp [hruns, hbefore])
    · rcases List.mem_cons.mp hr with rfl | hafter
      · exact hcounted
      · exact hs.runs r (by simp [hruns, hafter])

/-- The status a cancellation writes is never the queued one. -/
theorem cancelStatus_ne_queued (current : JobStatus) : JobRecord.cancelStatus current ≠ .queued := by
  cases current <;> simp [JobRecord.cancelStatus]

/-- Every step of the system keeps the counts. -/
theorem Counted.move {s s' : System World} {label : Label} (hs : Counted backend s)
    (h : Move backend s label s') : Counted backend s' := by
  cases h with
  | run _ hruns _ hruns' hv hview hmove => exact hs.run hruns hruns' hv hview hmove
  | @deliver executor key haction hstored hruns' hview =>
    have hsame : ∀ (count : Run → ℕ), count (Run.fresh executor key) = 0 → ∀ other,
        total count other s'.runs = total count other s.runs := by
      intro count hcount other
      rw [hruns', total_append, total_cons, hcount]
      simp
    obtain ⟨v, hv⟩ := Option.isSome_iff_exists.mp hstored
    refine hs.write hv (hview.trans (view_unchanged hv)) ?_ (hsame _ rfl) (hsame _ rfl) rfl id
    intro r hr
    rw [hruns'] at hr
    rcases List.mem_append.mp hr with hold | hnew
    · exact hs.runs r hold
    · rw [List.mem_singleton.mp hnew]
      exact Run.counted_fresh executor key
  | @create key source payload idempotencyKey hnone hview hruns' =>
    refine ⟨by rw [hruns']; exact hs.runs, ?_, ?_, ?_, by rw [hruns']; exact hs.once⟩
    · intro other hmissing
      rw [hruns']
      by_cases hother : other = key
      · rw [hother]
        exact hs.missing key hnone
      · rw [hview, Function.update_of_ne hother] at hmissing
        exact hs.missing other hmissing
    · intro other u hu
      rw [hruns']
      by_cases hother : other = key
      · rw [hview, hother, Function.update_self, Option.some.injEq] at hu
        rw [hother, hs.missing key hnone, ← hu]
        rfl
      · rw [hview, Function.update_of_ne hother] at hu
        exact hs.attempt other u hu
    · intro other u hu hstatus
      rw [hruns']
      by_cases hother : other = key
      · rw [hother]
        exact hs.missing key hnone
      · rw [hview, Function.update_of_ne hother] at hu
        exact hs.queued other u hu hstatus
  | recordDispatch hv hview hruns' =>
    exact hs.write hv hview (by rw [hruns']; exact hs.runs) (fun _ => by rw [hruns'])
      (fun _ => by rw [hruns']) rfl id
  | failDispatch _ _ _ hv hview hruns' =>
    exact hs.write hv hview (by rw [hruns']; exact hs.runs) (fun _ => by rw [hruns'])
      (fun _ => by rw [hruns']) rfl (fun hqueued => nomatch hqueued)
  | @cancel key v haction hv hview hruns' =>
    refine hs.write hv hview (by rw [hruns']; exact hs.runs) (fun _ => by rw [hruns'])
      (fun _ => by rw [hruns']) ?_ ?_
    · unfold JobView.requestCancel
      split <;> rfl
    · unfold JobView.requestCancel
      split
      · exact id
      · exact fun hqueued => absurd hqueued (cancelStatus_ne_queued _)
  | @writeCancel index key current v haction hpending hv hview hruns' =>
    exact hs.write hv hview (by rw [hruns']; exact hs.runs) (fun _ => by rw [hruns'])
      (fun _ => by rw [hruns']) rfl fun hqueued => absurd hqueued (cancelStatus_ne_queued current)
  | quiet hview hruns' =>
    exact ⟨by rw [hruns']; exact hs.runs, by rw [hview, hruns']; exact hs.missing,
      by rw [hview, hruns']; exact hs.attempt, by rw [hview, hruns']; exact hs.queued,
      by rw [hruns']; exact hs.once⟩

/-- A new system is well formed. -/
theorem wellFormed_initial : WellFormed backend (initial backend) := by
  constructor <;> simp [initial]

/-- Every reachable system is well formed and counted. -/
theorem reachable_counted {products : List FindingSource} {schedule : List Label} {s : System World}
    (hrun : runSteps (step backend products) (initial backend) schedule = some s) :
    WellFormed backend s ∧ Counted backend s := by
  refine runSteps_invariant (fun s => WellFormed backend s ∧ Counted backend s) ?_
    ⟨wellFormed_initial, counted_initial⟩ hrun
  rintro s label s' ⟨hformed, hcounted⟩ hstep
  exact ⟨step_wellFormed hformed hstep, hcounted.move (step_move hformed hstep)⟩

/-- The runs of a job have the executors its messages were delivered to. -/
theorem reachable_executor {products : List FindingSource} {schedule : List Label} {s : System World}
    {key : JobKey} {admissible : JobExecutor → Prop}
    (hlabels : ∀ label ∈ schedule, ∀ executor, label.action = .deliver executor key →
      admissible executor)
    (hrun : runSteps (step backend products) (initial backend) schedule = some s) :
    ∀ run ∈ s.runs, run.key = key → admissible run.executor := by
  refine (runSteps_guarded_invariant (fun s => WellFormed backend s ∧
    ∀ run ∈ s.runs, run.key = key → admissible run.executor) ?_ ⟨wellFormed_initial, by simp [initial]⟩
    (GuardedAlong.of_labels hlabels _) hrun).2
  rintro s label s' ⟨hformed, hruns⟩ hlabel hstep
  refine ⟨step_wellFormed hformed hstep, ?_⟩
  cases step_move hformed hstep with
  | run _ hsplit _ hsplit' _ _ hmove =>
    intro other hother hkey
    rw [hsplit'] at hother
    rcases List.mem_append.mp hother with hbefore | hother
    · exact hruns other (by simp [hsplit, hbefore]) hkey
    · rcases List.mem_cons.mp hother with rfl | hafter
      · rw [hmove.arguments.2]
        rw [hmove.arguments.1] at hkey
        exact hruns _ (by simp [hsplit]) hkey
      · exact hruns other (by simp [hsplit, hafter]) hkey
  | deliver haction _ hruns' =>
    intro other hother hkey
    rw [hruns'] at hother
    rcases List.mem_append.mp hother with hold | hnew
    · exact hruns other hold hkey
    · rw [List.mem_singleton] at hnew
      subst hnew
      change _ = key at hkey
      subst hkey
      exact hlabel _ haction
  | create _ _ hruns' | recordDispatch _ _ hruns' | failDispatch _ _ _ _ _ hruns'
  | cancel _ _ _ hruns' | writeCancel _ _ _ _ hruns' | quiet _ hruns' =>
    rw [hruns']
    exact hruns

end System

/-- What excludes two executions of a job: its claims from the queue, its scans and its stored
attempt all belong to one run. -/
structure System.ClaimedOnce {World : Type} (backend : Backend World) (s : System World)
    (key : JobKey) (maxAttempts : ℕ) : Prop where
  claimer : ∀ (i j : ℕ) (run run' : Run), s.runs[i]? = some run → s.runs[j]? = some run' →
    run.key = key → run'.key = key → 0 < run.queuedClaims → 0 < run'.queuedClaims → i = j
  once : ∀ run ∈ s.runs, run.key = key → run.queuedClaims ≤ 1
  scanner : ∀ run ∈ s.runs, run.key = key → run.scans ≠ [] → run.queuedClaims = 1
  attempt : ∀ record, backend.get s.world key = some record →
    record.attempt = total Run.claims key s.runs
  bounded : ∀ record, backend.get s.world key = some record → record.attempt ≤ maxAttempts

/-- In every interleaving, at most one run of a job claims it from the queue, only that run
scans, and the stored attempt counts all claims and never exceeds the limit of the executors. -/
theorem claimed_by_one_run {World : Type} (backend : Backend World) (products : List FindingSource)
    {schedule : List Label} {s : System World} {key : JobKey} {maxAttempts : ℕ}
    (hrun : runSteps (System.step backend products) (System.initial backend) schedule = some s)
    (hsame : ∀ label ∈ schedule, ∀ executor, label.action = .deliver executor key →
      executor.maxAttempts = maxAttempts) :
    s.ClaimedOnce backend key maxAttempts := by
  obtain ⟨-, hcounted⟩ := System.reachable_counted hrun
  have honce := hcounted.once key
  have hattempt : ∀ record, backend.get s.world key = some record →
      record.attempt = total Run.claims key s.runs := by
    intro record hget
    rw [backend.get_eq] at hget
    obtain ⟨v, hv, rfl⟩ := Option.map_eq_some_iff.mp hget
    exact hcounted.attempt key v hv
  refine ⟨?_, ?_, ?_, hattempt, ?_⟩
  · intro i j run run' hi hj hkey hkey' hclaim hclaim'
    exact total_unique Run.queuedClaims honce hi hj hkey hkey' hclaim hclaim'
  · intro run hmem hkey
    have hle := le_total Run.queuedClaims hmem hkey
    omega
  · intro run hmem hkey hscans
    have hrunCounted := hcounted.runs run hmem
    have hlength := List.length_pos_iff.mpr hscans
    have hqueued := hrunCounted.queued
    rw [hrunCounted.scanned] at hlength
    rw [if_neg (by omega)] at hqueued
    exact hqueued
  · intro record hget
    have hle := total_claims_le hcounted.runs (System.reachable_executor hsame hrun)
    calc record.attempt = total Run.claims key s.runs := hattempt record hget
      _ ≤ maxAttempts * total Run.queuedClaims key s.runs := hle
      _ ≤ maxAttempts * 1 := Nat.mul_le_mul_left _ honce
      _ = maxAttempts := Nat.mul_one _

/-- A message delivered to two workers; the first claims the job, times out and claims again. -/
def deliveredTwice : List Label :=
  let m : Moment := ⟨0, "1"⟩
  let executor : JobExecutor := ⟨[.soc], [], 2, JobExecutor.twice⟩
  publishScan 0 "tenant-a" .soc (.obj []) m ++
    [⟨.deliver executor ⟨"tenant-a", "job_1"⟩, m⟩, ⟨.deliver executor ⟨"tenant-a", "job_1"⟩, m⟩] ++
    runLabels 0 m [.advance, .advance] ++ runLabels 1 m [.advance, .advance] ++
    runLabels 0 m [.advance, .scanSettles (.productError ⟨"ADAPTER_TIMEOUT", true, true, "slow"⟩),
      .advance, .advance, .advance, .advance, .advance] ++ runLabels 1 m [.advance]

set_option maxRecDepth 4000 in
/-- The theorem applies to such a delivery, which ends with the job at its second attempt. -/
theorem claimed_by_one_run_deliveredTwice :
    ∃ s, runSteps (System.step FindingDict.backend [.soc]) (System.initial FindingDict.backend)
        deliveredTwice = some s ∧
      s.ClaimedOnce FindingDict.backend ⟨"tenant-a", "job_1"⟩ 2 ∧
      (FindingDict.backend.get s.world ⟨"tenant-a", "job_1"⟩).map JobRecord.attempt = some 2 := by
  have hattempt : (runSteps (System.step FindingDict.backend [.soc])
      (System.initial FindingDict.backend) deliveredTwice).map (fun s =>
        (FindingDict.backend.get s.world ⟨"tenant-a", "job_1"⟩).map JobRecord.attempt) =
      some (some 2) := by decide
  obtain ⟨s, hrun, hs⟩ := Option.map_eq_some_iff.mp hattempt
  refine ⟨s, hrun, claimed_by_one_run FindingDict.backend [.soc] hrun ?_, hs⟩
  intro label hlabel executor haction
  simp only [deliveredTwice, publishScan, runLabels, List.map_cons, List.map_nil, List.cons_append,
    List.nil_append, List.mem_cons, List.not_mem_nil, or_false] at hlabel
  rcases hlabel with rfl | rfl | rfl | rfl | rfl | rfl | rfl | rfl | rfl | rfl | rfl | rfl | rfl |
    rfl | rfl | rfl | rfl <;> cases haction <;> rfl

end SharedIntegration
