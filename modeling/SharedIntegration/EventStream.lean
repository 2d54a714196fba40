import SharedIntegration.JobLog
import SharedIntegration.FindingDict
import SharedIntegration.Library.Transition

/-!
# The event stream of a job

The stream alternates between two reads of the repository: the events behind the last one it
sent, and the job, whose status tells it when to stop. Other processes may commit operations
before, between and after these reads. What is sent is always an initial segment of the log
behind the place where the stream was opened. A terminal status that is recorded after an
empty list of events, and read before the next list, ends the stream without its event.
-/

namespace SharedIntegration

open Transition AppendLog

/-- What the stream writes to its client. -/
inductive StreamChunk
  | message (event : JobEvent)
  | heartbeat

/-- The event a chunk carries. -/
def StreamChunk.event? : StreamChunk → Option JobEvent
  | .message event => some event
  | .heartbeat => none

/-- Positions of `event_stream`: before `list_events`, before `get` with the knowledge whether
there were events, and after its return. -/
inductive StreamPc
  | listing
  | looking (found : Bool)
  | closed
deriving DecidableEq

/-- One call of `event_stream` with its local variables and what it has yielded. -/
structure EventStream where
  key : JobKey
  sequence : ℕ
  idleTicks : ℕ
  chunks : List StreamChunk
  pc : StreamPc

namespace EventStream

/-- A new stream; a negative `Last-Event-ID` counts as zero. -/
def opened (key : JobKey) (lastEventId : ℤ) : EventStream :=
  ⟨key, lastEventId.toNat, 0, [], .listing⟩

/-- The events that were sent. -/
def sent (stream : EventStream) : List JobEvent := stream.chunks.filterMap StreamChunk.event?

/-- The loop over the listed events. -/
def send (stream : EventStream) (events : List JobEvent) : EventStream :=
  { stream with
    sequence := events.foldl (fun _ event => event.sequence) stream.sequence
    chunks := stream.chunks ++ events.map .message
    pc := .looking !events.isEmpty }

/-- A round without end: a heartbeat once in sixty rounds without events. -/
def rest (stream : EventStream) (idleTicks : ℕ) : EventStream :=
  if 60 ≤ idleTicks then
    { stream with idleTicks := 0, chunks := stream.chunks ++ [.heartbeat], pc := .listing }
  else { stream with idleTicks := idleTicks, pc := .listing }

/-- What follows `get`: the stream ends, or sleeps and lists again. -/
def look (stream : EventStream) (found : Bool) (job : Option JobRecord) : EventStream :=
  if job.all fun job => job.status.terminal && !found then { stream with pc := .closed }
  else stream.rest (if found then 0 else stream.idleTicks + 1)

@[simp] theorem sent_opened (key : JobKey) (lastEventId : ℤ) : (opened key lastEventId).sent = [] := rfl

@[simp] theorem sent_send (stream : EventStream) (events : List JobEvent) :
    (stream.send events).sent = stream.sent ++ events := by
  have hevents : (events.map StreamChunk.message).filterMap StreamChunk.event? = events := by
    induction events with
    | nil => rfl
    | cons event rest ih => simp [StreamChunk.event?, ih]
  rw [sent, send, List.filterMap_append, hevents]
  rfl

/-- A round that goes on sends no event and moves nothing but its counters. -/
theorem rest_eq (stream : EventStream) (idleTicks : ℕ) :
    (stream.rest idleTicks).sent = stream.sent ∧ (stream.rest idleTicks).key = stream.key ∧
      (stream.rest idleTicks).sequence = stream.sequence ∧ (stream.rest idleTicks).pc = .listing := by
  unfold rest
  split
  · simp [sent, StreamChunk.event?]
  · exact ⟨rfl, rfl, rfl, rfl⟩

/-- Looking at the job sends no event. -/
theorem look_eq (stream : EventStream) (found : Bool) (job : Option JobRecord) :
    (stream.look found job).sent = stream.sent ∧ (stream.look found job).key = stream.key ∧
      (stream.look found job).sequence = stream.sequence := by
  unfold look
  split
  · exact ⟨rfl, rfl, rfl⟩
  · obtain ⟨hsent, hkey, hsequence, -⟩ := stream.rest_eq (if found then 0 else stream.idleTicks + 1)
    exact ⟨hsent, hkey, hsequence⟩

/-- A stream that goes on lists next. -/
theorem pc_look (stream : EventStream) (found : Bool) (job : Option JobRecord) :
    (stream.look found job).pc = .listing ∨ (stream.look found job).pc = .closed := by
  unfold look
  split
  · exact .inr rfl
  · exact .inl (stream.rest_eq _).2.2.2

/-- A stream ends behind an empty list, when it has found the job finished or missing. -/
theorem closed_of_look {stream : EventStream} {found : Bool} {job : Option JobRecord}
    (h : (stream.look found job).pc = .closed) :
    ∀ record ∈ job, record.status.terminal = true ∧ found = false := by
  intro record hrecord
  rw [Option.mem_def] at hrecord
  subst hrecord
  unfold look at h
  split at h
  · next hstop => simpa using hstop
  · rw [(stream.rest_eq _).2.2.2] at h
    cases h

end EventStream

/-- A repository that a stream reads while others write to it. -/
structure Watch (Store : Type) where
  store : Store
  stream : EventStream

/-- Who takes a step: another process commits an operation, or the stream reads. -/
inductive WatchLabel
  | commit (operation : Commit) (moment : Moment)
  | list
  | look

namespace Watch

variable {Store : Type} (repository : JobRepository Store)

/-- One step of the stream or of another process. -/
def step (s : Watch Store) : WatchLabel → Option (Watch Store)
  | .commit operation m => some { s with store := repository.commit s.store m operation }
  | .list =>
    match s.stream.pc with
    | .listing =>
      let events := repository.listEvents s.store s.stream.key s.stream.sequence 1000
      some { s with stream := s.stream.send events }
    | _ => none
  | .look =>
    match s.stream.pc with
    | .looking found =>
      some { s with stream := s.stream.look found (repository.get s.store s.stream.key) }
    | _ => none

/-- The condition on a step: no terminal status of the job is recorded between an empty list of
events and the `get` behind it. -/
def Prompt (s : Watch Store) : WatchLabel → Prop
  | .commit operation _ => s.stream.pc = .looking false → operation.key = some s.stream.key →
      ∀ v ∈ repository.view s.store s.stream.key, ∀ status ∈ operation.records v,
        status.terminal = false
  | .list | .look => True

instance (s : Watch Store) : ∀ label, Decidable (Prompt repository s label)
  | .commit operation _ => inferInstanceAs (Decidable (s.stream.pc = .looking false →
      operation.key = some s.stream.key → ∀ v ∈ repository.view s.store s.stream.key,
        ∀ status ∈ operation.records v, status.terminal = false))
  | .list | .look => isTrue trivial

variable {repository}

/-- What has been sent is an initial segment of the log behind the place where the stream was
opened, and the stream remembers where that segment ends. -/
structure Following (repository : JobRepository Store) (key : JobKey) (start : ℕ)
    (log : List JobEvent) (s : Watch Store) : Prop where
  logged : repository.WellLogged s.store
  key_eq : s.stream.key = key
  delivered : ∃ v, repository.view s.store key = some v ∧ log <+: v.log ∧
    Delivered start s.stream.sent v.log
  cursor : s.stream.sequence = start + s.stream.sent.length

/-- Behind an empty list, every event that records a terminal status has been passed. -/
def CaughtUp (repository : JobRepository Store) (s : Watch Store) : Prop :=
  s.stream.pc = .looking false → ∀ v, repository.view s.store s.stream.key = some v →
    ∀ event ∈ v.log, ∀ status, event.status? = some status → status.terminal = true →
      event.sequence ≤ s.stream.sequence

/-- A list of events is what the log has behind the last one sent. -/
theorem listEvents_eq_drop {w : Store} {key : JobKey} {v : JobView} {cursor : ℕ}
    (hlogged : v.WellLogged) (hv : repository.view w key = some v) :
    repository.listEvents w key cursor 1000 = (v.log.drop cursor).take 1000 := by
  rw [repository.listEvents_eq cursor 1000 hv, hlogged.numbered.filter_lt]

/-- The last number of a delivered batch. -/
theorem foldl_sequence {events log : List JobEvent} {cursor : ℕ} (hlog : Numbered JobEvent.sequence log)
    (hevents : Delivered cursor events log) :
    events.foldl (fun _ event => event.sequence) cursor = cursor + events.length := by
  rcases List.eq_nil_or_concat events with rfl | ⟨front, last, rfl⟩
  · rfl
  · have hnumbers := hevents.numbers hlog
    rw [List.concat_eq_append] at hnumbers ⊢
    rw [List.foldl_concat, List.length_append, List.length_singleton]
    rw [List.map_append, List.length_append, List.length_singleton, ← List.range'_append_1] at hnumbers
    have hlast := (List.append_inj' hnumbers rfl).2
    simp only [List.map_cons, List.map_nil, List.range'_one, List.cons.injEq, and_true] at hlast
    omega

/-- A stream that lists sends what it is given. -/
theorem step_list {s s' : Watch Store} (h : s.step repository .list = some s') :
    s.stream.pc = .listing ∧ s' = { s with
      stream := s.stream.send (repository.listEvents s.store s.stream.key s.stream.sequence 1000) } := by
  unfold Watch.step at h
  dsimp only at h
  split at h
  · next hpc =>
    cases h
    exact ⟨hpc, rfl⟩
  · cases h

/-- A stream that looks goes on or ends. -/
theorem step_look {s s' : Watch Store} (h : s.step repository .look = some s') :
    ∃ found, s.stream.pc = .looking found ∧
      s' = { s with stream := s.stream.look found (repository.get s.store s.stream.key) } := by
  unfold Watch.step at h
  dsimp only at h
  split at h
  · next found hpc =>
    cases h
    exact ⟨found, hpc, rfl⟩
  · cases h

/-- Every step keeps the stream following the log. -/
theorem Following.step {key : JobKey} {start : ℕ} {log : List JobEvent} {s s' : Watch Store}
    {label : WatchLabel} (hs : Following repository key start log s)
    (h : s.step repository label = some s') : Following repository key start log s' := by
  obtain ⟨hlogged, rfl, ⟨v, hv, hlog, hdelivered⟩, hcursor⟩ := hs
  cases label with
  | commit operation m =>
    cases h
    obtain ⟨v', hv', hchange⟩ := JobRepository.commit_logged m operation hv
    have hgrow := hchange.log_prefix
    exact ⟨hlogged.commit m operation, rfl, ⟨v', hv', hlog.trans hgrow, hdelivered.grow hgrow⟩, hcursor⟩
  | list =>
    obtain ⟨-, rfl⟩ := step_list h
    have hwell := hlogged _ v hv
    have hbatch : Delivered (start + s.stream.sent.length)
        (repository.listEvents s.store s.stream.key s.stream.sequence 1000) v.log := by
      rw [listEvents_eq_drop hwell hv, hcursor]
      exact List.take_prefix 1000 _
    refine ⟨hlogged, rfl, ⟨v, hv, hlog, ?_⟩, ?_⟩
    · rw [EventStream.sent_send]
      exact hdelivered.read hbatch
    · rw [EventStream.sent_send, List.length_append, ← Nat.add_assoc, ← foldl_sequence hwell.numbered hbatch,
        ← hcursor]
      rfl
  | look =>
    obtain ⟨found, -, rfl⟩ := step_look h
    obtain ⟨hsent, hkey, hsequence⟩ := s.stream.look_eq found (repository.get s.store s.stream.key)
    exact ⟨hlogged, hkey, ⟨v, hv, hlog, by rw [hsent]; exact hdelivered⟩,
      by rw [hsent, hsequence]; exact hcursor⟩

/-- A prompt step keeps the stream caught up. -/
theorem CaughtUp.step {key : JobKey} {start : ℕ} {log : List JobEvent} {s s' : Watch Store}
    {label : WatchLabel} (hs : CaughtUp repository s) (hfollowing : Following repository key start log s)
    (hprompt : Prompt repository s label) (h : s.step repository label = some s') :
    CaughtUp repository s' := by
  obtain ⟨hlogged, rfl, ⟨v, hv, hlog, hdelivered⟩, hcursor⟩ := hfollowing
  cases label with
  | commit operation m =>
    cases h
    intro hpc v' hv' event hevent status hstatus hterminal
    obtain ⟨u, hu, hchange⟩ := JobRepository.commit_logged m operation hv
    rw [hu, Option.some.injEq] at hv'
    subst hv'
    have hold : event ∈ v.log → event.sequence ≤ s.stream.sequence := fun hmem =>
      hs hpc v hv event hmem status hstatus hterminal
    cases hchange with
    | quiet hsame => exact hold (hsame ▸ hevent)
    | worker last hconcat _ hlast =>
      rw [hconcat] at hevent
      rcases List.mem_append.mp hevent with hmem | hmem
      · exact hold hmem
      · rw [List.mem_singleton.mp hmem, hlast] at hstatus
        cases hstatus
    | status last hconcat _ hlast hrecorded =>
      rw [hconcat] at hevent
      rcases List.mem_append.mp hevent with hmem | hmem
      · exact hold hmem
      · -- the event would record a terminal status, which the condition excludes
        rw [List.mem_singleton.mp hmem, hlast] at hstatus
        split at hrecorded
        · next hkey =>
          have hnot := hprompt hpc hkey v hv _ hrecorded
          rw [Option.some.inj hstatus, hterminal] at hnot
          cases hnot
        · cases hrecorded
  | list =>
    obtain ⟨-, rfl⟩ := step_list h
    intro hpc v' hv' event hevent status hstatus hterminal
    change repository.view s.store s.stream.key = some v' at hv'
    rw [hv, Option.some.injEq] at hv'
    subst hv'
    have hwell := hlogged _ v hv
    have hnil : repository.listEvents s.store s.stream.key s.stream.sequence 1000 = [] := by
      simpa [EventStream.send] using hpc
    have hlength : v.log.length ≤ s.stream.sequence := by
      rw [listEvents_eq_drop hwell hv] at hnil
      exact Numbered.length_le_of_read_nil (by decide) hnil
    have hle := Relational.le_maxKey JobEvent.sequence hevent
    rw [hwell.numbered.maxKey_eq] at hle
    rw [hnil]
    exact hle.trans hlength
  | look =>
    obtain ⟨found, -, rfl⟩ := step_look h
    intro hpc
    rcases s.stream.pc_look found (repository.get s.store s.stream.key) with hnext | hnext
    · rw [hnext] at hpc
      cases hpc
    · rw [hnext] at hpc
      cases hpc

/-- A stream that is opened on a stored job follows its log. -/
theorem following_run {key : JobKey} {lastEventId : ℤ} {w : Store} {v : JobView} {s : Watch Store}
    {schedule : List WatchLabel} (hw : repository.WellLogged w) (hv : repository.view w key = some v)
    (hrun : runSteps (Watch.step repository) ⟨w, .opened key lastEventId⟩ schedule = some s) :
    Following repository key lastEventId.toNat v.log s := by
  refine runSteps_invariant (Following repository key lastEventId.toNat v.log)
    (fun t label t' ht hstep => ht.step hstep) ?_ hrun
  exact ⟨hw, rfl, ⟨v, hv, List.prefix_refl _, .nil _ _⟩, rfl⟩

/-- A stream that was prompt so far is caught up. -/
theorem caughtUp_run {key : JobKey} {lastEventId : ℤ} {w : Store} {v : JobView} {s : Watch Store}
    {schedule : List WatchLabel} (hw : repository.WellLogged w) (hv : repository.view w key = some v)
    (hguard : GuardedAlong (Watch.step repository) (Prompt repository) ⟨w, .opened key lastEventId⟩
      schedule)
    (hrun : runSteps (Watch.step repository) ⟨w, .opened key lastEventId⟩ schedule = some s) :
    CaughtUp repository s := by
  refine (runSteps_guarded_invariant (fun t => Following repository key lastEventId.toNat v.log t ∧
    CaughtUp repository t) ?_ ⟨⟨hw, rfl, ⟨v, hv, List.prefix_refl _, .nil _ _⟩, rfl⟩, ?_⟩ hguard hrun).2
  · rintro t label t' ⟨hfollowing, hcaught⟩ hprompt hstep
    exact ⟨hfollowing.step hstep, hcaught.step hfollowing hprompt hstep⟩
  · intro hpc
    cases hpc

/-- Of the events behind `start`, all up to every record of a terminal status have been sent. -/
def Complete (start : ℕ) (log sent : List JobEvent) : Prop :=
  ∀ last ∈ log, ∀ status, last.status? = some status → status.terminal = true →
    ∀ event ∈ log, start < event.sequence → event.sequence ≤ last.sequence → event ∈ sent

/-- A stream that ends while it is caught up is complete, and the log records the status that
ended it. -/
theorem Following.complete {key : JobKey} {start : ℕ} {log : List JobEvent} {s s' : Watch Store}
    {v : JobView} (hs : Following repository key start log s) (hcaught : CaughtUp repository s)
    (hv : repository.view s.store key = some v) (h : s.step repository .look = some s')
    (hclosed : s'.stream.pc = .closed) :
    v.record.status.terminal = true ∧ (∃ event ∈ v.log, event.status? = some v.record.status) ∧
      Complete start v.log s'.stream.sent := by
  obtain ⟨hlogged, rfl, ⟨u, hu, -, hdelivered⟩, hcursor⟩ := hs
  rw [hv, Option.some.injEq] at hu
  subst hu
  obtain ⟨found, hfound, rfl⟩ := step_look h
  have hget : repository.get s.store s.stream.key = some v.record := by
    rw [repository.get_eq, hv, Option.map_some]
  obtain ⟨hterminal, rfl⟩ := EventStream.closed_of_look hclosed v.record hget
  have hwell := hlogged _ v hv
  refine ⟨hterminal, hwell.recorded, ?_⟩
  intro last hlast status hstatus hterminal' event hevent hstart hend
  have hpassed := hcaught hfound v hv last hlast status hstatus hterminal'
  rw [(s.stream.look_eq _ _).1]
  exact hdelivered.mem hwell.numbered hevent hstart (by omega)

end Watch

/-- The stream of a job's events, opened behind `Last-Event-ID` on a job of any repository that
operations have filled, while any further operations are committed. It sends the events behind
that id in order and without gaps, a stream opened at any id it has sent continues it, and if no
terminal status is recorded between an empty list and the `get` behind it, a stream that ends
because the job is finished has sent every event up to the one that says so. -/
theorem event_stream_loses_nothing {Store : Type} (repository : JobRepository Store)
    (operations : List (Commit × Moment)) (key : JobKey) (lastEventId : ℤ) {s : Watch Store}
    {schedule : List WatchLabel}
    (hstored : (repository.view (repository.commitAll repository.empty operations) key).isSome)
    (hguard : GuardedAlong (Watch.step repository) (Watch.Prompt repository)
      ⟨repository.commitAll repository.empty operations, .opened key lastEventId⟩ schedule)
    (hrun : runSteps (Watch.step repository)
      ⟨repository.commitAll repository.empty operations, .opened key lastEventId⟩ schedule = some s) :
    ∃ v, repository.view s.store key = some v ∧ Numbered JobEvent.sequence v.log ∧
      Delivered lastEventId.toNat s.stream.sent v.log ∧
      s.stream.sent.map JobEvent.sequence =
        List.range' (lastEventId.toNat + 1) s.stream.sent.length ∧
      (∀ cut ≤ s.stream.sent.length, ∀ schedule' s',
        runSteps (Watch.step repository)
            ⟨s.store, .opened key ((lastEventId.toNat + cut : ℕ) : ℤ)⟩ schedule' = some s' →
          ∃ v', repository.view s'.store key = some v' ∧
            Delivered lastEventId.toNat (s.stream.sent.take cut ++ s'.stream.sent) v'.log) ∧
      ∀ s', s.step repository .look = some s' → s'.stream.pc = .closed →
        v.record.status.terminal = true ∧ (∃ event ∈ v.log, event.status? = some v.record.status) ∧
          Watch.Complete lastEventId.toNat v.log s'.stream.sent := by
  have hw := (JobRepository.wellLogged_empty repository).commitAll operations
  obtain ⟨v₀, hv₀⟩ := Option.isSome_iff_exists.mp hstored
  have hfollowing := Watch.following_run hw hv₀ hrun
  have hcaught := Watch.caughtUp_run hw hv₀ hguard hrun
  obtain ⟨v, hv, -, hdelivered⟩ := hfollowing.delivered
  have hwell := hfollowing.logged key v hv
  refine ⟨v, hv, hwell.numbered, hdelivered, hdelivered.numbers hwell.numbered, ?_, ?_⟩
  · intro cut hcut schedule' s' hresumed
    have hsecond := Watch.following_run hfollowing.logged hv hresumed
    obtain ⟨v', hv', hgrow, hdelivered'⟩ := hsecond.delivered
    refine ⟨v', hv', Delivered.read ?_ ?_⟩
    · exact (List.take_prefix cut _).trans (hdelivered.grow hgrow)
    · rw [List.length_take, Nat.min_eq_left hcut]
      exact hdelivered'
  · exact fun s' h hclosed => hfollowing.complete hcaught hv h hclosed

/-- A job that was created, with further operations. -/
def createdJob (operations : List (Commit × Moment)) : List (Commit × Moment) :=
  (.create "tenant-a" .soc (.obj []) none, ⟨0, "1"⟩) :: operations

/-- A stream from the first event on, of the job in the relational repository. -/
def watchedJob (operations : List (Commit × Moment)) : Watch Database :=
  ⟨FindingDict.backend.commitAll FindingDict.backend.empty (createdJob operations),
    .opened ⟨"tenant-a", "job_1"⟩ 0⟩

set_option maxRecDepth 4000 in
/-- The theorem applies to a stream of a cancelled job, which ends with all its events sent. -/
theorem event_stream_loses_nothing_cancelled :
    ∃ s s' v, runSteps (Watch.step FindingDict.backend.toJobRepository)
        (watchedJob [(.requestCancel ⟨"tenant-a", "job_1"⟩, ⟨1, "2"⟩)]) [.list, .look, .list] = some s ∧
      s.step FindingDict.backend.toJobRepository .look = some s' ∧
      FindingDict.backend.view s.store ⟨"tenant-a", "job_1"⟩ = some v ∧ s'.stream.pc = .closed ∧
      v.record.status.terminal = true ∧ Watch.Complete 0 v.log s'.stream.sent := by
  have hguard : GuardedAlong (Watch.step FindingDict.backend.toJobRepository)
      (Watch.Prompt FindingDict.backend.toJobRepository)
      (watchedJob [(.requestCancel ⟨"tenant-a", "job_1"⟩, ⟨1, "2"⟩)]) [.list, .look, .list] := by decide
  have hreach : ∃ s ∈ runSteps (Watch.step FindingDict.backend.toJobRepository)
      (watchedJob [(.requestCancel ⟨"tenant-a", "job_1"⟩, ⟨1, "2"⟩)]) [.list, .look, .list],
      ∃ s' ∈ s.step FindingDict.backend.toJobRepository .look, s'.stream.pc = .closed := by decide
  obtain ⟨s, hs, s', hs', hclosed⟩ := hreach
  obtain ⟨v, hv, -, -, -, -, hend⟩ := event_stream_loses_nothing FindingDict.backend.toJobRepository
    (createdJob [(.requestCancel ⟨"tenant-a", "job_1"⟩, ⟨1, "2"⟩)]) ⟨"tenant-a", "job_1"⟩ 0
    (by decide) hguard hs
  obtain ⟨hterminal, -, hcomplete⟩ := hend s' hs' hclosed
  exact ⟨s, s', v, hs, hs', hv, hclosed, hterminal, hcomplete⟩

set_option maxRecDepth 4000 in
/-- A stream has sent the only event of a queued job and listed nothing behind it. The job then
fails, and the stream ends without the event that says so. -/
theorem event_stream_loses_end :
    ∃ s ∈ runSteps (Watch.step FindingDict.backend.toJobRepository) (watchedJob [])
        [.list, .look, .list,
          .commit (.transition ⟨"tenant-a", "job_1"⟩ .failed none (some "DISPATCH_FAILED") none) ⟨1, "2"⟩,
          .look],
      s.stream.pc = .closed ∧ s.stream.sent.map JobEvent.sequence = [1] ∧
      (FindingDict.backend.listEvents s.store ⟨"tenant-a", "job_1"⟩ 0 1000).map
        (fun event => (event.sequence, event.status?)) = [(1, some .queued), (2, some .failed)] := by
  decide

end SharedIntegration
