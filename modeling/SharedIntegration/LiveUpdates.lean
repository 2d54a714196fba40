import SharedIntegration.FindingLifecycle
import SharedIntegration.RetainedFindings
import SharedIntegration.Library.Fanout
import SharedIntegration.Library.Transition

/-!
# Live updates of findings

Both registries keep a queue of at most 1000 items for each subscriber, and a list of queues for each tenant that
has subscribers. An add or a correlation of a tenant is stored first, and then published to the tenant's queues
that are not full. Events of all tenants may follow each other in any order.
-/

namespace SharedIntegration

open Relational Transition Fanout

/-- `FindingStreamItem`. -/
inductive FindingStreamItem
  | finding (finding : Finding)
  | correlation (correlation : Correlation)

/-- A call that stores something; only the relational registry has job ids. -/
inductive StoringCall
  | add (finding : Finding) (jobId : Option String)
  | addSync (finding : Finding)
  | addCorrelation (correlation : Correlation)

/-- A registry with subscribers: what a call of a tenant does to the store, and what it publishes then. -/
structure LiveRegistry (Store : Type) where
  perform : Store → Moment → String → StoringCall → Store × Option FindingStreamItem

namespace FindingLifecycle

/-- The finding that `_store_finding` returns: that of the row it has written. -/
def storedFinding (core : CoreLibrary) (text : TextLibrary) (db : Database) (tenantId : String) (finding : Finding) :
    Finding :=
  match findFingerprint db.findings tenantId (findingFingerprint core text finding) with
  | none => core.fromDict (core.toDict finding)
  | some row => core.fromDict (core.toDict (mergeFindings (row.finding core) finding))

/-- The finding that is returned is that of the row which is stored afterwards. -/
theorem finding_stored {core : CoreLibrary} {text : TextLibrary} {db db' : Database} {m : Moment} {tenantId : String}
    {finding : Finding} {jobId : Option String} (h : storeFinding core text db m tenantId finding jobId = some db') :
    (findFingerprint db'.findings tenantId (findingFingerprint core text finding)).map (FindingRow.finding core) =
      some (storedFinding core text db tenantId finding) := by
  unfold storedFinding
  rcases storeFinding_cases h with ⟨hmissing, hinsert⟩ | ⟨row, change, hchange, hfound, hfindings, hmerge⟩
  · rw [hmissing, findFingerprint, Table.find_insert hinsert, ← findFingerprint, hmissing, Option.none_or]
    simp [FindingRow.created, FindingRow.finding]
  · have hselected := (fingerprint_of_find hfound).2
    have hkept : ∀ old : FindingRow, decide ((change old).tenantId = tenantId ∧
        (change old).fingerprint = findingFingerprint core text finding) =
          decide (old.tenantId = tenantId ∧ old.fingerprint = findingFingerprint core text finding) := by
      intro old
      rcases hmerge with rfl | rfl
      · rfl
      · rfl
    rw [hfound, hfindings, findFingerprint, updateFingerprint, Table.find_update _ _ _ _ _ hkept, ← findFingerprint,
      hfound, Option.map_some, if_pos (by simpa using hselected), Option.map_some]
    rcases hmerge with rfl | rfl
    · rfl
    · rfl

/-- The relational registry; a call that raises stores nothing and publishes nothing. -/
def liveRegistry (core : CoreLibrary) (text : TextLibrary) : LiveRegistry Database where
  perform db m tenantId
    | .add finding jobId =>
      match storeFinding core text db m tenantId finding jobId with
      | some db' => (db', some (.finding (storedFinding core text db tenantId finding)))
      | none => (db, none)
    | .addSync finding => ((addForJob core text db m tenantId finding none).1, none)
    | .addCorrelation correlation =>
      match insertCorrelation db m tenantId correlation with
      | some db' => (db', some (.correlation correlation))
      | none => (db, none)

end FindingLifecycle

/-- The SQLite registry. -/
def SqliteRegistry.liveRegistry (core : CoreLibrary) (maxSize : ℕ) : LiveRegistry SqliteRegistry.State where
  perform db _ tenantId
    | .add finding _ => (storeFinding core maxSize db tenantId finding, some (.finding finding))
    | .addSync finding => (storeFinding core maxSize db tenantId finding, none)
    | .addCorrelation correlation => (addCorrelation core maxSize db tenantId correlation, some (.correlation correlation))

/-- `maxsize` of a subscriber's queue. -/
def queueSize : ℕ := 1000

namespace LiveRegistry

/-- A registry while it runs: its store and its subscribers. -/
structure State (Store : Type) where
  store : Store
  hub : Hub String FindingStreamItem

/-- What can happen to a registry. -/
inductive Event
  | subscribe (tenantId : String)
  | receive (index : ℕ)
  | close (index : ℕ)
  | call (tenantId : String) (m : Moment) (call : StoringCall)

variable {Store : Type}

/-- What one event does; only a live subscriber with an item in its queue receives, and only a live one closes. -/
def step (registry : LiveRegistry Store) (s : State Store) : Event → Option (State Store)
  | .subscribe tenantId => some { s with hub := s.hub.subscribe tenantId }
  | .receive index => (s.hub.consume index).map fun hub => { s with hub }
  | .close index => (s.hub.close index).map fun hub => { s with hub }
  | .call tenantId m call =>
    let (store, published) := registry.perform s.store m tenantId call
    some ⟨store, published.elim s.hub (s.hub.publish queueSize tenantId)⟩

/-- What an event tells the subscribers. -/
def signals (registry : LiveRegistry Store) (s : State Store) : Event → List (Signal String FindingStreamItem)
  | .subscribe tenantId => [.started tenantId]
  | .receive index => [.consumed index]
  | .close index => [.closed index]
  | .call tenantId m call => ((registry.perform s.store m tenantId call).2.map (.published tenantId)).toList

/-- After these signals, each subscriber has been given exactly what was published under its tenant while it was
live and its queue was not full, in that order, and a tenant without live subscribers has no entry. -/
structure Delivered (history : List (Signal String FindingStreamItem)) (hub : Hub String FindingStreamItem) : Prop where
  given : ∀ (index : ℕ) (subscriber : Subscriber String FindingStreamItem), hub.subscribers[index]? = some subscriber →
    ∃ before after, history = before ++ .started subscriber.topic :: after ∧ (started before).length = index ∧
      subscriber.mailbox = follow queueSize index subscriber.topic after ∧
      (subscriber.received ++ subscriber.queue).Sublist (publishedUnder subscriber.topic after)
  everyStart : hub.subscribers.map Subscriber.topic = started history
  cleared : ∀ tenantId, (∀ subscriber ∈ hub.subscribers, subscriber.topic = tenantId → subscriber.live = false) →
    hub.table tenantId = none

/-- Subscribers that are followed one by one have been given what they should. -/
theorem delivered_of_tracks {history : List (Signal String FindingStreamItem)} {hub : Hub String FindingStreamItem}
    (h : hub.Tracks queueSize history) : Delivered history hub where
  given index subscriber hsubscriber := by
    have hmailbox : (mailboxes queueSize history)[index]? = some subscriber.mailbox := by
      rw [← h.mailboxes, List.getElem?_map, hsubscriber, Option.map_some]
    obtain ⟨before, after, hsplit, hindex, hfollow⟩ := exists_start hmailbox
    have hgiven := (accepted_follow queueSize index subscriber.topic after).2
    have htopic : subscriber.mailbox.topic = subscriber.topic := rfl
    rw [htopic] at hfollow hsplit
    rw [← hfollow] at hgiven
    exact ⟨before, after, hsplit, hindex, hfollow, hgiven⟩
  everyStart := by
    rw [← topics_mailboxes queueSize history, ← h.mailboxes, List.map_map]
    rfl
  cleared tenantId := h.coherent.table_eq_none

/-- One event keeps every subscriber followed. -/
theorem tracks_step (registry : LiveRegistry Store) {history : List (Signal String FindingStreamItem)}
    {s s' : State Store} {event : Event} (h : s.hub.Tracks queueSize history) (hstep : registry.step s event = some s') :
    s'.hub.Tracks queueSize (history ++ registry.signals s event) := by
  cases event with
  | subscribe tenantId =>
    cases hstep
    exact h.subscribe tenantId
  | receive index =>
    obtain ⟨hub, hconsume, rfl⟩ := Option.map_eq_some_iff.mp hstep
    exact h.consume hconsume
  | close index =>
    obtain ⟨hub, hclose, rfl⟩ := Option.map_eq_some_iff.mp hstep
    exact h.close hclose
  | call tenantId m call =>
    cases hstep
    unfold signals
    dsimp only
    cases (registry.perform s.store m tenantId call).2 with
    | none =>
      rw [Option.map_none, Option.toList_none, List.append_nil]
      exact h
    | some item => exact h.publish tenantId item

/-- Whatever happens to a registry that starts without subscribers, they have been given what they should. -/
def Isolated (registry : LiveRegistry Store) : Prop :=
  ∀ (store : Store) (events : List Event) (s : State Store), runSteps registry.step ⟨store, .empty⟩ events = some s →
    Delivered (emitted registry.step registry.signals ⟨store, .empty⟩ events) s.hub

/-- This holds of every registry that publishes so. -/
theorem isolated (registry : LiveRegistry Store) : registry.Isolated := by
  intro store events s hrun
  refine delivered_of_tracks ?_
  have htracks := runSteps_history (fun history (s : State Store) => s.hub.Tracks queueSize history)
    (fun _ _ _ _ htracks hstep => tracks_step registry htracks hstep) (Hub.tracks_empty queueSize) hrun
  rw [List.nil_append] at htracks
  exact htracks

/-- What a registry publishes, told by its calls: an add that returns stores its finding and publishes what can be
found of it afterwards, a correlation that returns is stored and published, a synchronous add only stores, and a call
that raises publishes nothing. -/
structure Publishes (registry : LiveRegistry Store)
    (addForJob : Store → Moment → String → Finding → Option String → Store × CallResult)
    (addCorrelation : Store → Moment → String → Correlation → Store × CallResult)
    (found : Store → String → Finding → Option Finding) : Prop where
  added : ∀ db m tenantId finding jobId, (addForJob db m tenantId finding jobId).2 = .ok () →
    ∃ stored, found (addForJob db m tenantId finding jobId).1 tenantId finding = some stored ∧
      registry.perform db m tenantId (.add finding jobId) =
        ((addForJob db m tenantId finding jobId).1, some (.finding stored))
  addRaised : ∀ db m tenantId finding jobId, (addForJob db m tenantId finding jobId).2 ≠ .ok () →
    registry.perform db m tenantId (.add finding jobId) = (db, none)
  addedSync : ∀ db m tenantId finding, registry.perform db m tenantId (.addSync finding) =
    ((addForJob db m tenantId finding none).1, none)
  correlated : ∀ db m tenantId correlation, (addCorrelation db m tenantId correlation).2 = .ok () →
    registry.perform db m tenantId (.addCorrelation correlation) =
      ((addCorrelation db m tenantId correlation).1, some (.correlation correlation))
  correlationRaised : ∀ db m tenantId correlation, (addCorrelation db m tenantId correlation).2 ≠ .ok () →
    registry.perform db m tenantId (.addCorrelation correlation) = (db, none)

end LiveRegistry

/-- What the relational registry publishes: the finding of the row that is stored now, or the correlation. -/
theorem FindingLifecycle.liveRegistry_publishes (core : CoreLibrary) (text : TextLibrary) :
    (liveRegistry core text).Publishes (addForJob core text) addCorrelation fun db tenantId finding =>
      (findFingerprint db.findings tenantId (findingFingerprint core text finding)).map (FindingRow.finding core) where
  added db m tenantId finding jobId hreturned := by
    unfold addForJob at hreturned ⊢
    cases hstore : storeFinding core text db m tenantId finding jobId with
    | none =>
      rw [hstore] at hreturned
      cases hreturned
    | some db' =>
      refine ⟨storedFinding core text db tenantId finding, finding_stored hstore, ?_⟩
      simp only [liveRegistry, hstore]
  addRaised db m tenantId finding jobId hraised := by
    unfold addForJob at hraised
    cases hstore : storeFinding core text db m tenantId finding jobId with
    | none => simp only [liveRegistry, hstore]
    | some db' =>
      rw [hstore] at hraised
      exact absurd rfl hraised
  addedSync _ _ _ _ := rfl
  correlated db m tenantId correlation hreturned := by
    unfold addCorrelation at hreturned ⊢
    cases hinsert : insertCorrelation db m tenantId correlation with
    | none =>
      rw [hinsert] at hreturned
      cases hreturned
    | some db' => simp only [liveRegistry, hinsert]
  correlationRaised db m tenantId correlation hraised := by
    unfold addCorrelation at hraised
    cases hinsert : insertCorrelation db m tenantId correlation with
    | none => simp only [liveRegistry, hinsert]
    | some db' =>
      rw [hinsert] at hraised
      exact absurd rfl hraised

/-- What the SQLite registry publishes: the finding or the correlation that it was given. -/
theorem SqliteRegistry.liveRegistry_publishes (core : CoreLibrary) (maxSize : ℕ) :
    (liveRegistry core maxSize).Publishes
      (fun db _ tenantId finding _ => (storeFinding core maxSize db tenantId finding, .ok ()))
      (fun db _ tenantId correlation => (addCorrelation core maxSize db tenantId correlation, .ok ()))
      fun _ _ finding => some finding where
  added _ _ _ finding _ _ := ⟨finding, rfl, rfl⟩
  addRaised _ _ _ _ _ hraised := absurd rfl hraised
  addedSync _ _ _ _ := rfl
  correlated _ _ _ _ _ := rfl
  correlationRaised _ _ _ _ hraised := absurd rfl hraised

/-- Live updates are isolated per tenant, and dropped only at a full queue, in both registries; what they publish is
what their calls have stored. -/
theorem live_updates (core : CoreLibrary) (text : TextLibrary) (maxSize : ℕ) :
    ((FindingLifecycle.liveRegistry core text).Isolated ∧ (SqliteRegistry.liveRegistry core maxSize).Isolated) ∧
    (FindingLifecycle.liveRegistry core text).Publishes (FindingLifecycle.addForJob core text)
      FindingLifecycle.addCorrelation (fun db tenantId finding =>
        (FindingLifecycle.findFingerprint db.findings tenantId (findingFingerprint core text finding)).map
          (FindingRow.finding core)) ∧
    (SqliteRegistry.liveRegistry core maxSize).Publishes
      (fun db _ tenantId finding _ => (SqliteRegistry.storeFinding core maxSize db tenantId finding, .ok ()))
      (fun db _ tenantId correlation => (SqliteRegistry.addCorrelation core maxSize db tenantId correlation, .ok ()))
      fun _ _ finding => some finding :=
  ⟨⟨LiveRegistry.isolated _, LiveRegistry.isolated _⟩, FindingLifecycle.liveRegistry_publishes core text,
    SqliteRegistry.liveRegistry_publishes core maxSize⟩

/-- Subscribers of two tenants; one of them closes between two adds of its tenant. -/
def twoTenants : List LiveRegistry.Event :=
  let add (id : String) : StoringCall := .add (SqliteRegistry.datedFinding id "title" none) none
  [.subscribe "tenant-a", .subscribe "tenant-b", .subscribe "tenant-a", .call "tenant-a" ⟨0, "u1"⟩ (add "f1"),
    .call "tenant-b" ⟨1, "u2"⟩ (.addCorrelation ⟨"rule", ["f1"], .high, "pair"⟩), .receive 0, .close 0,
    .call "tenant-a" ⟨2, "u3"⟩ (add "f2"), .receive 2, .close 2]

/-- What can be counted of a subscriber. -/
def counted (subscriber : Subscriber String FindingStreamItem) : String × Bool × ℕ × ℕ :=
  (subscriber.topic, subscriber.live, subscriber.received.length, subscriber.queue.length)

/-- The theorem applies to them: the first subscriber misses the second add, the other of its tenant does not, and
the tenant has no entry in the end. -/
theorem live_updates_twoTenants : ∃ s, runSteps (SqliteRegistry.liveRegistry FindingDict.core 10).step
      ⟨.empty, .empty⟩ twoTenants = some s ∧
    s.hub.subscribers.map counted =
      [("tenant-a", false, 1, 0), ("tenant-b", true, 0, 1), ("tenant-a", false, 1, 1)] ∧
    s.hub.table "tenant-a" = none ∧ s.hub.table "tenant-b" ≠ none := by
  have hcounted : (runSteps (SqliteRegistry.liveRegistry FindingDict.core 10).step ⟨.empty, .empty⟩ twoTenants).map
      (fun s => (s.hub.subscribers.map counted, s.hub.table "tenant-b")) =
    some ([("tenant-a", false, 1, 0), ("tenant-b", true, 0, 1), ("tenant-a", false, 1, 1)], some 1) := by
    decide +kernel
  obtain ⟨s, hrun, heq⟩ := Option.map_eq_some_iff.mp hcounted
  obtain ⟨hcounts, hentry⟩ := Prod.mk.inj heq
  have hdelivered := (live_updates FindingDict.core ⟨id, id, id, fun _ => ""⟩ 10).1.2 .empty twoTenants s hrun
  refine ⟨s, hrun, hcounts, hdelivered.cleared "tenant-a" fun subscriber hsubscriber htopic => ?_, ?_⟩
  · have hmem : counted subscriber ∈ s.hub.subscribers.map counted := List.mem_map_of_mem hsubscriber
    rw [hcounts] at hmem
    have hclosed : ∀ count ∈ [("tenant-a", false, 1, 0), ("tenant-b", true, 0, 1), ("tenant-a", false, 1, 1)],
        count.1 = "tenant-a" → count.2.1 = false := by decide
    exact hclosed (counted subscriber) hmem htopic
  · rw [hentry]
    exact Option.some_ne_none 1

end SharedIntegration
