import SharedIntegration.Library.Transition
import Mathlib.Data.List.Induction
import Mathlib.Data.List.Nodup
import Mathlib.Logic.Function.Basic

/-!
# Publishing to bounded queues

Each topic has a list of its subscribers, which they share by reference. The list is made for the first of them,
and its entry in the table is taken away by the last. Whatever the subscribers of all topics do, each of them is a
mailbox of its own: it gets what is published under its topic as long as it is subscribed and not full.
-/

namespace Fanout

variable {Topic Item : Type*}

/-- A subscriber: its topic, the list that it shares, what it has not read and what it has. -/
structure Subscriber (Topic Item : Type*) where
  topic : Topic
  list : ℕ
  queue : List Item
  received : List Item
  live : Bool

/-- All lists that were ever made, the list of each topic, and all subscribers, in the order of their start. -/
structure Hub (Topic Item : Type*) where
  lists : List (List ℕ)
  table : Topic → Option ℕ
  subscribers : List (Subscriber Topic Item)

/-- What happens to subscribers. -/
inductive Signal (Topic Item : Type*)
  | started (topic : Topic)
  | published (topic : Topic) (item : Item)
  | consumed (index : ℕ)
  | closed (index : ℕ)

/-- A subscriber on its own: what it was given so far, and how much of that it has read. -/
structure Mailbox (Topic Item : Type*) where
  topic : Topic
  live : Bool
  accepted : List Item
  consumed : ℕ

/-- An item is put into a queue that is not full. -/
def Subscriber.offer (capacity : ℕ) (item : Item) (subscriber : Subscriber Topic Item) : Subscriber Topic Item :=
  if subscriber.queue.length < capacity then { subscriber with queue := subscriber.queue ++ [item] } else subscriber

/-- What a subscriber is on its own. -/
def Subscriber.mailbox (subscriber : Subscriber Topic Item) : Mailbox Topic Item :=
  ⟨subscriber.topic, subscriber.live, subscriber.received ++ subscriber.queue, subscriber.received.length⟩

/-- What a subscriber has to do with the lists. -/
def Subscriber.place (subscriber : Subscriber Topic Item) : Topic × ℕ × Bool :=
  (subscriber.topic, subscriber.list, subscriber.live)

namespace Mailbox

/-- What a signal does to the mailbox with an index. -/
def hear [DecidableEq Topic] (capacity index : ℕ) (mailbox : Mailbox Topic Item) : Signal Topic Item → Mailbox Topic Item
  | .started _ => mailbox
  | .published topic item =>
    if mailbox.live = true ∧ mailbox.topic = topic ∧ mailbox.accepted.length - mailbox.consumed < capacity then
      { mailbox with accepted := mailbox.accepted ++ [item] }
    else mailbox
  | .consumed other => if other = index then { mailbox with consumed := mailbox.consumed + 1 } else mailbox
  | .closed other => if other = index then { mailbox with live := false } else mailbox

end Mailbox

/-- What a signal does to all mailboxes; a start makes a new one. -/
def signal [DecidableEq Topic] (capacity : ℕ) (mailboxes : List (Mailbox Topic Item)) (signal : Signal Topic Item) :
    List (Mailbox Topic Item) :=
  mailboxes.mapIdx (fun index mailbox => mailbox.hear capacity index signal) ++
    match signal with
    | .started topic => [⟨topic, true, [], 0⟩]
    | .published _ _ | .consumed _ | .closed _ => []

/-- The mailboxes after some signals. -/
def mailboxes [DecidableEq Topic] (capacity : ℕ) (history : List (Signal Topic Item)) : List (Mailbox Topic Item) :=
  history.foldl (signal capacity) []

/-- The items that were published under a topic. -/
def publishedUnder [DecidableEq Topic] (topic : Topic) (history : List (Signal Topic Item)) : List Item :=
  history.filterMap fun
    | .published other item => if other = topic then some item else none
    | .started _ | .consumed _ | .closed _ => none

/-- The topics of the subscribers that were started. -/
def started (history : List (Signal Topic Item)) : List Topic :=
  history.filterMap fun
    | .started topic => some topic
    | .published _ _ | .consumed _ | .closed _ => none

namespace Hub

/-- A hub without subscribers. -/
def empty : Hub Topic Item := ⟨[], fun _ => none, []⟩

/-- A subscriber of a topic starts; it makes the list of the topic if there is none. -/
def subscribe [DecidableEq Topic] (hub : Hub Topic Item) (topic : Topic) : Hub Topic Item :=
  match hub.table topic with
  | some list =>
    { hub with
      lists := hub.lists.modify list (· ++ [hub.subscribers.length])
      subscribers := hub.subscribers ++ [⟨topic, list, [], [], true⟩] }
  | none =>
    { lists := hub.lists ++ [[hub.subscribers.length]]
      table := Function.update hub.table topic (some hub.lists.length)
      subscribers := hub.subscribers ++ [⟨topic, hub.lists.length, [], [], true⟩] }

/-- An item is offered to the subscribers in the list of a topic, one after another. -/
def publish (capacity : ℕ) (hub : Hub Topic Item) (topic : Topic) (item : Item) : Hub Topic Item :=
  match hub.table topic with
  | some list =>
    { hub with
      subscribers := (hub.lists.getD list []).foldl
        (fun subscribers index => subscribers.modify index (.offer capacity item)) hub.subscribers }
  | none => hub

/-- A subscriber reads the first item of its queue. -/
def consume (hub : Hub Topic Item) (index : ℕ) : Option (Hub Topic Item) := do
  let subscriber ← hub.subscribers[index]?
  match subscriber.live, subscriber.queue with
  | true, item :: rest =>
    some { hub with
      subscribers := hub.subscribers.set index
        { subscriber with queue := rest, received := subscriber.received ++ [item] } }
  | _, _ => none

/-- A subscriber leaves its list, and takes the entry of its topic away if the list is empty then. -/
def close [DecidableEq Topic] (hub : Hub Topic Item) (index : ℕ) : Option (Hub Topic Item) := do
  let subscriber ← hub.subscribers[index]?
  if subscriber.live then
    let left := (hub.lists.getD subscriber.list []).erase index
    some
      { lists := hub.lists.set subscriber.list left
        table := if left = [] then Function.update hub.table subscriber.topic none else hub.table
        subscribers := hub.subscribers.set index { subscriber with live := false } }
  else none

/-- The subscriber with an index is live and of a topic. -/
def LiveAt (subscribers : List (Subscriber Topic Item)) (topic : Topic) (index : ℕ) : Prop :=
  ∃ subscriber, subscribers[index]? = some subscriber ∧ subscriber.live = true ∧ subscriber.topic = topic

/-- A topic with live subscribers has a list of its own, which holds exactly them. -/
structure Coherent (hub : Hub Topic Item) : Prop where
  held : ∀ (index : ℕ) (subscriber : Subscriber Topic Item), hub.subscribers[index]? = some subscriber →
    subscriber.live = true → hub.table subscriber.topic = some subscriber.list
  listed : ∀ topic list, hub.table topic = some list → ∃ indices, hub.lists[list]? = some indices ∧
    indices ≠ [] ∧ indices.Nodup ∧ ∀ index, index ∈ indices ↔ LiveAt hub.subscribers topic index
  apart : ∀ topic other list, hub.table topic = some list → hub.table other = some list → topic = other

/-- A hub without subscribers has no lists. -/
theorem coherent_empty : (empty : Hub Topic Item).Coherent where
  held index subscriber hsubscriber := by
    rw [empty, List.getElem?_nil] at hsubscriber
    cases hsubscriber
  listed topic list hlist := by
    rw [empty] at hlist
    cases hlist
  apart topic other list hlist := by
    rw [empty] at hlist
    cases hlist

/-- A topic without live subscribers has no entry. -/
theorem Coherent.table_eq_none {hub : Hub Topic Item} (h : hub.Coherent) {topic : Topic}
    (hclosed : ∀ subscriber ∈ hub.subscribers, subscriber.topic = topic → subscriber.live = false) :
    hub.table topic = none := by
  cases htable : hub.table topic with
  | none => rfl
  | some list =>
    obtain ⟨indices, -, hne, -, hmem⟩ := h.listed topic list htable
    obtain ⟨index, hindex⟩ := List.exists_mem_of_ne_nil indices hne
    obtain ⟨subscriber, hsubscriber, hlive, htopic⟩ := (hmem index).mp hindex
    rw [hclosed subscriber (List.mem_of_getElem? hsubscriber) htopic] at hlive
    cases hlive

/-- Subscribers that stay in their places keep the hub coherent. -/
theorem Coherent.of_places {hub : Hub Topic Item} (h : hub.Coherent) {subscribers : List (Subscriber Topic Item)}
    (hplaces : subscribers.map Subscriber.place = hub.subscribers.map Subscriber.place) :
    Coherent { hub with subscribers } := by
  have hsame : ∀ {before after : List (Subscriber Topic Item)},
      before.map Subscriber.place = after.map Subscriber.place → ∀ {index : ℕ} {subscriber}, before[index]? = some subscriber →
      ∃ other, after[index]? = some other ∧ other.place = subscriber.place := by
    intro before after hmap index subscriber hsubscriber
    have hat := congrArg (·[index]?) hmap
    simp only [List.getElem?_map, hsubscriber, Option.map_some] at hat
    obtain ⟨other, hother, hplace⟩ := Option.map_eq_some_iff.mp hat.symm
    exact ⟨other, hother, hplace⟩
  refine ⟨fun index subscriber hsubscriber hlive => ?_, fun topic list hlist => ?_, h.apart⟩
  · obtain ⟨other, hother, hplace⟩ := hsame hplaces hsubscriber
    simp only [Subscriber.place, Prod.mk.injEq] at hplace
    have hheld := h.held index other hother (hplace.2.2.trans hlive)
    rw [hplace.1, hplace.2.1] at hheld
    exact hheld
  · obtain ⟨indices, hindices, hne, hnodup, hmem⟩ := h.listed topic list hlist
    refine ⟨indices, hindices, hne, hnodup, fun index => (hmem index).trans ?_⟩
    constructor
    · rintro ⟨subscriber, hsubscriber, hlive, htopic⟩
      obtain ⟨other, hother, hplace⟩ := hsame hplaces.symm hsubscriber
      simp only [Subscriber.place, Prod.mk.injEq] at hplace
      exact ⟨other, hother, hplace.2.2.trans hlive, hplace.1.trans htopic⟩
    · rintro ⟨subscriber, hsubscriber, hlive, htopic⟩
      obtain ⟨other, hother, hplace⟩ := hsame hplaces hsubscriber
      simp only [Subscriber.place, Prod.mk.injEq] at hplace
      exact ⟨other, hother, hplace.2.2.trans hlive, hplace.1.trans htopic⟩

/-- An offer keeps a subscriber in its place. -/
theorem place_offer (capacity : ℕ) (item : Item) (subscriber : Subscriber Topic Item) :
    (subscriber.offer capacity item).place = subscriber.place := by
  unfold Subscriber.offer
  split
  · rfl
  · rfl

/-- Offers to different subscribers reach each of them once, and no other. -/
theorem getElem?_foldl_modify {Value : Type*} (change : Value → Value) {indices : List ℕ} (h : indices.Nodup)
    (values : List Value) (index : ℕ) :
    (indices.foldl (fun values other => values.modify other change) values)[index]? =
      if index ∈ indices then values[index]?.map change else values[index]? := by
  induction indices generalizing values with
  | nil => simp
  | cons first rest ih =>
    obtain ⟨hfirst, hrest⟩ := List.nodup_cons.mp h
    rw [List.foldl_cons, ih hrest, List.getElem?_modify]
    by_cases hsame : first = index
    · subst hsame
      simp [hfirst]
    · have hother : index ≠ first := fun heq => hsame heq.symm
      simp [hsame, hother]

/-- A publication keeps the hub coherent. -/
theorem Coherent.publish {hub : Hub Topic Item} (h : hub.Coherent) (capacity : ℕ) (topic : Topic) (item : Item) :
    (hub.publish capacity topic item).Coherent := by
  unfold Hub.publish
  cases hlist : hub.table topic with
  | none => exact h
  | some list =>
    obtain ⟨indices, hindices, -, hnodup, -⟩ := h.listed topic list hlist
    have hgetD : hub.lists.getD list [] = indices := by
      rw [List.getD_eq_getElem?_getD, hindices, Option.getD_some]
    dsimp only
    rw [hgetD]
    refine h.of_places (List.ext_getElem? fun index => ?_)
    rw [List.getElem?_map, List.getElem?_map, getElem?_foldl_modify _ hnodup]
    split
    · cases hub.subscribers[index]? with
      | none => rfl
      | some subscriber => exact congrArg some (place_offer capacity item subscriber)
    · rfl

/-- A reading subscriber keeps the hub coherent. -/
theorem Coherent.consume {hub hub' : Hub Topic Item} (h : hub.Coherent) {index : ℕ}
    (hconsume : hub.consume index = some hub') : hub'.Coherent := by
  obtain ⟨subscriber, hsubscriber, hrest⟩ := Option.bind_eq_some_iff.mp hconsume
  split at hrest
  · cases hrest
    refine h.of_places (List.ext_getElem? fun other => ?_)
    rw [List.getElem?_map, List.getElem?_map, List.getElem?_set]
    split
    · next hsame =>
      subst hsame
      rw [hsubscriber]
      split
      · rfl
      · next hlong => exact absurd (List.getElem?_eq_some_iff.mp hsubscriber).1 hlong
    · rfl
  · cases hrest

/-- A new subscriber comes after all others. -/
theorem getElem?_concat_eq_some {subscribers : List (Subscriber Topic Item)} {new found : Subscriber Topic Item}
    {index : ℕ} : (subscribers ++ [new])[index]? = some found ↔
      subscribers[index]? = some found ∨ index = subscribers.length ∧ new = found := by
  rw [List.getElem?_append]
  split
  · next hshort =>
    refine (or_iff_left ?_).symm
    rintro ⟨hindex, -⟩
    omega
  · next hlong =>
    rw [List.getElem?_eq_none (Nat.le_of_not_lt hlong), List.getElem?_singleton]
    constructor
    · intro hfound
      split at hfound
      · exact .inr ⟨by omega, Option.some.inj hfound⟩
      · cases hfound
    · rintro (hnone | ⟨rfl, rfl⟩)
      · cases hnone
      · rw [Nat.sub_self, if_pos rfl]

/-- The live subscribers of a topic, with a new one. -/
theorem liveAt_concat {subscribers : List (Subscriber Topic Item)} {new : Subscriber Topic Item} {topic : Topic}
    {index : ℕ} : LiveAt (subscribers ++ [new]) topic index ↔
      LiveAt subscribers topic index ∨ index = subscribers.length ∧ new.live = true ∧ new.topic = topic := by
  constructor
  · rintro ⟨found, hfound, hlive, htopic⟩
    rcases getElem?_concat_eq_some.mp hfound with hold | ⟨hindex, rfl⟩
    · exact .inl ⟨found, hold, hlive, htopic⟩
    · exact .inr ⟨hindex, hlive, htopic⟩
  · rintro (⟨found, hfound, hlive, htopic⟩ | ⟨hindex, hlive, htopic⟩)
    · exact ⟨found, getElem?_concat_eq_some.mpr (.inl hfound), hlive, htopic⟩
    · exact ⟨new, getElem?_concat_eq_some.mpr (.inr ⟨hindex, rfl⟩), hlive, htopic⟩

/-- The live subscribers of a topic, without one that leaves. -/
theorem liveAt_close {subscribers : List (Subscriber Topic Item)} {subscriber : Subscriber Topic Item} {index : ℕ}
    (hsubscriber : subscribers[index]? = some subscriber) {topic : Topic} {other : ℕ} :
    LiveAt (subscribers.set index { subscriber with live := false }) topic other ↔
      other ≠ index ∧ LiveAt subscribers topic other := by
  unfold LiveAt
  rw [List.getElem?_set]
  split
  · next hsame =>
    rw [if_pos (List.getElem?_eq_some_iff.mp hsubscriber).1]
    refine iff_of_false ?_ fun hne => hne.1 hsame.symm
    rintro ⟨found, hfound, hlive, -⟩
    rw [← Option.some.inj hfound] at hlive
    cases hlive
  · next hother => exact (and_iff_right fun heq => hother heq.symm).symm

variable [DecidableEq Topic]

/-- A subscriber that joins a list keeps the hub coherent. -/
theorem Coherent.join {hub : Hub Topic Item} (h : hub.Coherent) {topic : Topic} {list : ℕ}
    (hlist : hub.table topic = some list) : Coherent
      { hub with
        lists := hub.lists.modify list (· ++ [hub.subscribers.length])
        subscribers := hub.subscribers ++ [⟨topic, list, [], [], true⟩] } := by
  obtain ⟨indices, hindices, -, hnodup, hmem⟩ := h.listed topic list hlist
  have hfresh : hub.subscribers.length ∉ indices := by
    intro hin
    obtain ⟨subscriber, hsubscriber, -⟩ := (hmem _).mp hin
    exact absurd (List.getElem?_eq_some_iff.mp hsubscriber).1 (Nat.lt_irrefl _)
  refine ⟨fun index subscriber hsubscriber hlive => ?_, fun other otherList hother => ?_, h.apart⟩
  · rcases getElem?_concat_eq_some.mp hsubscriber with hold | ⟨-, rfl⟩
    · exact h.held index subscriber hold hlive
    · exact hlist
  · change hub.table other = some otherList at hother
    obtain ⟨others, hothers, hotherNe, hotherNodup, hotherMem⟩ := h.listed other otherList hother
    by_cases hsame : other = topic
    · subst hsame
      have hlists : otherList = list := Option.some.inj (hother.symm.trans hlist)
      subst hlists
      refine ⟨indices ++ [hub.subscribers.length], ?_, by simp, ?_, fun index => ?_⟩
      · change (hub.lists.modify otherList (· ++ [hub.subscribers.length]))[otherList]? = _
        rw [List.getElem?_modify_eq, hindices]
        rfl
      · rw [← List.concat_eq_append]
        exact List.Nodup.concat hfresh hnodup
      · rw [List.mem_append, List.mem_singleton, hmem, liveAt_concat]
        simp
    · have hapart : list ≠ otherList := fun heq => hsame (h.apart other topic list (heq ▸ hother) hlist)
      refine ⟨others, ?_, hotherNe, hotherNodup, fun index => ?_⟩
      · change (hub.lists.modify list (· ++ [hub.subscribers.length]))[otherList]? = _
        rw [List.getElem?_modify_ne _ _ hapart, hothers]
      · rw [hotherMem, liveAt_concat]
        exact (or_iff_left fun hnew => hsame hnew.2.2.symm).symm

/-- A first subscriber that makes a list keeps the hub coherent. -/
theorem Coherent.found {hub : Hub Topic Item} (h : hub.Coherent) {topic : Topic} (hlist : hub.table topic = none) :
    Coherent
      { lists := hub.lists ++ [[hub.subscribers.length]]
        table := Function.update hub.table topic (some hub.lists.length)
        subscribers := hub.subscribers ++ [⟨topic, hub.lists.length, [], [], true⟩] } := by
  have hnone : ∀ (index : ℕ) (subscriber : Subscriber Topic Item), hub.subscribers[index]? = some subscriber →
      subscriber.live = true → subscriber.topic ≠ topic := by
    intro index subscriber hsubscriber hlive htopic
    have hheld := h.held index subscriber hsubscriber hlive
    rw [htopic, hlist] at hheld
    cases hheld
  have hshort : ∀ other list, hub.table other = some list → list < hub.lists.length := by
    intro other list hother
    obtain ⟨indices, hindices, -⟩ := h.listed other list hother
    exact (List.getElem?_eq_some_iff.mp hindices).1
  refine ⟨fun index subscriber hsubscriber hlive => ?_, fun other otherList hother => ?_,
    fun other another otherList hother hanother => ?_⟩
  · rcases getElem?_concat_eq_some.mp hsubscriber with hold | ⟨-, rfl⟩
    · exact (Function.update_of_ne (hnone index subscriber hold hlive) _ _).trans
        (h.held index subscriber hold hlive)
    · exact Function.update_self _ _ _
  · change Function.update hub.table topic (some hub.lists.length) other = some otherList at hother
    by_cases hsame : other = topic
    · subst hsame
      rw [Function.update_self, Option.some.injEq] at hother
      subst hother
      refine ⟨[hub.subscribers.length], by simp, by simp, List.nodup_singleton _, fun index => ?_⟩
      rw [List.mem_singleton, liveAt_concat]
      have hold : ¬ LiveAt hub.subscribers other index :=
        fun ⟨subscriber, hsubscriber, hlive, htopic⟩ => hnone index subscriber hsubscriber hlive htopic
      simp [hold]
    · rw [Function.update_of_ne hsame] at hother
      obtain ⟨others, hothers, hotherNe, hotherNodup, hotherMem⟩ := h.listed other otherList hother
      refine ⟨others, ?_, hotherNe, hotherNodup, fun index => ?_⟩
      · exact (List.getElem?_append_left (hshort other otherList hother)).trans hothers
      · rw [hotherMem, liveAt_concat]
        exact (or_iff_left fun hnew => hsame hnew.2.2.symm).symm
  · change Function.update hub.table topic (some hub.lists.length) other = some otherList at hother
    change Function.update hub.table topic (some hub.lists.length) another = some otherList at hanother
    by_cases hsame : other = topic
    · by_cases hsame' : another = topic
      · rw [hsame, hsame']
      · rw [hsame, Function.update_self, Option.some.injEq] at hother
        rw [Function.update_of_ne hsame'] at hanother
        have hlt := hshort another otherList hanother
        omega
    · rw [Function.update_of_ne hsame] at hother
      by_cases hsame' : another = topic
      · rw [hsame', Function.update_self, Option.some.injEq] at hanother
        have hlt := hshort other otherList hother
        omega
      · rw [Function.update_of_ne hsame'] at hanother
        exact h.apart other another otherList hother hanother

/-- A new subscriber keeps the hub coherent. -/
theorem Coherent.subscribe {hub : Hub Topic Item} (h : hub.Coherent) (topic : Topic) :
    (hub.subscribe topic).Coherent := by
  unfold Hub.subscribe
  cases hlist : hub.table topic with
  | some list => exact h.join hlist
  | none => exact h.found hlist

/-- A subscriber that leaves keeps the hub coherent. -/
theorem Coherent.close {hub hub' : Hub Topic Item} (h : hub.Coherent) {index : ℕ}
    (hclose : hub.close index = some hub') : hub'.Coherent := by
  obtain ⟨subscriber, hsubscriber, hrest⟩ := Option.bind_eq_some_iff.mp hclose
  split at hrest
  · next hlive =>
    cases hrest
    have hheld := h.held index subscriber hsubscriber hlive
    obtain ⟨indices, hindices, -, hnodup, hmem⟩ := h.listed subscriber.topic subscriber.list hheld
    have hgetD : hub.lists.getD subscriber.list [] = indices := by
      rw [List.getD_eq_getElem?_getD, hindices, Option.getD_some]
    rw [hgetD]
    have htable : ∀ topic list, (if indices.erase index = [] then Function.update hub.table subscriber.topic none
          else hub.table) topic = some list ↔
        hub.table topic = some list ∧ (topic = subscriber.topic → indices.erase index ≠ []) := by
      intro topic list
      by_cases hempty : indices.erase index = []
      · by_cases hsame : topic = subscriber.topic
        · simp [hempty, hsame]
        · simp [hempty, hsame]
      · simp [hempty]
    refine ⟨fun other found hfound hfoundLive => ?_, fun topic list hlist => ?_, fun topic other list hlist hother =>
      h.apart topic other list ((htable _ _).mp hlist).1 ((htable _ _).mp hother).1⟩
    · obtain ⟨hne, old, hold, holdLive, -⟩ := (liveAt_close hsubscriber).mp ⟨found, hfound, hfoundLive, rfl⟩
      change (hub.subscribers.set index { subscriber with live := false })[other]? = some found at hfound
      rw [List.getElem?_set_ne hne.symm, hold, Option.some.injEq] at hfound
      subst hfound
      refine (htable _ _).mpr ⟨h.held other old hold holdLive, fun htopic hempty => ?_⟩
      have hstays : other ∈ indices.erase index :=
        hnodup.mem_erase_iff.mpr ⟨hne, (hmem other).mpr ⟨old, hold, holdLive, htopic⟩⟩
      rw [hempty] at hstays
      cases hstays
    · obtain ⟨hlist, hleft⟩ := (htable topic list).mp hlist
      by_cases htopic : topic = subscriber.topic
      · subst htopic
        have hlists : list = subscriber.list := Option.some.inj (hlist.symm.trans hheld)
        subst hlists
        refine ⟨indices.erase index, ?_, hleft rfl, hnodup.erase index, fun other => ?_⟩
        · exact List.getElem?_set_self (List.getElem?_eq_some_iff.mp hindices).1
        · rw [hnodup.mem_erase_iff, hmem, liveAt_close hsubscriber]
      · have hapart : subscriber.list ≠ list := fun heq => htopic (h.apart topic _ list hlist (heq ▸ hheld))
        obtain ⟨others, hothers, hotherNe, hotherNodup, hotherMem⟩ := h.listed topic list hlist
        refine ⟨others, (List.getElem?_set_ne hapart).trans hothers, hotherNe, hotherNodup, fun other => ?_⟩
        rw [hotherMem, liveAt_close hsubscriber]
        refine (and_iff_right_of_imp ?_).symm
        rintro ⟨found, hfound, -, hfoundTopic⟩ rfl
        rw [hsubscriber, Option.some.injEq] at hfound
        exact htopic (hfoundTopic.symm.trans (congrArg Subscriber.topic hfound.symm))
  · cases hrest

/-- The hub is coherent, and its subscribers are the mailboxes that the signals make. -/
structure Tracks (capacity : ℕ) (history : List (Signal Topic Item)) (hub : Hub Topic Item) : Prop where
  coherent : hub.Coherent
  mailboxes : hub.subscribers.map Subscriber.mailbox = Fanout.mailboxes capacity history

/-- A hub without subscribers tracks nothing. -/
theorem tracks_empty (capacity : ℕ) : Tracks capacity [] (empty : Hub Topic Item) := ⟨coherent_empty, rfl⟩

/-- A signal is heard by each mailbox on its own. -/
theorem Tracks.hear {capacity : ℕ} {history : List (Signal Topic Item)} {hub : Hub Topic Item}
    (h : hub.Tracks capacity history) {hub' : Hub Topic Item} (hcoherent : hub'.Coherent) {signal : Signal Topic Item}
    (hquiet : ∀ topic, signal ≠ .started topic) (hheard : ∀ index : ℕ, hub'.subscribers[index]?.map Subscriber.mailbox =
      hub.subscribers[index]?.map fun subscriber => subscriber.mailbox.hear capacity index signal) :
    hub'.Tracks capacity (history ++ [signal]) := by
  refine ⟨hcoherent, ?_⟩
  rw [Fanout.mailboxes, List.foldl_append]
  change _ = Fanout.signal capacity (Fanout.mailboxes capacity history) signal
  rw [← h.mailboxes]
  refine List.ext_getElem? fun index => ?_
  have hnone : ∀ mailboxes : List (Mailbox Topic Item), Fanout.signal capacity mailboxes signal =
      mailboxes.mapIdx fun index mailbox => mailbox.hear capacity index signal := by
    intro mailboxes
    cases signal with
    | started topic => exact absurd rfl (hquiet topic)
    | published topic item => exact List.append_nil _
    | consumed other => exact List.append_nil _
    | closed other => exact List.append_nil _
  rw [hnone, List.getElem?_mapIdx, List.getElem?_map, List.getElem?_map, Option.map_map]
  exact hheard index

/-- A start makes a new mailbox. -/
theorem Tracks.subscribe {capacity : ℕ} {history : List (Signal Topic Item)} {hub : Hub Topic Item}
    (h : hub.Tracks capacity history) (topic : Topic) :
    (hub.subscribe topic).Tracks capacity (history ++ [.started topic]) := by
  refine ⟨h.coherent.subscribe topic, ?_⟩
  have hsame : (hub.subscribers.map Subscriber.mailbox).mapIdx
      (fun index mailbox => mailbox.hear capacity index (.started topic)) = hub.subscribers.map Subscriber.mailbox := by
    refine List.ext_getElem? fun index => ?_
    rw [List.getElem?_mapIdx]
    exact congrFun Option.map_id _
  have hnew : (hub.subscribe topic).subscribers.map Subscriber.mailbox =
      hub.subscribers.map Subscriber.mailbox ++ [⟨topic, true, [], 0⟩] := by
    unfold Hub.subscribe
    split
    · exact List.map_append
    · exact List.map_append
  rw [Fanout.mailboxes, List.foldl_append]
  change _ = Fanout.signal capacity (Fanout.mailboxes capacity history) (.started topic)
  rw [← h.mailboxes, Fanout.signal, hsame, hnew]

/-- An item is accepted by a mailbox exactly if it is offered to a queue that is not full. -/
theorem hear_published (capacity index : ℕ) (subscriber : Subscriber Topic Item) (topic : Topic) (item : Item) :
    subscriber.mailbox.hear capacity index (.published topic item) =
      if subscriber.live = true ∧ subscriber.topic = topic then (subscriber.offer capacity item).mailbox
      else subscriber.mailbox := by
  have hunread : (subscriber.received ++ subscriber.queue).length - subscriber.received.length =
      subscriber.queue.length := by
    rw [List.length_append]
    omega
  unfold Mailbox.hear Subscriber.offer Subscriber.mailbox
  dsimp only
  rw [hunread]
  by_cases hlive : subscriber.live = true ∧ subscriber.topic = topic
  · rw [if_pos hlive]
    by_cases hroom : subscriber.queue.length < capacity
    · rw [if_pos ⟨hlive.1, hlive.2, hroom⟩, if_pos hroom, List.append_assoc]
    · rw [if_neg fun hall => hroom hall.2.2, if_neg hroom]
  · rw [if_neg hlive, if_neg fun hall => hlive ⟨hall.1, hall.2.1⟩]

/-- A publication reaches the live subscribers of its topic. -/
theorem Tracks.publish {capacity : ℕ} {history : List (Signal Topic Item)} {hub : Hub Topic Item}
    (h : hub.Tracks capacity history) (topic : Topic) (item : Item) :
    (hub.publish capacity topic item).Tracks capacity (history ++ [.published topic item]) := by
  refine h.hear (h.coherent.publish capacity topic item) nofun fun index => ?_
  simp only [hear_published]
  unfold Hub.publish
  cases hlist : hub.table topic with
  | none =>
    cases hsubscriber : hub.subscribers[index]? with
    | none => simp
    | some subscriber =>
      have hnot : ¬(subscriber.live = true ∧ subscriber.topic = topic) := by
        rintro ⟨hlive, htopic⟩
        have hheld := h.coherent.held index subscriber hsubscriber hlive
        rw [htopic, hlist] at hheld
        cases hheld
      simp only [Option.map_some, if_neg hnot]
  | some list =>
    obtain ⟨indices, hindices, -, hnodup, hmem⟩ := h.coherent.listed topic list hlist
    have hgetD : hub.lists.getD list [] = indices := by
      rw [List.getD_eq_getElem?_getD, hindices, Option.getD_some]
    dsimp only
    rw [hgetD, getElem?_foldl_modify _ hnodup]
    cases hsubscriber : hub.subscribers[index]? with
    | none => simp
    | some subscriber =>
      have hreached : index ∈ indices ↔ subscriber.live = true ∧ subscriber.topic = topic := by
        rw [hmem, LiveAt, hsubscriber]
        simp
      by_cases hin : index ∈ indices
      · simp only [if_pos hin, Option.map_some, if_pos (hreached.mp hin)]
      · simp only [if_neg hin, Option.map_some, if_neg fun hlive => hin (hreached.mpr hlive)]

/-- A subscriber that is replaced hears of it, and the others do not. -/
theorem Tracks.replace {capacity : ℕ} {history : List (Signal Topic Item)} {hub hub' : Hub Topic Item}
    (h : hub.Tracks capacity history) (hcoherent : hub'.Coherent) {signal : Signal Topic Item}
    (hquiet : ∀ topic, signal ≠ .started topic) {index : ℕ} {subscriber changed : Subscriber Topic Item}
    (hsubscriber : hub.subscribers[index]? = some subscriber) (hchanged : hub'.subscribers = hub.subscribers.set index changed)
    (hself : changed.mailbox = subscriber.mailbox.hear capacity index signal)
    (hothers : ∀ (other : ℕ) (mailbox : Mailbox Topic Item), index ≠ other →
      mailbox.hear capacity other signal = mailbox) : hub'.Tracks capacity (history ++ [signal]) := by
  refine h.hear hcoherent hquiet fun other => ?_
  rw [hchanged, List.getElem?_set]
  split
  · next hsame =>
    subst hsame
    rw [if_pos (List.getElem?_eq_some_iff.mp hsubscriber).1, hsubscriber]
    exact congrArg some hself
  · next hother =>
    refine congrArg (fun change => hub.subscribers[other]?.map change) (funext fun found => ?_)
    exact (hothers other found.mailbox hother).symm

/-- A subscriber that reads has read one more item. -/
theorem Tracks.consume {capacity : ℕ} {history : List (Signal Topic Item)} {hub hub' : Hub Topic Item}
    (h : hub.Tracks capacity history) {index : ℕ} (hconsume : hub.consume index = some hub') :
    hub'.Tracks capacity (history ++ [.consumed index]) := by
  have hcoherent := h.coherent.consume hconsume
  obtain ⟨subscriber, hsubscriber, hrest⟩ := Option.bind_eq_some_iff.mp hconsume
  split at hrest
  · next item rest hlive hqueue =>
    cases hrest
    refine h.replace hcoherent nofun hsubscriber rfl (Eq.trans ?_ (if_pos rfl).symm)
      fun other mailbox hother => if_neg hother
    unfold Subscriber.mailbox
    dsimp only
    rw [hqueue, List.append_assoc, List.length_append]
    rfl
  · cases hrest

/-- A subscriber that leaves is not live. -/
theorem Tracks.close {capacity : ℕ} {history : List (Signal Topic Item)} {hub hub' : Hub Topic Item}
    (h : hub.Tracks capacity history) {index : ℕ} (hclose : hub.close index = some hub') :
    hub'.Tracks capacity (history ++ [.closed index]) := by
  have hcoherent := h.coherent.close hclose
  obtain ⟨subscriber, hsubscriber, hrest⟩ := Option.bind_eq_some_iff.mp hclose
  split at hrest
  · cases hrest
    exact h.replace hcoherent nofun hsubscriber rfl (if_pos rfl).symm fun other mailbox hother => if_neg hother
  · cases hrest

end Hub

/-! ### What a mailbox has been given -/

variable [DecidableEq Topic]

/-- What a subscriber of a topic hears after its start. -/
def follow (capacity index : ℕ) (topic : Topic) (history : List (Signal Topic Item)) : Mailbox Topic Item :=
  history.foldl (fun mailbox signal => mailbox.hear capacity index signal) ⟨topic, true, [], 0⟩

/-- No signal changes the topic of a mailbox. -/
theorem Mailbox.topic_hear (capacity index : ℕ) (mailbox : Mailbox Topic Item) (signal : Signal Topic Item) :
    (mailbox.hear capacity index signal).topic = mailbox.topic := by
  unfold Mailbox.hear
  split
  · rfl
  · split <;> rfl
  · split <;> rfl
  · split <;> rfl

/-- There is a mailbox for each subscriber that was started. -/
theorem topics_mailboxes (capacity : ℕ) (history : List (Signal Topic Item)) :
    (mailboxes capacity history).map Mailbox.topic = started history := by
  induction history using List.reverseRecOn with
  | nil => rfl
  | append_singleton history last ih =>
    have hmore : started (history ++ [last]) = started history ++ started [last] := List.filterMap_append
    have hheard : ((mailboxes capacity history).mapIdx fun index mailbox => mailbox.hear capacity index last).map
        Mailbox.topic = (mailboxes capacity history).map Mailbox.topic := by
      refine List.ext_getElem? fun index => ?_
      rw [List.getElem?_map, List.getElem?_mapIdx, List.getElem?_map, Option.map_map]
      exact congrArg (fun topic => (mailboxes capacity history)[index]?.map topic)
        (funext fun mailbox => Mailbox.topic_hear capacity index mailbox last)
    rw [mailboxes, List.foldl_append, hmore, ← ih, ← hheard]
    change (Fanout.signal capacity (mailboxes capacity history) last).map Mailbox.topic = _
    unfold Fanout.signal
    rw [List.map_append]
    cases last with
    | started topic => rfl
    | published topic item => rfl
    | consumed index => rfl
    | closed index => rfl

/-- Each mailbox has been made by a start, and has heard all signals since. -/
theorem exists_start {capacity : ℕ} {history : List (Signal Topic Item)} {index : ℕ} {mailbox : Mailbox Topic Item}
    (h : (mailboxes capacity history)[index]? = some mailbox) :
    ∃ before after, history = before ++ .started mailbox.topic :: after ∧
      (started before).length = index ∧ mailbox = follow capacity index mailbox.topic after := by
  induction history using List.reverseRecOn generalizing mailbox with
  | nil =>
    rw [mailboxes, List.foldl_nil, List.getElem?_nil] at h
    cases h
  | append_singleton history last ih =>
    rw [mailboxes, List.foldl_append] at h
    change (Fanout.signal capacity (mailboxes capacity history) last)[index]? = some mailbox at h
    unfold Fanout.signal at h
    rw [List.getElem?_append, List.length_mapIdx] at h
    split at h
    · rw [List.getElem?_mapIdx] at h
      obtain ⟨old, hold, rfl⟩ := Option.map_eq_some_iff.mp h
      obtain ⟨before, after, hsplit, hindex, hfollow⟩ := ih hold
      refine ⟨before, after ++ [last], ?_, hindex, ?_⟩
      · rw [hsplit, Mailbox.topic_hear, List.append_assoc]
        rfl
      · rw [Mailbox.topic_hear, follow, List.foldl_append]
        exact congrArg (fun mailbox : Mailbox Topic Item => mailbox.hear capacity index last) hfollow
    · next hlong =>
      cases last with
      | started topic =>
        have hindex : index - (mailboxes capacity history).length = 0 := by
          by_contra hne
          rw [List.getElem?_eq_none (by rw [List.length_singleton]; omega)] at h
          cases h
        rw [hindex] at h
        cases h
        have hlength : (started history).length = (mailboxes capacity history).length := by
          rw [← topics_mailboxes capacity, List.length_map]
        exact ⟨history, [], rfl, by omega, rfl⟩
      | published topic item => cases h
      | consumed other => cases h
      | closed other => cases h

/-- A signal gives a mailbox at most one item, which is published under its topic. -/
theorem Mailbox.accepted_hear (capacity index : ℕ) (mailbox : Mailbox Topic Item) (signal : Signal Topic Item) :
    (mailbox.hear capacity index signal).accepted = mailbox.accepted ∨ ∃ item, signal = .published mailbox.topic item ∧
      (mailbox.hear capacity index signal).accepted = mailbox.accepted ++ [item] := by
  unfold Mailbox.hear
  split
  · exact .inl rfl
  · next topic item =>
    split
    · next hheard => exact .inr ⟨item, by rw [hheard.2.1], rfl⟩
    · exact .inl rfl
  · split
    · exact .inl rfl
    · exact .inl rfl
  · split
    · exact .inl rfl
    · exact .inl rfl

/-- A mailbox is given nothing but what was published under its topic, in that order. -/
theorem accepted_follow (capacity index : ℕ) (topic : Topic) (history : List (Signal Topic Item)) :
    (follow capacity index topic history).topic = topic ∧
      (follow capacity index topic history).accepted.Sublist (publishedUnder topic history) := by
  induction history using List.reverseRecOn with
  | nil => exact ⟨rfl, List.Sublist.refl _⟩
  | append_singleton history last ih =>
    obtain ⟨htopic, hsublist⟩ := ih
    rw [follow, List.foldl_append]
    change ((follow capacity index topic history).hear capacity index last).topic = topic ∧
      ((follow capacity index topic history).hear capacity index last).accepted.Sublist
        (publishedUnder topic (history ++ [last]))
    have hmore : publishedUnder topic (history ++ [last]) = publishedUnder topic history ++ publishedUnder topic [last] :=
      List.filterMap_append
    rw [Mailbox.topic_hear, hmore]
    refine ⟨htopic, ?_⟩
    rcases Mailbox.accepted_hear capacity index (follow capacity index topic history) last with hsame | ⟨item, hlast, hnew⟩
    · rw [hsame]
      exact hsublist.trans (List.sublist_append_left _ _)
    · have hitem : publishedUnder topic [last] = [item] := by
        rw [hlast, htopic]
        simp [publishedUnder]
      rw [hnew, hitem]
      exact hsublist.append (List.Sublist.refl _)

end Fanout
