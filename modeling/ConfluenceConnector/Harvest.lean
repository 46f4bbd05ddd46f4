import Mathlib.Data.Finset.Card
import Mathlib.Tactic.PushNeg
import ConfluenceConnector.Paginated

/-!
The harvest `get_docs` drives: producers, the pool `fetchers`, the queue and
`_consumer`.

`get_docs` submits three producers to the pool (`_space_coro`, then
`_page_blog_coro` for blog posts and for pages), adds 3 to `fetcher_count`, and
drains the queue with `_consumer`.  A producer puts its documents on the queue and
ends with one `END_SIGNAL`; a page or blog producer, for a document with
attachments, submits an `_attachment_coro` to the pool and adds 1 to
`fetcher_count`.  `_consumer` reads the queue while `fetcher_count > 0`, counts an
`END_SIGNAL` down and yields anything else.

The tasks share one event loop, so a task runs undisturbed from one suspension
point to the next.  A producer's steps here are what lies between two of them:
a queue put, which waits while the queue is full, and a submission, which waits
while the pool is full and is followed by its `fetcher_count += 1` with no
suspension point in between.  What a producer does with the network decides
which steps it takes, so each task carries its `Script`: its queue puts and
submissions in order, and how its body ends (it returns, it raises, or it is
still fetching).  The scheduler may pick any task or the consumer at each step.
The queue rejects a message larger than its memory ceiling: the put raises, the
exception leaves the producer there, and the pool no longer counts the task.

The state keeps two logs the code does not: the task each queued message came
from, and the messages `_consumer` has read.  They let the results speak of "the
`END_SIGNAL`s read so far" and "what producer `i` has put".

Reading `get_docs` this way gives, over every interleaving:

* `fetcher_count` is the number of producers submitted minus the `END_SIGNAL`s
  read, never negative, and at least 1 while some `END_SIGNAL` is unread;
* `_consumer` leaves its loop exactly when every `END_SIGNAL` has been read, and
  by then it has yielded every item, each once, each producer's in its order;
* nothing deadlocks while every producer ends with its `END_SIGNAL` and every
  item fits the queue; a producer whose put is rejected never puts its
  `END_SIGNAL`.

All of this assumes what the producers' code does not ensure: that every
producer puts its `END_SIGNAL`.  `Producers` shows one that does not.
-/

namespace Confluence

/-- `MAX_CONCURRENCY`: the most tasks `fetchers` runs at once. -/
def MAX_CONCURRENCY : Nat := 50

/-- `QUEUE_SIZE`: the most entries the queue holds. -/
def QUEUE_SIZE : Nat := 1024

/-- `QUEUE_MEM_SIZE`: the most memory the queue's entries take, in bytes. -/
def QUEUE_MEM_SIZE : Nat := 25 * 1024 * 1024

/-- What a producer puts on the queue: a document, or `END_SIGNAL`. -/
inductive Msg (α : Type)
  | item (x : α)
  | endSignal

/-- `item == END_SIGNAL`, the test `_consumer` makes. -/
def Msg.isEnd {α : Type} : Msg α → Bool
  | .item _ => false
  | .endSignal => true

/-- The document of a message that is not `END_SIGNAL`. -/
def Msg.item? {α : Type} : Msg α → Option α
  | .item x => some x
  | .endSignal => none

/-- What a producer does between two suspension points that the harvest sees. -/
inductive Action (α : Type)
  /-- `await self.queue.put(m)`. -/
  | put (m : Msg α)
  /-- `await self.fetchers.put(partial(self._attachment_coro, ...))`, then
  `self.fetcher_count += 1`: an attachment producer, which puts `child` and ends
  as `childEnding` says. -/
  | submit (child : List (Msg α)) (childEnding : Ending)

/-- The message of a put. -/
def Action.msg? {α : Type} : Action α → Option (Msg α)
  | .put m => some m
  | .submit _ _ => none

/-- Whether an action is a queue put. -/
def Action.isPut {α : Type} : Action α → Bool
  | .put _ => true
  | .submit _ _ => false

/-- A producer coroutine as the harvest sees it: its actions in order, and how its
body ends after them (`running` when it is still fetching). -/
structure Script (α : Type) where
  actions : List (Action α)
  ending : Ending

/-- The messages a script puts. -/
def Script.messages {α : Type} (sc : Script α) : List (Msg α) := sc.actions.filterMap Action.msg?

/-- The script of an attachment producer, which only puts. -/
def Script.ofPuts {α : Type} (msgs : List (Msg α)) (ending : Ending) : Script α :=
  ⟨msgs.map .put, ending⟩

/-- A task of the pool: its coroutine, how many of its actions it has done, and
whether it raised at the current one, a put the queue rejected. -/
structure Task (α : Type) where
  script : Script α
  pc : Nat
  raised : Bool

namespace Task

variable {α : Type}

/-- The action the task is at. -/
def current (t : Task α) : Option (Action α) := t.script.actions[t.pc]?

/-- The task past its current action. -/
def next (t : Task α) : Task α := { t with pc := t.pc + 1 }

/-- The task has taken every action of its script, after which its coroutine
returned or raised. -/
def finished (t : Task α) : Bool :=
  decide (t.script.actions.length ≤ t.pc) && t.script.ending != .running

/-- The task's coroutine has ended, after its script or at a rejected put: the pool
no longer counts it. -/
def done (t : Task α) : Bool := t.raised || t.finished

/-- The messages the task has put so far. -/
def sentMsgs (t : Task α) : List (Msg α) := (t.script.actions.take t.pc).filterMap Action.msg?

@[simp] theorem next_script (t : Task α) : t.next.script = t.script := rfl

@[simp] theorem next_raised (t : Task α) : t.next.raised = t.raised := rfl

theorem finished_of_current {t : Task α} {a : Action α} (h : t.current = some a) :
    t.finished = false := by
  have hlt : t.pc < t.script.actions.length := by
    by_contra hge
    simp [current, List.getElem?_eq_none (Nat.le_of_not_lt hge)] at h
  simp [finished, Nat.not_le.2 hlt]

theorem done_of_finished {t : Task α} (h : t.finished = true) : t.done = true := by
  simp [done, h]

theorem sentMsgs_next {t : Task α} {a : Action α} (h : t.current = some a) :
    t.next.sentMsgs = t.sentMsgs ++ a.msg?.toList := by
  simp only [sentMsgs, next, List.take_succ, List.filterMap_append]
  rw [show t.script.actions[t.pc]? = some a from h]
  cases a <;> rfl

end Task

/-- The state of the harvest. -/
structure Harvest (α : Type) where
  /-- The pool's tasks, in the order they were submitted. -/
  tasks : List (Task α)
  /-- The queue, each message with the task that put it. -/
  queue : List (Nat × Msg α)
  /-- `self.fetcher_count`. -/
  fetcherCount : Int
  /-- `_consumer` has left its loop. -/
  consumerDone : Bool
  /-- What `_consumer` has yielded, in order. -/
  yielded : List α
  /-- The messages `_consumer` has read, in order, each with the task that put it. -/
  taken : List (Nat × Msg α)

namespace Harvest

variable {α : Type} (size : Msg α → Nat)

/-- The memory the queue's entries take, each as `get_size` measures it. -/
def memSize (s : Harvest α) : Nat := (s.queue.map fun e => size e.2).sum

/-- Modelled from the spec: `MemQueue.put(m)` rejects a message larger than
`QUEUE_MEM_SIZE` as a configuration error, raising in the producer that puts it. -/
def rejects (m : Msg α) : Bool := decide (QUEUE_MEM_SIZE < size m)

/-- Modelled from the spec: `MemQueue.put(m)` proceeds when the queue has fewer
than `QUEUE_SIZE` entries and `m` fits in what is left of `QUEUE_MEM_SIZE`, and
waits otherwise. -/
def hasRoom (s : Harvest α) (m : Msg α) : Bool :=
  decide (s.queue.length < QUEUE_SIZE) && decide (s.memSize size + size m ≤ QUEUE_MEM_SIZE)

/-- The tasks the pool is running. -/
def running (s : Harvest α) : Nat := s.tasks.countP fun t => !t.done

/-- Modelled from the spec: `fetchers.put(coroutine)` of `ConcurrentTasks`, which
waits while `MAX_CONCURRENCY` tasks run and otherwise starts the coroutine as a
new task. -/
def poolPut (s : Harvest α) (sc : Script α) : Option (Harvest α) :=
  if s.running < MAX_CONCURRENCY then some { s with tasks := s.tasks ++ [⟨sc, 0, false⟩] }
  else none

/-- One turn of `_consumer`'s loop: leave when `fetcher_count` is not positive;
otherwise read the queue (waiting while it is empty), count an `END_SIGNAL` down
and yield anything else. -/
def consumerStep (s : Harvest α) : Option (Harvest α) :=
  if s.consumerDone then none
  else if s.fetcherCount ≤ 0 then some { s with consumerDone := true }
  else
    match s.queue with
    | [] => none
    | e :: rest =>
      match e.2 with
      | .endSignal =>
        some { s with queue := rest, taken := s.taken ++ [e], fetcherCount := s.fetcherCount - 1 }
      | .item x =>
        some { s with queue := rest, taken := s.taken ++ [e], yielded := s.yielded ++ [x] }

/-- One step of task `i`: its current put or submission, if it need not wait.  A put
the queue rejects raises, and a task that raised takes no more steps. -/
def producerStep (s : Harvest α) (i : Nat) : Option (Harvest α) :=
  match s.tasks[i]? with
  | none => none
  | some t =>
    if t.raised then none else
    match t.current with
    | none => none
    | some (.put m) =>
      if rejects size m then some { s with tasks := s.tasks.set i { t with raised := true } }
      else if s.hasRoom size m then
        some { s with tasks := s.tasks.set i t.next, queue := s.queue ++ [(i, m)] }
      else none
    | some (.submit child ending) =>
      (s.poolPut (.ofPuts child ending)).map fun s' =>
        { s' with tasks := s'.tasks.set i t.next, fetcherCount := s'.fetcherCount + 1 }

end Harvest

/-- Who takes the next step. -/
inductive Party
  | consumer
  | producer (i : Nat)

namespace Harvest

variable {α : Type} (size : Msg α → Nat)

/-- One step of the harvest, by the party the scheduler picks. -/
def step (s : Harvest α) : Party → Option (Harvest α)
  | .consumer => s.consumerStep
  | .producer i => s.producerStep size i

/-- The harvest as `__init__` leaves it. -/
def empty : Harvest α := ⟨[], [], 0, false, [], []⟩

end Harvest

/-- `get_docs` without advanced rules, up to its `async for` over `_consumer`: the
three `fetchers.put`, then `fetcher_count += 3`; `none` if a put would wait. -/
def getDocs {α : Type} (space blog page : Script α) : Option (Harvest α) := do
  let s ← Harvest.empty.poolPut space
  let s ← s.poolPut blog
  let s ← s.poolPut page
  return { s with fetcherCount := s.fetcherCount + 3 }

/-- The harvest `_consumer` starts on. -/
def harvestStart {α : Type} (space blog page : Script α) : Harvest α :=
  ⟨[⟨space, 0, false⟩, ⟨blog, 0, false⟩, ⟨page, 0, false⟩], [], 3, false, [], []⟩

/-- The states a harvest reaches from `start`, over every interleaving. -/
inductive Reachable {α : Type} (size : Msg α → Nat) (start : Harvest α) : Harvest α → Prop
  | start : Reachable size start start
  | step {s s' : Harvest α} (p : Party) (h : Reachable size start s)
      (hstep : s.step size p = some s') : Reachable size start s'

/-! ### What producers are assumed to do -/


variable {α : Type}

/-- What a producer that ends once does before its `END_SIGNAL`: it puts an item,
or it submits an attachment producer that puts items and then, if its body
returns, its one `END_SIGNAL`. -/
def Action.Regular : Action α → Prop
  | .put m => m.isEnd = false
  | .submit child ending => ∃ items : List α,
    (ending = .returned ∧ child = items.map .item ++ [.endSignal]) ∨
      (ending = .running ∧ child = items.map .item)

/-- A producer that ends once: all it does is regular, and if its body returns,
its last action is its one `END_SIGNAL` put.  A producer still fetching when the
model stops has not put it yet; a producer whose body raises is excluded. -/
def Script.EndsOnce (sc : Script α) : Prop :=
  ∃ body : List (Action α), (∀ a ∈ body, a.Regular) ∧
    ((sc.ending = .returned ∧ sc.actions = body ++ [.put .endSignal]) ∨
      (sc.ending = .running ∧ sc.actions = body))

theorem Script.endsOnce_ofPuts {child : List (Msg α)} {ending : Ending}
    (h : (Action.submit child ending).Regular) : (Script.ofPuts child ending).EndsOnce := by
  have hreg : ∀ items : List α,
      ∀ a ∈ items.map fun x => Action.put (Msg.item x), a.Regular :=
    fun _ _ ha => by
      obtain ⟨_, -, rfl⟩ := List.mem_map.1 ha
      rfl
  obtain ⟨items, ⟨rfl, rfl⟩ | ⟨rfl, rfl⟩⟩ := h
  · exact ⟨_, hreg items, .inl ⟨rfl, by simp [Script.ofPuts]⟩⟩
  · exact ⟨_, hreg items, .inr ⟨rfl, by simp [Script.ofPuts]⟩⟩

theorem Script.EndsOnce.regular {sc : Script α} (h : sc.EndsOnce) {pc : Nat} {a : Action α}
    (ha : sc.actions[pc]? = some a) (hput : a ≠ .put .endSignal) : a.Regular := by
  obtain ⟨body, hreg, ⟨-, hb⟩ | ⟨-, hb⟩⟩ := h <;> rw [hb] at ha
  · rcases List.mem_append.1 (List.getElem?_mem ha) with hmem | hmem
    · exact hreg a hmem
    · exact absurd (List.mem_singleton.1 hmem) hput
  · exact hreg a (List.getElem?_mem ha)

theorem Action.Regular.msg_isEnd {a : Action α} (h : a.Regular) {m : Msg α}
    (hm : a.msg? = some m) : m.isEnd = false := by
  cases a with
  | put m' => cases hm; exact h
  | submit => cases hm

theorem Task.le_of_finished {t : Task α} (hd : t.finished = true) :
    t.script.actions.length ≤ t.pc := by
  simp only [Task.finished, Bool.and_eq_true, decide_eq_true_eq] at hd
  exact hd.1

theorem Task.sentMsgs_of_finished {t : Task α} (hd : t.finished = true) :
    t.sentMsgs = t.script.messages := by
  simp [Task.sentMsgs, Script.messages, List.take_of_length_le (Task.le_of_finished hd)]

namespace Task

variable {t : Task α} (h : t.script.EndsOnce)
include h

/-- A task that ends once has put its `END_SIGNAL` exactly when it has finished. -/
theorem countP_sentMsgs : t.sentMsgs.countP Msg.isEnd = if t.finished then 1 else 0 := by
  obtain ⟨body, hreg, hend⟩ := h
  have hnone : ∀ l : List (Action α), (∀ a ∈ l, a.Regular) →
      (l.filterMap Action.msg?).countP Msg.isEnd = 0 := fun l hl =>
    List.countP_eq_zero.2 fun m hm => by
      obtain ⟨a, ha, hm⟩ := List.mem_filterMap.1 hm
      exact Bool.eq_false_iff.1 ((hl a ha).msg_isEnd hm)
  have htake : ∀ n, ((body.take n).filterMap Action.msg?).countP Msg.isEnd = 0 := fun n =>
    hnone _ fun a ha => hreg a (List.mem_of_mem_take ha)
  rcases hend with ⟨hret, hb⟩ | ⟨hrun, hb⟩
  · rw [Task.finished, Task.sentMsgs, hb, hret]
    by_cases hle : body.length + 1 ≤ t.pc
    · rw [List.take_of_length_le (by simpa using hle), List.filterMap_append, List.countP_append,
        hnone body hreg]
      simp [hle, Action.msg?, Msg.isEnd]
    · rw [List.take_append_of_le_length (by omega), htake]
      simp [hle]
  · simp [Task.finished, hrun, Task.sentMsgs, hb, htake]

/-- The last message a finished task that ends once has put is its `END_SIGNAL`. -/
theorem getLast?_sentMsgs (hd : t.finished = true) : t.sentMsgs.getLast? = some .endSignal := by
  obtain ⟨body, -, ⟨-, hb⟩ | ⟨hrun, -⟩⟩ := h
  · rw [Task.sentMsgs, List.take_of_length_le (Task.le_of_finished hd), hb, List.filterMap_append]
    simp [Action.msg?]
  · simp [Task.finished, hrun] at hd

end Task

@[simp] theorem Msg.isEnd_eq_true {m : Msg α} : m.isEnd = true ↔ m = .endSignal := by
  cases m <;> simp [Msg.isEnd]

/-- A list of indices below `n` without repeats has at most `n` of them, and has
`n` exactly when it has all of them. -/
theorem length_le_of_nodup_lt {E : List Nat} {n : Nat} (hnd : E.Nodup) (hlt : ∀ x ∈ E, x < n) :
    E.length ≤ n ∧ (n ≤ E.length ↔ ∀ i < n, i ∈ E) := by
  have hsub : E.toFinset ⊆ Finset.range n := fun x hx =>
    Finset.mem_range.2 (hlt x (List.mem_toFinset.1 hx))
  have hcard : E.toFinset.card = E.length := List.toFinset_card_of_nodup hnd
  refine ⟨hcard ▸ (Finset.card_le_card hsub).trans (Finset.card_range n).le,
    ⟨fun hle i hi => ?_, fun hall => ?_⟩⟩
  · have heq := Finset.eq_of_subset_of_card_le hsub (by simpa [hcard] using hle)
    exact List.mem_toFinset.1 (heq ▸ Finset.mem_range.2 hi)
  · have hsup : Finset.range n ⊆ E.toFinset := fun i hi =>
      List.mem_toFinset.2 (hall i (Finset.mem_range.1 hi))
    simpa [hcard] using Finset.card_le_card hsup

namespace Harvest

/-- What task `i` has put so far, read off the logs: the messages `_consumer` has
read from it, then those of it still queued. -/
def sentBy (s : Harvest α) (i : Nat) : List (Msg α) :=
  ((s.taken ++ s.queue).filter (·.1 == i)).map (·.2)

/-- The tasks whose `END_SIGNAL` `_consumer` has read, in the order it read them. -/
def endsRead (s : Harvest α) : List Nat := (s.taken.filter (·.2.isEnd)).map (·.1)

/-- What every reachable state keeps. -/
structure Inv (s : Harvest α) : Prop where
  /-- Every message logged came from a task of the pool. -/
  source_lt : ∀ e ∈ s.taken ++ s.queue, e.1 < s.tasks.length
  /-- Task by task, the logs hold exactly what the task has put, in its order. -/
  sent : ∀ i t, s.tasks[i]? = some t → s.sentBy i = t.sentMsgs
  /-- `fetcher_count` counts the tasks submitted, less the `END_SIGNAL`s read. -/
  count : s.fetcherCount = s.tasks.length - s.endsRead.length
  /-- `_consumer` has yielded the items it read, in order. -/
  yielded : s.yielded = s.taken.filterMap (·.2.item?)
  /-- `_consumer` left its loop on a count that was not positive. -/
  consumerDone : s.consumerDone = true → s.fetcherCount ≤ 0
  /-- Every task ends once. -/
  scripts : ∀ t ∈ s.tasks, t.script.EndsOnce
  /-- Tasks after the first three are attachment producers, which only put. -/
  children : ∀ i t, s.tasks[i]? = some t → 3 ≤ i →
    ∀ a ∈ t.script.actions, a.isPut = true

theorem mem_endsRead {s : Harvest α} {i : Nat} :
    i ∈ s.endsRead ↔ (i, .endSignal) ∈ s.taken := by
  simp only [endsRead, List.mem_map, List.mem_filter, Msg.isEnd_eq_true]
  constructor
  · rintro ⟨⟨j, m⟩, ⟨hm, rfl⟩, rfl⟩
    exact hm
  · exact fun h => ⟨_, ⟨h, rfl⟩, rfl⟩

/-- The `END_SIGNAL`s of `i` among logged messages, counted either way. -/
theorem count_ends (l : List (Nat × Msg α)) (i : Nat) :
    ((l.filter (·.2.isEnd)).map (·.1)).count i =
      ((l.filter (·.1 == i)).map (·.2)).countP Msg.isEnd := by
  simp only [List.count, List.countP_map, List.countP_filter]
  congr 1
  funext e
  exact Bool.and_comm _ _

namespace Inv

variable {s : Harvest α} (hs : s.Inv)
include hs

theorem endsRead_lt : ∀ i ∈ s.endsRead, i < s.tasks.length := by
  intro i hi
  exact hs.source_lt _ (List.mem_append_left _ (mem_endsRead.1 hi))

theorem countP_taken_le {i : Nat} (t : Task α) (ht : s.tasks[i]? = some t) :
    ((s.taken.filter (·.1 == i)).map (·.2)).countP Msg.isEnd ≤
      t.sentMsgs.countP Msg.isEnd := by
  rw [← hs.sent i t ht, sentBy, List.filter_append, List.map_append, List.countP_append]
  omega

theorem endsRead_nodup : s.endsRead.Nodup := by
  refine List.nodup_iff_count_le_one.2 fun i => ?_
  rw [endsRead, count_ends]
  by_cases hi : i < s.tasks.length
  · have ht : s.tasks[i]? = some s.tasks[i] := List.getElem?_eq_getElem hi
    have hsc := hs.scripts _ (List.getElem_mem hi)
    refine (hs.countP_taken_le _ ht).trans ?_
    rw [Task.countP_sentMsgs hsc]
    split <;> omega
  · rw [← count_ends, ← endsRead, List.count_eq_zero.2 fun hmem => hi (hs.endsRead_lt i hmem)]
    omega

theorem count_bounds : 0 ≤ s.fetcherCount ∧
    (s.fetcherCount ≤ 0 ↔ ∀ i < s.tasks.length, i ∈ s.endsRead) := by
  obtain ⟨hle, hiff⟩ := length_le_of_nodup_lt hs.endsRead_nodup hs.endsRead_lt
  rw [hs.count, ← hiff]
  omega

theorem finished_of_endRead {i : Nat} {t : Task α} (hi : i ∈ s.endsRead)
    (ht : s.tasks[i]? = some t) : t.finished = true := by
  have hpos : 0 < s.endsRead.count i := List.count_pos_iff.2 hi
  rw [endsRead, count_ends] at hpos
  have hle := hs.countP_taken_le t ht
  rw [Task.countP_sentMsgs (hs.scripts t (List.getElem?_mem ht))] at hle
  split at hle
  · assumption
  · omega

theorem queue_of_endRead {i : Nat} (hi : i ∈ s.endsRead) : ∀ e ∈ s.queue, e.1 ≠ i := by
  intro e he hei
  have hlt := hs.endsRead_lt i hi
  have ht : s.tasks[i]? = some s.tasks[i] := List.getElem?_eq_getElem hlt
  have hsc := hs.scripts _ (List.getElem_mem hlt)
  have hdone := hs.finished_of_endRead hi ht
  have hsent := hs.sent i _ ht
  rw [sentBy, List.filter_append, List.map_append] at hsent
  have hqne : (s.queue.filter (·.1 == i)).map (·.2) ≠ [] := by
    intro hnil
    rw [List.map_eq_nil_iff, List.filter_eq_nil_iff] at hnil
    exact hnil e he (by simpa using hei)
  have hlast := Task.getLast?_sentMsgs hsc hdone
  rw [← hsent, List.getLast?_append_of_ne_nil _ hqne] at hlast
  have hq : 0 < ((s.queue.filter (·.1 == i)).map (·.2)).countP Msg.isEnd :=
    List.countP_pos_iff.2 ⟨_, List.mem_of_getLast?_eq_some hlast, rfl⟩
  have htk : 0 < s.endsRead.count i := List.count_pos_iff.2 hi
  rw [endsRead, count_ends] at htk
  have hone := Task.countP_sentMsgs hsc
  rw [if_pos hdone, ← hsent, List.countP_append] at hone
  omega

end Inv

end Harvest


namespace Harvest

variable (size : Msg α → Nat)

/-- What one turn of `_consumer` can do: leave on a count that is not positive, or
read the head of the queue, counting an `END_SIGNAL` down and yielding an item. -/
theorem consumerStep_cases {s s' : Harvest α} (h : s.consumerStep = some s') :
    s.consumerDone = false ∧
      ((s.fetcherCount ≤ 0 ∧ s' = { s with consumerDone := true }) ∨
       (0 < s.fetcherCount ∧ ∃ e rest, s.queue = e :: rest ∧
        s' = { s with
          queue := rest, taken := s.taken ++ [e],
          fetcherCount := if e.2.isEnd then s.fetcherCount - 1 else s.fetcherCount,
          yielded := s.yielded ++ e.2.item?.toList })) := by
  unfold consumerStep at h
  split at h
  · cases h
  next hdone =>
    refine ⟨by simpa using hdone, ?_⟩
    split at h
    next hle => exact .inl ⟨hle, (Option.some.inj h).symm⟩
    next hpos =>
      refine .inr ⟨by omega, ?_⟩
      split at h
      · cases h
      next e rest hq =>
        refine ⟨e, rest, hq, ?_⟩
        split at h <;> rename_i hm <;> cases h <;> simp [hm, Msg.isEnd, Msg.item?]

/-- What one step of task `i` can do, when it has not raised: its current put, when
the queue has room; raise at that put, when the queue rejects it; or its current
submission, when the pool has a free slot. -/
theorem producerStep_cases {s s' : Harvest α} {i : Nat} (h : s.producerStep size i = some s') :
    ∃ t, s.tasks[i]? = some t ∧ t.raised = false ∧
      ((∃ m, t.current = some (.put m) ∧ s.hasRoom size m = true ∧
          s' = { s with tasks := s.tasks.set i t.next, queue := s.queue ++ [(i, m)] }) ∨
       (∃ m, t.current = some (.put m) ∧ rejects size m = true ∧
          s' = { s with tasks := s.tasks.set i { t with raised := true } }) ∨
       (∃ child ending, t.current = some (.submit child ending) ∧
          s.running < MAX_CONCURRENCY ∧
          s' = { s with
            tasks := (s.tasks ++ [Task.mk (.ofPuts child ending) 0 false]).set i t.next,
            fetcherCount := s.fetcherCount + 1 })) := by
  unfold producerStep at h
  split at h
  · cases h
  next t ht =>
    refine ⟨t, ht, ?_⟩
    split at h
    · cases h
    next hr =>
      refine ⟨by simpa using hr, ?_⟩
      split at h
      · cases h
      next m hm =>
        split at h
        · exact .inr (.inl ⟨m, hm, ‹_›, (Option.some.inj h).symm⟩)
        split at h
        · exact .inl ⟨m, hm, ‹_›, (Option.some.inj h).symm⟩
        · cases h
      next child ending hm =>
        unfold poolPut at h
        split at h
        · exact .inr (.inr ⟨child, ending, hm, ‹_›, (Option.some.inj h).symm⟩)
        · cases h

theorem getElem?_set_cases {l : List (Task α)} {i j : Nat} {t u t' : Task α}
    (ht : l[i]? = some t) (h : (l.set i u)[j]? = some t') :
    (i = j ∧ t' = u) ∨ (i ≠ j ∧ l[j]? = some t') := by
  rw [List.getElem?_set] at h
  split at h
  · subst_vars
    rw [if_pos (List.getElem?_eq_some_iff.1 ht).1] at h
    exact .inl ⟨rfl, (Option.some.inj h).symm⟩
  · exact .inr ⟨‹_›, h⟩

theorem getElem?_append_singleton {β : Type} {l : List β} {c b : β} {j : Nat}
    (h : (l ++ [c])[j]? = some b) : l[j]? = some b ∨ (j = l.length ∧ b = c) := by
  by_cases hj : j < l.length
  · rw [List.getElem?_append_left hj] at h
    exact .inl h
  · rw [List.getElem?_append_right (by omega)] at h
    cases hk : j - l.length with
    | zero => exact .inr ⟨by omega, by simpa [hk] using h.symm⟩
    | succ k => simp [hk] at h

theorem sentBy_of_lt {s : Harvest α} {n : Nat} (hlt : ∀ e ∈ s.taken ++ s.queue, e.1 < n) :
    s.sentBy n = [] := by
  simp only [sentBy, List.map_eq_nil_iff, List.filter_eq_nil_iff, beq_iff_eq]
  exact fun e he heq => (hlt e he).ne heq

namespace Inv

variable {s : Harvest α} (hs : s.Inv)
include hs

theorem consumerStep {s' : Harvest α} (h : s.consumerStep = some s') : s'.Inv := by
  obtain ⟨hdone, ⟨hle, rfl⟩ | ⟨-, ⟨j, m⟩, rest, hq, rfl⟩⟩ := consumerStep_cases h
  · exact { hs with consumerDone := fun _ => hle }
  · have hlog : s.taken ++ [(j, m)] ++ rest = s.taken ++ s.queue := by simp [hq]
    refine { hs with
      source_lt := fun e he => hs.source_lt e (hlog ▸ he)
      sent := fun i t ht => by
        show ((s.taken ++ [(j, m)] ++ rest).filter _).map _ = _
        rw [hlog]
        exact hs.sent i t ht
      count := ?_
      yielded := ?_
      consumerDone := fun h => by simp [hdone] at h }
    · cases m
      · simpa [endsRead, List.filter_append, Msg.isEnd] using hs.count
      · simp [endsRead, List.filter_append, Msg.isEnd, hs.count]
        omega
    · cases m <;> simp [hs.yielded, List.filterMap_append, Msg.item?]

theorem put {i : Nat} {t : Task α} {m : Msg α} (ht : s.tasks[i]? = some t)
    (hm : t.current = some (.put m)) :
    Inv { s with tasks := s.tasks.set i t.next, queue := s.queue ++ [(i, m)] } := by
  have hi : i < s.tasks.length := (List.getElem?_eq_some_iff.1 ht).1
  refine { hs with
    source_lt := fun e he => ?_
    sent := fun j t' ht' => ?_
    count := by simpa [endsRead] using hs.count
    scripts := fun t' ht' => ?_
    children := fun j t' ht' hj => ?_ }
  · rw [List.length_set]
    rcases List.mem_append.1 he with he | he
    · exact hs.source_lt e (List.mem_append_left _ he)
    · rcases List.mem_append.1 he with he | he
      · exact hs.source_lt e (List.mem_append_right _ he)
      · rw [List.mem_singleton.1 he]; exact hi
  · rcases getElem?_set_cases ht ht' with ⟨rfl, rfl⟩ | ⟨hij, ht'⟩
    · rw [Task.sentMsgs_next hm, ← hs.sent _ t ht]
      simp [sentBy, List.filter_append, Action.msg?]
    · rw [← hs.sent j t' ht']
      simp [sentBy, List.filter_append, hij]
  · rcases List.mem_or_eq_of_mem_set ht' with ht' | rfl
    · exact hs.scripts t' ht'
    · exact hs.scripts t (List.getElem?_mem ht)
  · rcases getElem?_set_cases ht ht' with ⟨rfl, rfl⟩ | ⟨-, ht'⟩
    · exact hs.children _ t ht hj
    · exact hs.children j t' ht' hj

theorem submit {i : Nat} {t : Task α} {child : List (Msg α)} {ending : Ending}
    (ht : s.tasks[i]? = some t) (hm : t.current = some (.submit child ending)) :
    Inv { s with
      tasks := (s.tasks ++ [Task.mk (.ofPuts child ending) 0 false]).set i t.next,
      fetcherCount := s.fetcherCount + 1 } := by
  have hi : i < s.tasks.length := (List.getElem?_eq_some_iff.1 ht).1
  have hsc := hs.scripts t (List.getElem?_mem ht)
  have hchild : (Script.ofPuts child ending).EndsOnce :=
    Script.endsOnce_ofPuts (hsc.regular hm (by simp))
  rw [List.set_append_left _ _ hi]
  refine { hs with
    source_lt := fun e he => ?_
    sent := fun j t' ht' => ?_
    count := ?_
    consumerDone := fun hd => ?_
    scripts := fun t' ht' => ?_
    children := fun j t' ht' hj => ?_ }
  · simpa using Nat.lt_succ_of_lt (hs.source_lt e he)
  · rcases getElem?_append_singleton ht' with ht' | ⟨hj, rfl⟩
    · rcases getElem?_set_cases ht ht' with ⟨rfl, rfl⟩ | ⟨-, ht'⟩
      · rw [Task.sentMsgs_next hm, ← hs.sent _ t ht]
        simp [sentBy, Action.msg?]
      · exact hs.sent j t' ht'
    · rw [List.length_set] at hj
      subst hj
      exact sentBy_of_lt hs.source_lt
  · show s.fetcherCount + 1 =
      (s.tasks.set i t.next ++ [Task.mk (.ofPuts child ending) 0 false]).length - s.endsRead.length
    rw [hs.count]
    simp
    omega
  · have hall := hs.count_bounds.2.1 (hs.consumerDone hd) i hi
    exact absurd (hs.finished_of_endRead hall ht) (by simp [Task.finished_of_current hm])
  · rcases List.mem_append.1 ht' with ht' | ht'
    · rcases List.mem_or_eq_of_mem_set ht' with ht' | rfl
      · exact hs.scripts t' ht'
      · exact hsc
    · rw [List.mem_singleton.1 ht']
      exact hchild
  · rcases getElem?_append_singleton ht' with ht' | ⟨-, rfl⟩
    · rcases getElem?_set_cases ht ht' with ⟨rfl, rfl⟩ | ⟨-, ht'⟩
      · exact hs.children _ t ht hj
      · exact hs.children j t' ht' hj
    · simp [Script.ofPuts, Action.isPut]

/-- A task that raises keeps its script and what it has put. -/
theorem raise {i : Nat} {t : Task α} (ht : s.tasks[i]? = some t) :
    Inv { s with tasks := s.tasks.set i { t with raised := true } } := by
  refine { hs with
    source_lt := fun e he => by simpa using hs.source_lt e he
    sent := fun j t' ht' => ?_
    count := by simpa [endsRead] using hs.count
    scripts := fun t' ht' => ?_
    children := fun j t' ht' hj => ?_ }
  · rcases getElem?_set_cases ht ht' with ⟨rfl, rfl⟩ | ⟨-, ht'⟩
    · exact hs.sent _ t ht
    · exact hs.sent j t' ht'
  · rcases List.mem_or_eq_of_mem_set ht' with ht' | rfl
    · exact hs.scripts t' ht'
    · exact hs.scripts t (List.getElem?_mem ht)
  · rcases getElem?_set_cases ht ht' with ⟨rfl, rfl⟩ | ⟨-, ht'⟩
    · exact hs.children _ t ht hj
    · exact hs.children j t' ht' hj

theorem step {p : Party} {s' : Harvest α} (h : s.step size p = some s') : s'.Inv := by
  cases p with
  | consumer => exact hs.consumerStep h
  | producer i =>
    obtain ⟨t, ht, -, ⟨m, hm, -, rfl⟩ | ⟨m, -, -, rfl⟩ | ⟨child, ending, hm, -, rfl⟩⟩ :=
      producerStep_cases size h
    · exact hs.put ht hm
    · exact hs.raise ht
    · exact hs.submit ht hm

/-- Once every `END_SIGNAL` has been read, nothing is left on the queue, and
`_consumer` has read all that each task put. -/
theorem drained (hall : ∀ i < s.tasks.length, i ∈ s.endsRead) :
    s.queue = [] ∧ ∀ i t, s.tasks[i]? = some t →
      (s.taken.filter (·.1 == i)).map (·.2) = t.script.messages := by
  have hq : s.queue = [] := List.eq_nil_iff_forall_not_mem.2 fun e he =>
    hs.queue_of_endRead (hall _ (hs.source_lt e (List.mem_append_right _ he))) e he rfl
  refine ⟨hq, fun i t ht => ?_⟩
  have hi : i < s.tasks.length := (List.getElem?_eq_some_iff.1 ht).1
  rw [← Task.sentMsgs_of_finished (hs.finished_of_endRead (hall i hi) ht), ← hs.sent i t ht,
    sentBy, hq, List.append_nil]

/-- With the queue empty, a task that has finished has had its `END_SIGNAL` read. -/
theorem endRead_of_finished {i : Nat} {t : Task α} (hq : s.queue = [])
    (ht : s.tasks[i]? = some t) (hd : t.finished = true) : i ∈ s.endsRead := by
  have hsc := hs.scripts t (List.getElem?_mem ht)
  have hone := Task.countP_sentMsgs hsc
  rw [if_pos hd, ← hs.sent i t ht, sentBy, hq, List.append_nil, ← count_ends] at hone
  exact List.count_pos_iff.1 (by rw [endsRead]; omega)

/-- When every unfinished task is at a submission, only the first three can be
unfinished: the pool runs at most three tasks. -/
theorem running_le_three
    (hsubmit : ∀ t ∈ s.tasks, t.done = false → ∃ c e, t.current = some (.submit c e)) :
    s.running ≤ 3 := by
  have hdrop : (s.tasks.drop 3).countP (!·.done) = 0 := by
    refine List.countP_eq_zero.2 fun u hu hund => ?_
    obtain ⟨k, hk⟩ := List.mem_iff_getElem?.1 hu
    rw [List.getElem?_drop] at hk
    obtain ⟨c, e, hc⟩ := hsubmit u (List.getElem?_mem hk) (by simpa using hund)
    simpa [Action.isPut] using hs.children _ u hk (by omega) _ (List.getElem?_mem hc)
  calc s.running = (s.tasks.take 3).countP (!·.done) + (s.tasks.drop 3).countP (!·.done) := by
        rw [running, ← List.countP_append, List.take_append_drop]
    _ ≤ 3 := by
        rw [hdrop, Nat.add_zero]
        exact (List.countP_le_length _).trans (List.length_take_le _ _)

/-- Once `_consumer` has left its loop, it has read every `END_SIGNAL`, the queue is
empty, and it has yielded the items it read and read what each producer put. -/
theorem consumerDone_drained (hdone : s.consumerDone = true) :
    (∀ i < s.tasks.length, (i, .endSignal) ∈ s.taken) ∧ s.queue = [] ∧
      s.yielded = s.taken.filterMap (·.2.item?) ∧ ∀ i t, s.tasks[i]? = some t →
        (s.taken.filter (·.1 == i)).map (·.2) = t.script.messages := by
  have hall := hs.count_bounds.2.1 (hs.consumerDone hdone)
  obtain ⟨hq, hread⟩ := hs.drained hall
  exact ⟨fun i hi => mem_endsRead.1 (hall i hi), hq, hs.yielded, hread⟩

end Inv

end Harvest

section Runs

variable (size : Msg α → Nat) {space blog page : Script α}

theorem harvestStart_inv (h0 : space.EndsOnce) (h1 : blog.EndsOnce) (h2 : page.EndsOnce) :
    (harvestStart space blog page).Inv where
  source_lt := by simp [harvestStart]
  sent i t ht := by
    have ht' : t ∈ [Task.mk space 0 false, ⟨blog, 0, false⟩, ⟨page, 0, false⟩] := List.getElem?_mem ht
    simp only [List.mem_cons, List.mem_singleton, List.not_mem_nil, or_false] at ht'
    rcases ht' with rfl | rfl | rfl <;> simp [Harvest.sentBy, harvestStart, Task.sentMsgs]
  count := by simp [harvestStart, Harvest.endsRead]
  yielded := rfl
  consumerDone h := by cases h
  scripts t ht := by
    simp only [harvestStart, List.mem_cons, List.mem_singleton, List.not_mem_nil, or_false] at ht
    rcases ht with rfl | rfl | rfl <;> assumption
  children i t ht hi := by
    rw [harvestStart, List.getElem?_eq_none (by simpa using hi)] at ht
    cases ht

theorem Reachable.inv (h0 : space.EndsOnce) (h1 : blog.EndsOnce) (h2 : page.EndsOnce)
    {s : Harvest α} (hr : Reachable size (harvestStart space blog page) s) : s.Inv := by
  induction hr with
  | start => exact harvestStart_inv h0 h1 h2
  | step _ _ hstep ih => exact ih.step size hstep

/-- `_consumer` leaves its loop on its next turn exactly when the count is not positive. -/
theorem Harvest.consumerStep_leave_iff {s : Harvest α} (hdone : s.consumerDone = false) :
    s.consumerStep = some { s with consumerDone := true } ↔ s.fetcherCount ≤ 0 := by
  constructor
  · intro h
    obtain ⟨-, ⟨hle, -⟩ | ⟨-, e, rest, -, heq⟩⟩ := Harvest.consumerStep_cases h
    · exact hle
    · simpa [hdone] using congrArg Harvest.consumerDone heq
  · intro hle
    simp [Harvest.consumerStep, hdone, hle]

/-- `get_docs`'s three submissions find the pool empty, and `_consumer` starts on
the three producers with `fetcher_count = 3`. -/
theorem getDocs_eq (space blog page : Script α) :
    getDocs space blog page = some (harvestStart space blog page) := by
  have hput : ∀ (s : Harvest α) sc, s.tasks.length ≤ 2 →
      s.poolPut sc = some { s with tasks := s.tasks ++ [⟨sc, 0, false⟩] } := fun _ _ hl =>
    if_pos ((List.countP_le_length _).trans_lt (by unfold MAX_CONCURRENCY; omega))
  simp (disch := simp [Harvest.empty]) only [getDocs, hput, Option.bind_eq_bind, Option.some_bind]
  rfl

/-- **How `fetcher_count` and `_consumer` track the producers.**  Over every
interleaving of `_consumer` with producers that each end with one `END_SIGNAL`
(the three `get_docs` submits and every attachment producer submitted on the way):
`fetcher_count` is the number of producers submitted minus the `END_SIGNAL`s read,
and never negative; it is at least 1 while a submitted producer's `END_SIGNAL` is
unread; `_consumer` leaves its loop exactly when every submitted producer's
`END_SIGNAL` has been read; and by then the queue is empty, `_consumer` has yielded
the items it read in the order it read them, and it has read from each producer
exactly what that producer put, in its order. -/
theorem harvest_sentinel_accounting (space blog page : Script α) (h0 : space.EndsOnce)
    (h1 : blog.EndsOnce) (h2 : page.EndsOnce) {s : Harvest α}
    (hr : Reachable size (harvestStart space blog page) s) :
    (s.fetcherCount = s.tasks.length - s.endsRead.length ∧ 0 ≤ s.fetcherCount) ∧
    ((∃ i < s.tasks.length, (i, .endSignal) ∉ s.taken) → 1 ≤ s.fetcherCount) ∧
    (s.consumerDone = false → (s.consumerStep = some { s with consumerDone := true } ↔
      ∀ i < s.tasks.length, (i, .endSignal) ∈ s.taken)) ∧
    (s.consumerDone = true → (∀ i < s.tasks.length, (i, .endSignal) ∈ s.taken) ∧
      s.queue = [] ∧ s.yielded = s.taken.filterMap (·.2.item?) ∧
      ∀ i t, s.tasks[i]? = some t →
        (s.taken.filter (·.1 == i)).map (·.2) = t.script.messages) := by
  have hs := hr.inv size h0 h1 h2
  obtain ⟨hnonneg, hiff⟩ := hs.count_bounds
  have hiff' : s.fetcherCount ≤ 0 ↔ ∀ i < s.tasks.length, (i, .endSignal) ∈ s.taken := by
    simpa only [Harvest.mem_endsRead] using hiff
  refine ⟨⟨hs.count, hnonneg⟩, fun ⟨i, hi, hun⟩ => ?_, fun hdone => ?_, fun hdone => ?_⟩
  · by_contra hlt
    exact hun (hiff'.1 (by omega) i hi)
  · rw [Harvest.consumerStep_leave_iff hdone, hiff']
  · exact hs.consumerDone_drained hdone

namespace Harvest

/-- Task `t` waits: at a put while the queue has no room for its message and does
not reject it, or at a submission while the pool is full. -/
def Waits (s : Harvest α) (t : Task α) : Prop :=
  match t.current with
  | some (.put m) => s.hasRoom size m = false ∧ rejects size m = false
  | some (.submit _ _) => MAX_CONCURRENCY ≤ s.running
  | none => False

/-- `_consumer` waits at `queue.get()` on an empty queue. -/
def ConsumerWaits (s : Harvest α) : Prop :=
  s.consumerDone = false ∧ 0 < s.fetcherCount ∧ s.queue = []

/-- A deadlock: `_consumer` and every producer that has not finished wait at once. -/
def Deadlocked (s : Harvest α) : Prop :=
  s.ConsumerWaits ∧ ∀ t ∈ s.tasks, t.done = false → s.Waits size t

/-- A schedule, run from `s`: `none` once a party cannot take its step. -/
def run (s : Harvest α) : List Party → Option (Harvest α)
  | [] => some s
  | p :: ps => (s.step size p).bind (·.run ps)

/-- When `_consumer` waits and every task has finished, no party can move again:
the harvest hangs. -/
theorem step_eq_none_of_done {s : Harvest α} (hw : s.ConsumerWaits)
    (hdone : ∀ t ∈ s.tasks, t.done = true) (p : Party) : s.step size p = none := by
  obtain ⟨hcd, hpos, hq⟩ := hw
  cases p with
  | consumer => simp [step, consumerStep, hcd, hq, not_le.2 hpos]
  | producer i =>
    simp only [step, producerStep]
    split
    · rfl
    next t ht =>
      cases hr : t.raised
      · have hcur : t.current = none := by
          cases hc : t.current with
          | none => rfl
          | some a =>
            simpa [Task.done, hr, Task.finished_of_current hc] using hdone t (List.getElem?_mem ht)
        simp [hcur]
      · simp

theorem hasRoom_of_empty {s : Harvest α} {m : Msg α} (hq : s.queue = [])
    (hfit : size m ≤ QUEUE_MEM_SIZE) : s.hasRoom size m = true := by
  simp [hasRoom, memSize, hq, hfit, QUEUE_SIZE]

/-- With the queue empty every put has room, so in a deadlock every unfinished
producer waits at a submission; the invariant bounds those by three, short of the
pool's fifty slots. -/
theorem Inv.not_deadlocked {s : Harvest α} (hs : s.Inv) (hfit : ∀ m, size m ≤ QUEUE_MEM_SIZE)
    (hraised : ∀ t ∈ s.tasks, t.raised = false) : ¬ s.Deadlocked size := by
  rintro ⟨⟨_, hpos, hq⟩, hwait⟩
  have hsubmit : ∀ t ∈ s.tasks, t.done = false → ∃ c e, t.current = some (.submit c e) := by
    intro t ht hnd
    have hw := hwait t ht hnd
    unfold Harvest.Waits at hw
    split at hw
    · simp [Harvest.hasRoom_of_empty size hq (hfit _)] at hw
    · exact ⟨_, _, ‹_›⟩
    · exact hw.elim
  obtain ⟨i, hi, hun⟩ : ∃ i < s.tasks.length, i ∉ s.endsRead := by
    by_contra hall
    push_neg at hall
    have := hs.count_bounds.2.2 hall
    omega
  have ht : s.tasks[i]? = some s.tasks[i] := List.getElem?_eq_getElem hi
  have hnd : s.tasks[i].done = false := by
    simpa [Task.done, hraised _ (List.getElem_mem hi)] using mt (hs.endRead_of_finished hq ht) hun
  obtain ⟨c, e, hc⟩ := hsubmit _ (List.getElem_mem hi) hnd
  have hw := hwait _ (List.getElem_mem hi) hnd
  simp only [Harvest.Waits, hc] at hw
  have := hs.running_le_three hsubmit
  unfold MAX_CONCURRENCY at hw
  omega

end Harvest

/-- While every message fits the queue's memory ceiling no put is rejected, so no
task raises. -/
theorem Reachable.not_raised (hfit : ∀ m, size m ≤ QUEUE_MEM_SIZE) {s : Harvest α}
    (hr : Reachable size (harvestStart space blog page) s) : ∀ t ∈ s.tasks, t.raised = false := by
  induction hr with
  | start => simp [harvestStart]
  | step p _ hstep ih =>
    cases p with
    | consumer =>
      obtain ⟨-, ⟨-, rfl⟩ | ⟨-, -, -, -, rfl⟩⟩ := Harvest.consumerStep_cases hstep <;> exact ih
    | producer i =>
      obtain ⟨t, -, hraised, ⟨m, -, -, rfl⟩ | ⟨m, -, hrej, -⟩ | ⟨child, ending, -, -, rfl⟩⟩ :=
        Harvest.producerStep_cases size hstep
      · intro u hu
        rcases List.mem_or_eq_of_mem_set hu with hu | rfl
        · exact ih u hu
        · exact hraised
      · simp [Harvest.rejects, Nat.not_lt.2 (hfit m)] at hrej
      · intro u hu
        rcases List.mem_or_eq_of_mem_set hu with hu | rfl
        · rcases List.mem_append.1 hu with hu | hu
          · exact ih u hu
          · rw [List.mem_singleton.1 hu]
        · exact hraised

/-- **No deadlock.**  `get_docs`'s three submissions never wait for a slot, and when
every producer ends with one `END_SIGNAL` and every message fits the queue's memory
ceiling, no reachable state has `_consumer` and every unfinished producer waiting
at once.  With the queue empty every put has room, so every unfinished producer
would be a page or blog producer at a submission, and those are at most three of
the fifty slots. -/
theorem harvest_no_deadlock (space blog page : Script α) (h0 : space.EndsOnce)
    (h1 : blog.EndsOnce) (h2 : page.EndsOnce) (hfit : ∀ m, size m ≤ QUEUE_MEM_SIZE) :
    getDocs space blog page = some (harvestStart space blog page) ∧
      ∀ s, Reachable size (harvestStart space blog page) s → ¬ s.Deadlocked size :=
  ⟨getDocs_eq _ _ _, fun _ hr =>
    (hr.inv size h0 h1 h2).not_deadlocked size hfit (hr.not_raised size hfit)⟩

theorem Reachable.run {start s s' : Harvest α} {ps : List Party}
    (hr : Reachable size start s) (h : s.run size ps = some s') : Reachable size start s' := by
  induction ps generalizing s with
  | nil => cases h; exact hr
  | cons p ps ih =>
    simp only [Harvest.run] at h
    cases hs : s.step size p with
    | none => simp [hs] at h
    | some s₁ =>
      rw [hs] at h
      exact ih (.step p hr hs) h

/-- A schedule that runs from `start` to a state with property `P` shows a
reachable state with `P`. -/
theorem Reachable.of_run {start : Harvest α} {ps : List Party} {P : Harvest α → Bool}
    (h : (start.run size ps).map P = some true) : ∃ s, Reachable size start s ∧ P s = true := by
  cases hs : start.run size ps with
  | none => simp [hs] at h
  | some s => exact ⟨s, Reachable.start.run size hs, by simpa [hs] using h⟩

end Runs

/-! ### A harvest the assumptions hold of -/

/-- A space producer that puts one document. -/
def sampleSpace : Script Nat := ⟨[.put (.item 1), .put .endSignal], .returned⟩

/-- A blog producer that submits an attachment producer with one attachment. -/
def sampleBlog : Script Nat :=
  ⟨[.submit [.item 2, .endSignal] .returned, .put .endSignal], .returned⟩

/-- A page producer that finds nothing. -/
def samplePage : Script Nat := ⟨[.put .endSignal], .returned⟩

theorem sample_endsOnce : sampleSpace.EndsOnce ∧ sampleBlog.EndsOnce ∧ samplePage.EndsOnce :=
  ⟨⟨[.put (.item 1)], by simp [Action.Regular, Msg.isEnd], .inl ⟨rfl, rfl⟩⟩,
    ⟨[.submit [.item 2, .endSignal] .returned], by simpa [Action.Regular] using ⟨[2], rfl⟩,
      .inl ⟨rfl, rfl⟩⟩,
    ⟨[], by simp, .inl ⟨rfl, rfl⟩⟩⟩

theorem harvest_sentinel_accounting_sample :
    sampleSpace.EndsOnce ∧ sampleBlog.EndsOnce ∧ samplePage.EndsOnce ∧
      ∀ s, Reachable (fun _ => 1) (harvestStart sampleSpace sampleBlog samplePage) s →
      (s.fetcherCount = s.tasks.length - s.endsRead.length ∧ 0 ≤ s.fetcherCount) ∧
      ((∃ i < s.tasks.length, (i, .endSignal) ∉ s.taken) → 1 ≤ s.fetcherCount) ∧
      (s.consumerDone = false → (s.consumerStep = some { s with consumerDone := true } ↔
        ∀ i < s.tasks.length, (i, .endSignal) ∈ s.taken)) ∧
      (s.consumerDone = true → (∀ i < s.tasks.length, (i, .endSignal) ∈ s.taken) ∧
        s.queue = [] ∧ s.yielded = s.taken.filterMap (·.2.item?) ∧
        ∀ i t, s.tasks[i]? = some t →
          (s.taken.filter (·.1 == i)).map (·.2) = t.script.messages) :=
  ⟨sample_endsOnce.1, sample_endsOnce.2.1, sample_endsOnce.2.2, fun _ hr =>
    harvest_sentinel_accounting _ _ _ _ sample_endsOnce.1 sample_endsOnce.2.1
      sample_endsOnce.2.2 hr⟩

theorem harvest_no_deadlock_sample :
    sampleSpace.EndsOnce ∧ sampleBlog.EndsOnce ∧ samplePage.EndsOnce ∧
      (∀ m : Msg Nat, (fun _ => 1) m ≤ QUEUE_MEM_SIZE) ∧
      (getDocs sampleSpace sampleBlog samplePage =
          some (harvestStart sampleSpace sampleBlog samplePage) ∧
        ∀ s, Reachable (fun _ => 1) (harvestStart sampleSpace sampleBlog samplePage) s →
          ¬ s.Deadlocked (fun _ => 1)) :=
  ⟨sample_endsOnce.1, sample_endsOnce.2.1, sample_endsOnce.2.2,
    fun _ => show 1 ≤ QUEUE_MEM_SIZE by decide,
    harvest_no_deadlock _ _ _ _ sample_endsOnce.1 sample_endsOnce.2.1 sample_endsOnce.2.2
      fun _ => show 1 ≤ QUEUE_MEM_SIZE by decide⟩

end Confluence
