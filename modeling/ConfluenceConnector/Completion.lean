import ConfluenceConnector.Producers

/-!
The harvest ends, and `_consumer` yields every document the producers put, once.

`Harvest` shows what every reachable state keeps; it does not say that the
harvest ends, nor which documents `_consumer` yields in all.  Both follow from
what one step does.

No document is lost or made twice.  The ledger of a state lists what `_consumer`
has yielded, the items on the queue, and what each task has still to put:

  ledger(s) = yielded ++ items(queue) ++ pending(task 0) ++ pending(task 1) ++ ...

A read moves an item from the queue to `yielded`, a put moves one from its task
to the queue, a submission moves its attachments from the producer that submits
them to the new task, and a task that raises at a rejected put keeps what it had
still to put.  So every step permutes the ledger, and in every reachable state
the ledger is a permutation of what the three producers hand over, their
attachment producers' documents included.

Every run is finite.  The measure is

  μ(s) = Σ_t Σ_{a ahead of t} w(a) + |queue| + (1 while `_consumer` is in its loop)

with w(put) = 2 and w(submit child) = 2 + 2·|child|, over the tasks that have not
raised.  A put turns 2 into one queue entry, a submission turns 2 + 2·|child| into
the new task's |child| puts, a rejected put drops what its task had ahead, a read
takes an entry off the queue, and leaving the loop takes the last 1.  Each step
lowers μ, so no schedule is longer than μ(start).

When every producer returns, a state where nobody can move has `_consumer` out of
its loop.  While `_consumer` is in it the harvest cannot deadlock (`Harvest`), and
a producer that returns and has not finished is at an action, which it takes
unless it waits.  Out of the loop every `END_SIGNAL` has been read and the queue
is empty, so the ledger is `yielded` alone.
-/

namespace Confluence

variable {α : Type}

/-! ### The ledger -/

/-- The documents an action hands over: the item of a put, and for a submission
the items its attachment producer puts. -/
def Action.items : Action α → List α
  | .put m => m.item?.toList
  | .submit child _ => child.filterMap Msg.item?

/-- The documents a producer hands over, its attachment producers' included, in
the order it puts or submits them. -/
def Script.items (sc : Script α) : List α := sc.actions.flatMap Action.items

/-- The actions a task has still to take. -/
def Task.ahead (t : Task α) : List (Action α) := t.script.actions.drop t.pc

/-- The documents a task has still to hand over. -/
def Task.pending (t : Task α) : List α := t.ahead.flatMap Action.items

/-- Every document of the harvest: yielded by `_consumer`, on the queue, or still
to be put by a task. -/
def Harvest.ledger (s : Harvest α) : List α :=
  s.yielded ++ s.queue.filterMap (·.2.item?) ++ s.tasks.flatMap Task.pending

theorem Task.ahead_of_current {t : Task α} {a : Action α} (h : t.current = some a) :
    t.ahead = a :: t.next.ahead := by
  obtain ⟨hlt, rfl⟩ := List.getElem?_eq_some_iff.1 (show t.script.actions[t.pc]? = some a from h)
  exact List.drop_eq_getElem_cons hlt

theorem Task.ahead_of_finished {t : Task α} (hd : t.finished = true) : t.ahead = [] :=
  List.drop_eq_nil_of_le (Task.le_of_finished hd)

@[simp] theorem Task.ahead_ofPuts (child : List (Msg α)) (ending : Ending) :
    (Task.mk (.ofPuts child ending) 0 false).ahead = child.map .put := rfl

theorem Task.pending_of_current {t : Task α} {a : Action α} (h : t.current = some a) :
    t.pending = a.items ++ t.next.pending := by
  rw [Task.pending, Task.ahead_of_current h, List.flatMap_cons]
  rfl

/-- Replacing entry `i` of a list, whose image under `f` is `x ++ f b'`, by `b'`
takes `x` out of the list's `flatMap`, up to order. -/
theorem flatMap_set_perm {β γ : Type} (f : β → List γ) {l : List β} {i : Nat} {b b' : β}
    {x : List γ} (hb : l[i]? = some b) (hf : f b = x ++ f b') :
    (l.flatMap f).Perm (x ++ (l.set i b').flatMap f) := by
  induction l generalizing i with
  | nil => simp at hb
  | cons y l ih =>
    cases i with
    | zero =>
      obtain rfl : y = b := by simpa using hb
      simp [hf]
    | succ i =>
      simp only [List.flatMap_cons, List.set_cons_succ]
      exact ((ih (by simpa using hb)).append_left (f y)).trans (List.perm_append_comm_assoc _ _ _)

namespace Harvest

variable (size : Msg α → Nat)

/-- Every step permutes the ledger. -/
theorem ledger_step {s s' : Harvest α} {p : Party} (h : s.step size p = some s') :
    s'.ledger.Perm s.ledger := by
  cases p with
  | consumer =>
    obtain ⟨-, ⟨-, rfl⟩ | ⟨-, ⟨j, m⟩, rest, hq, rfl⟩⟩ := consumerStep_cases h
    · rfl
    · cases m <;> simp [ledger, hq, Msg.item?]
  | producer i =>
    obtain ⟨t, ht, -, ⟨m, hm, -, rfl⟩ | ⟨m, -, -, rfl⟩ | ⟨child, ending, hm, -, rfl⟩⟩ :=
      producerStep_cases size h
    · have hperm := flatMap_set_perm Task.pending ht (Task.pending_of_current hm)
      simpa [ledger, List.filterMap_append, Action.items] using
        (hperm.append_left (s.yielded ++ s.queue.filterMap (·.2.item?))).symm
    · have hperm := flatMap_set_perm Task.pending ht
        (show t.pending = [] ++ { t with raised := true }.pending from rfl)
      simpa [ledger] using (hperm.append_left (s.yielded ++ s.queue.filterMap (·.2.item?))).symm
    · have hi : i < s.tasks.length := (List.getElem?_eq_some_iff.1 ht).1
      have hperm := flatMap_set_perm Task.pending ht (Task.pending_of_current hm)
      have hchild : [Task.mk (.ofPuts child ending) 0 false].flatMap Task.pending =
          (Action.submit child ending).items := by
        simp [Task.pending, Action.items, List.filterMap_eq_flatMap_toList, List.flatMap_map,
          Function.comp_def]
      simp only [ledger, List.set_append_left _ _ hi, List.flatMap_append, hchild]
      exact (List.perm_append_comm.trans hperm.symm).append_left _

end Harvest

section Runs

variable (size : Msg α → Nat) {space blog page : Script α}

theorem Reachable.ledger_perm {start s : Harvest α} (hr : Reachable size start s) :
    s.ledger.Perm start.ledger := by
  induction hr with
  | start => rfl
  | step _ _ hstep ih => exact (Harvest.ledger_step size hstep).trans ih

theorem harvestStart_ledger :
    (harvestStart space blog page).ledger = space.items ++ blog.items ++ page.items := by
  simp [Harvest.ledger, harvestStart, Task.pending, Task.ahead, Script.items]

theorem Reachable.ledger_perm_items {s : Harvest α}
    (hr : Reachable size (harvestStart space blog page) s) :
    s.ledger.Perm (space.items ++ blog.items ++ page.items) :=
  @harvestStart_ledger α space blog page ▸ hr.ledger_perm size

/-- What `_consumer` has yielded is part of what the producers hand over. -/
theorem Reachable.yielded_subperm {s : Harvest α}
    (hr : Reachable size (harvestStart space blog page) s) :
    s.yielded.Subperm (space.items ++ blog.items ++ page.items) := by
  have hperm := hr.ledger_perm_items size
  rw [Harvest.ledger, List.append_assoc] at hperm
  exact (List.sublist_append_left _ _).subperm.trans hperm.subperm

/-- **No document is lost or made twice.**  Over every interleaving of `_consumer`
with any producers, in every reachable state, what `_consumer` has yielded, the
items on the queue and what the tasks have still to put make up, up to order, the
documents the three producers `get_docs` submits hand over, those of the
attachment producers they submit included.  So `_consumer` has yielded only such
documents, each at most as often as they are handed over. -/
theorem harvest_ledger_perm (space blog page : Script α) {s : Harvest α}
    (hr : Reachable size (harvestStart space blog page) s) :
    (s.yielded ++ s.queue.filterMap (·.2.item?) ++ s.tasks.flatMap Task.pending).Perm
        (space.items ++ blog.items ++ page.items) ∧
      s.yielded.Subperm (space.items ++ blog.items ++ page.items) :=
  ⟨hr.ledger_perm_items size, hr.yielded_subperm size⟩

/-- Midway through the sample harvest: the space producer has put its document,
the blog producer has submitted its attachment producer, which has put its
attachment, and `_consumer` has read the space's document. -/
theorem harvest_ledger_perm_midway :
    ∃ s, (harvestStart sampleSpace sampleBlog samplePage).run (fun _ => 1)
        [.producer 0, .producer 1, .producer 3, .consumer] = some s ∧
      Reachable (fun _ => 1) (harvestStart sampleSpace sampleBlog samplePage) s ∧
      (s.yielded ++ s.queue.filterMap (·.2.item?) ++ s.tasks.flatMap Task.pending).Perm
          (sampleSpace.items ++ sampleBlog.items ++ samplePage.items) ∧
        s.yielded.Subperm (sampleSpace.items ++ sampleBlog.items ++ samplePage.items) :=
  let ⟨s, hs⟩ : ∃ s, (harvestStart sampleSpace sampleBlog samplePage).run (fun _ => 1)
      [.producer 0, .producer 1, .producer 3, .consumer] = some s := ⟨_, rfl⟩
  have hr := Reachable.start.run (fun _ => 1) hs
  ⟨s, hs, hr, harvest_ledger_perm (fun _ => 1) _ _ _ hr⟩

end Runs

/-! ### The measure -/

/-- The steps an action costs the harvest: a put is one step of its task and one
read; a submission is one step, and a put and a read per message of its
attachment producer. -/
def Action.work : Action α → Nat
  | .put _ => 2
  | .submit child _ => 2 + 2 * child.length

/-- The steps a task costs the harvest from here on: none once it has raised. -/
def Task.work (t : Task α) : Nat := if t.raised then 0 else (t.ahead.map Action.work).sum

/-- μ: the steps the harvest can still take, at most. -/
def Harvest.work (s : Harvest α) : Nat :=
  (s.tasks.map Task.work).sum + s.queue.length + if s.consumerDone then 0 else 1

theorem Task.work_of_current {t : Task α} {a : Action α} (hr : t.raised = false)
    (h : t.current = some a) : t.work = a.work + t.next.work := by
  simp only [Task.work, hr, Task.next_raised, Bool.false_eq_true, ↓reduceIte,
    Task.ahead_of_current h, List.map_cons, List.sum_cons]

@[simp] theorem Task.work_ofPuts (child : List (Msg α)) (ending : Ending) :
    (Task.mk (.ofPuts child ending) 0 false).work = 2 * child.length := by
  simp only [Task.work, Bool.false_eq_true, ↓reduceIte, Task.ahead_ofPuts]
  induction child with
  | nil => rfl
  | cons m child ih =>
    simp only [List.map_cons, List.sum_cons, List.length_cons, ih, Action.work]
    omega

/-- Replacing entry `i` of a list by `b'` trades its `f` for that of `b'` in the
sum. -/
theorem sum_map_set {β : Type} (f : β → Nat) {l : List β} {i : Nat} {b : β} (b' : β)
    (hb : l[i]? = some b) : (l.map f).sum + f b' = ((l.set i b').map f).sum + f b := by
  induction l generalizing i with
  | nil => simp at hb
  | cons y l ih =>
    cases i with
    | zero =>
      obtain rfl : y = b := by simpa using hb
      simp only [List.set_cons_zero, List.map_cons, List.sum_cons]
      omega
    | succ i =>
      have := ih (by simpa using hb)
      simp only [List.set_cons_succ, List.map_cons, List.sum_cons]
      omega

namespace Harvest

variable (size : Msg α → Nat)

/-- A task's step takes its action's cost out of the tasks' sum. -/
theorem sum_work_set_next {l : List (Task α)} {i : Nat} {t : Task α} {a : Action α}
    (ht : l[i]? = some t) (hr : t.raised = false) (ha : t.current = some a) :
    ((l.set i t.next).map Task.work).sum + a.work = (l.map Task.work).sum := by
  have hset := sum_map_set Task.work t.next ht
  rw [Task.work_of_current hr ha] at hset
  omega

/-- Every step lowers μ. -/
theorem work_step {s s' : Harvest α} {p : Party} (h : s.step size p = some s') :
    s'.work < s.work := by
  cases p with
  | consumer =>
    obtain ⟨hcd, ⟨-, rfl⟩ | ⟨-, e, rest, hq, rfl⟩⟩ := consumerStep_cases h
    · simp only [work, hcd, Bool.false_eq_true, ↓reduceIte]
      omega
    · simp only [work, hq, List.length_cons]
      omega
  | producer i =>
    obtain ⟨t, ht, hr, ⟨m, hm, -, rfl⟩ | ⟨m, hm, -, rfl⟩ | ⟨child, ending, hm, -, rfl⟩⟩ :=
      producerStep_cases size h
    · have hsum := sum_work_set_next ht hr hm
      simp only [work, List.length_append, List.length_singleton, Action.work] at hsum ⊢
      omega
    · have hset := sum_map_set Task.work { t with raised := true } ht
      have hpos := Task.work_of_current hr hm
      simp only [Task.work, ↓reduceIte, Action.work] at hset hpos
      simp only [work]
      omega
    · have hi : i < s.tasks.length := (List.getElem?_eq_some_iff.1 ht).1
      have hsum := sum_work_set_next ht hr hm
      simp only [work, List.set_append_left _ _ hi, List.map_append, List.sum_append,
        List.map_singleton, List.sum_singleton, Task.work_ofPuts, Action.work] at hsum ⊢
      omega

/-- A schedule from `s` has at most μ(s) steps, and leaves μ lowered by its length. -/
theorem run_length_le {s s' : Harvest α} {ps : List Party} (h : s.run size ps = some s') :
    ps.length + s'.work ≤ s.work := by
  induction ps generalizing s with
  | nil =>
    cases h
    simp
  | cons p ps ih =>
    cases hs : s.step size p with
    | none => simp [run, hs] at h
    | some s₁ =>
      have hrest := ih (show s₁.run size ps = some s' by simpa [run, hs] using h)
      have hlt := work_step size hs
      simp only [List.length_cons]
      omega

/-- From every state some schedule leads to a state where nobody can move. -/
theorem exists_run_stuck (s : Harvest α) :
    ∃ ps s', s.run size ps = some s' ∧ ∀ p, s'.step size p = none := by
  by_cases hstuck : ∀ p, s.step size p = none
  · exact ⟨[], s, rfl, hstuck⟩
  · push_neg at hstuck
    obtain ⟨p, hp⟩ := hstuck
    obtain ⟨s₁, hs₁⟩ := Option.ne_none_iff_exists'.1 hp
    have := work_step size hs₁
    obtain ⟨ps, s', hrun, hst⟩ := exists_run_stuck s₁
    exact ⟨p :: ps, s', by simp [run, hs₁, hrun], hst⟩
termination_by s.work

end Harvest

/-! ### Progress -/

/-- Every task of the pool returns. -/
def Harvest.Returns (s : Harvest α) : Prop := ∀ t ∈ s.tasks, t.script.Returns

/-- A task whose coroutine returns and which has not finished is at an action. -/
theorem Task.current_of_returns {t : Task α} (hr : t.script.ending = .returned)
    (hd : t.done = false) : ∃ a, t.current = some a := by
  have hlt : t.pc < t.script.actions.length := by
    simp only [Task.done, Task.finished, hr, Bool.or_eq_false_iff] at hd
    simpa using hd.2
  exact ⟨_, List.getElem?_eq_getElem hlt⟩

namespace Harvest

variable (size : Msg α → Nat)

theorem Returns.set {l : List (Task α)} {i : Nat} {t t' : Task α}
    (hl : ∀ u ∈ l, u.script.Returns) (ht : l[i]? = some t) (hs : t'.script = t.script) :
    ∀ u ∈ l.set i t', u.script.Returns := by
  intro u hu
  rcases List.mem_or_eq_of_mem_set hu with hu | rfl
  · exact hl u hu
  · exact hs ▸ hl t (List.getElem?_mem ht)

theorem Returns.step {s s' : Harvest α} {p : Party} (hs : s.Returns)
    (h : s.step size p = some s') : s'.Returns := by
  cases p with
  | consumer =>
    obtain ⟨-, ⟨-, rfl⟩ | ⟨-, -, -, -, rfl⟩⟩ := consumerStep_cases h <;> exact hs
  | producer i =>
    obtain ⟨t, ht, -, ⟨m, hm, -, rfl⟩ | ⟨m, -, -, rfl⟩ | ⟨child, ending, hm, -, rfl⟩⟩ :=
      producerStep_cases size h
    · exact Returns.set hs ht rfl
    · exact Returns.set hs ht rfl
    · have hchild : (Script.ofPuts child ending).Returns :=
        ⟨(hs t (List.getElem?_mem ht)).2 child ending (List.getElem?_mem hm),
          by simp [Script.ofPuts]⟩
      have ht' : (s.tasks ++ [Task.mk (.ofPuts child ending) 0 false])[i]? = some t := by
        rw [List.getElem?_append_left (List.getElem?_eq_some_iff.1 ht).1, ht]
      refine Returns.set (fun u hu => ?_) ht' rfl
      rcases List.mem_append.1 hu with hu | hu
      · exact hs u hu
      · exact List.mem_singleton.1 hu ▸ hchild

/-- A producer at an action it need not wait for can take it. -/
theorem producer_step_of_not_waits {s : Harvest α} {i : Nat} {t : Task α} {a : Action α}
    (ht : s.tasks[i]? = some t) (hr : t.raised = false) (ha : t.current = some a)
    (hw : ¬ s.Waits size t) : ∃ s', s.step size (.producer i) = some s' := by
  simp only [Waits, ha] at hw
  cases a with
  | put m =>
    by_cases hrej : rejects size m = true
    · simp [step, producerStep, ht, hr, ha, hrej]
    · simp only [Bool.not_eq_true] at hrej
      simpa [step, producerStep, ht, hr, ha, hrej] using hw
  | submit child ending => simp [step, producerStep, ht, hr, ha, poolPut, Nat.lt_of_not_le hw]

/-- `_consumer`, in its loop and not waiting on an empty queue, can take a turn. -/
theorem consumer_step_of_not_waits {s : Harvest α} (hcd : s.consumerDone = false)
    (hw : ¬ s.ConsumerWaits) : ∃ s', s.step size .consumer = some s' := by
  by_cases hle : s.fetcherCount ≤ 0
  · exact ⟨_, (consumerStep_leave_iff hcd).2 hle⟩
  · obtain ⟨⟨j, m⟩, rest, hq⟩ : ∃ e rest, s.queue = e :: rest := by
      cases hq : s.queue with
      | nil => exact absurd ⟨hcd, by omega, hq⟩ hw
      | cons e rest => exact ⟨e, rest, rfl⟩
    cases m <;> simp [step, consumerStep, hcd, hle, hq]

/-- While `_consumer` is in its loop, some party can move, when every task returns
and every message fits the queue. -/
theorem Inv.progress {s : Harvest α} (hs : s.Inv) (hret : s.Returns)
    (hfit : ∀ m, size m ≤ QUEUE_MEM_SIZE) (hraised : ∀ t ∈ s.tasks, t.raised = false)
    (hcd : s.consumerDone = false) : ∃ p s', s.step size p = some s' := by
  by_contra hstuck
  push_neg at hstuck
  refine hs.not_deadlocked size hfit hraised ⟨?_, fun t ht hnd => ?_⟩
  · by_contra hw
    obtain ⟨s', h⟩ := consumer_step_of_not_waits size hcd hw
    exact hstuck _ _ h
  · by_contra hw
    obtain ⟨a, ha⟩ := Task.current_of_returns (hret t ht).1 hnd
    obtain ⟨i, hi⟩ := List.mem_iff_getElem?.1 ht
    obtain ⟨s', h⟩ := producer_step_of_not_waits size hi (hraised t ht) ha hw
    exact hstuck _ _ h

/-- Where nobody can move, when every task returns, `_consumer` has left its loop,
every task has finished, the queue is empty, and the ledger is what `_consumer`
yielded. -/
theorem Inv.drained_of_stuck {s : Harvest α} (hs : s.Inv) (hret : s.Returns)
    (hfit : ∀ m, size m ≤ QUEUE_MEM_SIZE) (hraised : ∀ t ∈ s.tasks, t.raised = false)
    (hstuck : ∀ p, s.step size p = none) :
    s.consumerDone = true ∧ (∀ t ∈ s.tasks, t.done = true) ∧ s.queue = [] ∧
      s.ledger = s.yielded := by
  have hcd : s.consumerDone = true := by
    by_contra hcd
    obtain ⟨p, s', h⟩ := hs.progress size hret hfit hraised (by simpa using hcd)
    simp [hstuck p] at h
  have hall := hs.count_bounds.2.1 (hs.consumerDone hcd)
  have hq := (hs.drained hall).1
  have hfin : ∀ t ∈ s.tasks, t.finished = true := fun t ht => by
    obtain ⟨i, hi⟩ := List.mem_iff_getElem?.1 ht
    exact hs.finished_of_endRead (hall i (List.getElem?_eq_some_iff.1 hi).1) hi
  have hpend : s.tasks.flatMap Task.pending = [] := List.flatMap_eq_nil_iff.2 fun t ht => by
    rw [Task.pending, Task.ahead_of_finished (hfin t ht), List.flatMap_nil]
  exact ⟨hcd, fun t ht => Task.done_of_finished (hfin t ht), hq, by simp [ledger, hq, hpend]⟩

end Harvest

section Runs

variable (size : Msg α → Nat) {space blog page : Script α}

theorem Reachable.returns (r0 : space.Returns) (r1 : blog.Returns) (r2 : page.Returns)
    {s : Harvest α} (hr : Reachable size (harvestStart space blog page) s) : s.Returns := by
  induction hr with
  | start =>
    intro t ht
    simp only [harvestStart, List.mem_cons, List.mem_singleton, List.not_mem_nil,
      or_false] at ht
    rcases ht with rfl | rfl | rfl <;> assumption
  | step _ _ hstep ih => exact ih.step size hstep

/-- Where nobody can move, in a harvest of producers that end once and return: the
facts of `Inv.drained_of_stuck`, with `yielded` a permutation of what the three
producers hand over. -/
theorem Reachable.complete_of_stuck (h0 : space.EndsOnce) (h1 : blog.EndsOnce)
    (h2 : page.EndsOnce) (r0 : space.Returns) (r1 : blog.Returns) (r2 : page.Returns)
    (hfit : ∀ m, size m ≤ QUEUE_MEM_SIZE) {s : Harvest α}
    (hr : Reachable size (harvestStart space blog page) s)
    (hstuck : ∀ p, s.step size p = none) :
    s.consumerDone = true ∧ (∀ t ∈ s.tasks, t.done = true) ∧ s.queue = [] ∧
      s.yielded.Perm (space.items ++ blog.items ++ page.items) := by
  obtain ⟨hcd, hdone, hq, hledger⟩ :=
    (hr.inv size h0 h1 h2).drained_of_stuck size (hr.returns size r0 r1 r2) hfit
      (hr.not_raised size hfit) hstuck
  exact ⟨hcd, hdone, hq, hledger ▸ hr.ledger_perm_items size⟩

/-- **The harvest ends, having yielded every document once.**  Over every
interleaving of `_consumer` with three producers that each end with one
`END_SIGNAL` and return, and whose attachment producers return too, with every
message fitting the queue's memory ceiling: no schedule runs for more than μ
steps, some schedule reaches a state where nobody can move, and wherever nobody
can move `_consumer` has left its loop, every producer has finished, the queue is
empty, and `_consumer` has yielded, each as often as it was put and in some
interleaving of the producers' orders, exactly the documents the three producers
and their attachment producers put. -/
theorem harvest_completes (space blog page : Script α) (h0 : space.EndsOnce)
    (h1 : blog.EndsOnce) (h2 : page.EndsOnce) (r0 : space.Returns) (r1 : blog.Returns)
    (r2 : page.Returns) (hfit : ∀ m, size m ≤ QUEUE_MEM_SIZE) :
    (∀ ps s, (harvestStart space blog page).run size ps = some s →
        ps.length ≤ (harvestStart space blog page).work) ∧
      (∃ ps s, (harvestStart space blog page).run size ps = some s ∧
        ∀ p, s.step size p = none) ∧
      ∀ s, Reachable size (harvestStart space blog page) s → (∀ p, s.step size p = none) →
        s.consumerDone = true ∧ (∀ t ∈ s.tasks, t.done = true) ∧ s.queue = [] ∧
        s.yielded.Perm (space.items ++ blog.items ++ page.items) :=
  ⟨fun _ _ h => Nat.le_of_add_right_le (Harvest.run_length_le size h),
    Harvest.exists_run_stuck size _,
    fun _ hr hstuck => hr.complete_of_stuck size h0 h1 h2 r0 r1 r2 hfit hstuck⟩

end Runs

theorem sample_returns : sampleSpace.Returns ∧ sampleBlog.Returns ∧ samplePage.Returns :=
  ⟨⟨rfl, fun _ _ h => by simp [sampleSpace] at h⟩,
    ⟨rfl, fun _ _ h => by simp [sampleBlog] at h; exact h.2⟩,
    ⟨rfl, fun _ _ h => by simp [samplePage] at h⟩⟩

theorem harvest_completes_sample :
    sampleSpace.EndsOnce ∧ sampleBlog.EndsOnce ∧ samplePage.EndsOnce ∧
      sampleSpace.Returns ∧ sampleBlog.Returns ∧ samplePage.Returns ∧
      (∀ m : Msg Nat, (fun _ => 1) m ≤ QUEUE_MEM_SIZE) ∧
      ((∀ ps s, (harvestStart sampleSpace sampleBlog samplePage).run (fun _ => 1) ps = some s →
          ps.length ≤ (harvestStart sampleSpace sampleBlog samplePage).work) ∧
        (∃ ps s, (harvestStart sampleSpace sampleBlog samplePage).run (fun _ => 1) ps = some s ∧
          ∀ p, s.step (fun _ => 1) p = none) ∧
        ∀ s, Reachable (fun _ => 1) (harvestStart sampleSpace sampleBlog samplePage) s →
          (∀ p, s.step (fun _ => 1) p = none) →
          s.consumerDone = true ∧ (∀ t ∈ s.tasks, t.done = true) ∧ s.queue = [] ∧
          s.yielded.Perm (sampleSpace.items ++ sampleBlog.items ++ samplePage.items)) :=
  ⟨sample_endsOnce.1, sample_endsOnce.2.1, sample_endsOnce.2.2, sample_returns.1,
    sample_returns.2.1, sample_returns.2.2, fun _ => show 1 ≤ QUEUE_MEM_SIZE by decide,
    harvest_completes _ _ _ _ sample_endsOnce.1 sample_endsOnce.2.1 sample_endsOnce.2.2
      sample_returns.1 sample_returns.2.1 sample_returns.2.2
      fun _ => show 1 ≤ QUEUE_MEM_SIZE by decide⟩

/-! ### The connector's harvest -/

namespace Connector

variable (c : Connector)

/-- **The connector's harvest ends, having yielded every document once.**  For
every server and configuration under which `_space_coro`, the two
`_page_blog_coro` producers `get_docs` submits and every `_attachment_coro` they
submit return, and every way of sizing messages that fits the queue's memory
ceiling: `get_docs` starts the harvest, no schedule of it runs for more than μ
steps, some schedule reaches a state where nobody can move, and wherever nobody
can move `_consumer` has left its loop, every producer has finished, the queue is
empty, and `_consumer` has yielded, each as often as it was put, exactly the
spaces, blog posts, pages and attachments the producers put. -/
theorem harvest_yields_everything (size : Msg HarvestItem → Nat)
    (hspace : c.spaceCoro.Returns) (hblog : (c.contentProducer BLOGPOST).Returns)
    (hpage : (c.contentProducer PAGE).Returns) (hfit : ∀ m, size m ≤ QUEUE_MEM_SIZE) :
    ∃ start, c.harvest = some start ∧
      (∀ ps s, start.run size ps = some s → ps.length ≤ start.work) ∧
      (∃ ps s, start.run size ps = some s ∧ ∀ p, s.step size p = none) ∧
      ∀ s, Reachable size start s → (∀ p, s.step size p = none) →
        s.consumerDone = true ∧ (∀ t ∈ s.tasks, t.done = true) ∧ s.queue = [] ∧
        s.yielded.Perm (c.spaceCoro.items ++ (c.contentProducer BLOGPOST).items ++
          (c.contentProducer PAGE).items) :=
  ⟨_, getDocs_eq _ _ _, fun _ _ h => Nat.le_of_add_right_le (Harvest.run_length_le size h),
    Harvest.exists_run_stuck size _, fun _ hr hstuck =>
      hr.complete_of_stuck size (c.spaceCoro_endsOnce hspace.noRaise.1)
        (c.pageBlogCoro_endsOnce hblog.noRaise) (c.pageBlogCoro_endsOnce hpage.noRaise)
        hspace hblog hpage hfit hstuck⟩

end Connector

theorem harvest_yields_everything_secured :
    securedSite.spaceCoro.Returns ∧ (securedSite.contentProducer BLOGPOST).Returns ∧
      (securedSite.contentProducer PAGE).Returns ∧
      (∀ m : Msg HarvestItem, (fun _ => 1) m ≤ QUEUE_MEM_SIZE) ∧
      ∃ start, securedSite.harvest = some start ∧
        (∀ ps s, start.run (fun _ => 1) ps = some s → ps.length ≤ start.work) ∧
        (∃ ps s, start.run (fun _ => 1) ps = some s ∧ ∀ p, s.step (fun _ => 1) p = none) ∧
        ∀ s, Reachable (fun _ => 1) start s → (∀ p, s.step (fun _ => 1) p = none) →
          s.consumerDone = true ∧ (∀ t ∈ s.tasks, t.done = true) ∧ s.queue = [] ∧
          s.yielded.Perm (securedSite.spaceCoro.items ++
            (securedSite.contentProducer BLOGPOST).items ++
            (securedSite.contentProducer PAGE).items) :=
  have hspace := (securedSite_returns BLOGPOST (by simp)).1
  have hblog := (securedSite_returns BLOGPOST (by simp)).2
  have hpage := (securedSite_returns PAGE (by simp)).2
  have hfit : ∀ m : Msg HarvestItem, (fun _ => 1) m ≤ QUEUE_MEM_SIZE :=
    fun _ => show 1 ≤ QUEUE_MEM_SIZE by decide
  ⟨hspace, hblog, hpage, hfit,
    securedSite.harvest_yields_everything (fun _ => 1) hspace hblog hpage hfit⟩

end Confluence
