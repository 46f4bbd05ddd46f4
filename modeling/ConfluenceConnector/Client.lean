import Mathlib.Algebra.Order.Ring.Nat
import ConfluenceConnector.Python

/-!
The client's session, and one run of `api_call`.

`ConfluenceClient` keeps one `aiohttp.ClientSession` for every producer.
`_get_session` makes it on first use and returns the stored one afterwards;
`close_session` closes it and forgets it.  `api_call` is a retry loop around one
`GET`: a failed attempt bumps `retry_counter`, gives up once the counter passes
`retry_count`, and otherwise sleeps `RETRY_INTERVAL ** retry_counter` seconds before
the next attempt.  A `ServerDisconnectedError` additionally closes the stored
session.

The loop is modelled over an arbitrary `attempt` function, so that what the
server does is a parameter and what `api_call` does with it is not; `apiCall` then
plugs in the real request, which goes through `_get_session`.

The `yield response` sits inside the `try`, but when the caller resumes the
generator all that runs there is `break` and the exit of the `async with`, which
releases the response; for these `GET`s aiohttp's release does not raise.  So a
response ends the loop, and an attempt is modelled as raising or responding.
The handler closes `self.session` without resetting it to `None`, so
`_get_session` keeps handing out the closed session, on which every later request
of every producer fails.
-/

namespace Confluence

/-- `RETRY_INTERVAL`: the base of the back-off, in seconds. -/
def RETRY_INTERVAL : Nat := 2

/-- An `aiohttp.ClientSession`: which one it is, and whether it has been closed. -/
structure Session where
  serial : Nat
  closed : Bool
  deriving Repr, DecidableEq

/-- The state of a `ConfluenceClient` that requests read and write. -/
structure ConfluenceClient where
  /-- `self.session`. -/
  session : Option Session
  /-- How many sessions have been made, which names the next one (ghost). -/
  created : Nat
  deriving Repr, DecidableEq

namespace ConfluenceClient

/-- A client as `__init__` leaves it. -/
def fresh : ConfluenceClient := ⟨none, 0⟩

/-- `_get_session`.  A `ClientSession` is always truthy, so a stored session is
returned whether or not it has been closed. -/
def getSession (c : ConfluenceClient) : ConfluenceClient × Session :=
  match c.session with
  | some s => (c, s)
  | none => (⟨some ⟨c.created, false⟩, c.created + 1⟩, ⟨c.created, false⟩)

/-- `close_session`: close the stored session, if any, and forget it. -/
def closeSession (c : ConfluenceClient) : ConfluenceClient := { c with session := none }

/-- `await self.session.close()` in `api_call`'s handler: `self.session` stays set. -/
def closeStored (c : ConfluenceClient) : ConfluenceClient :=
  { c with session := c.session.map fun s => { s with closed := true } }

/-- The handler's `if isinstance(exception, ServerDisconnectedError):
await self.session.close()`. -/
def closeOnDisconnect (e : PyError) (c : ConfluenceClient) : ConfluenceClient :=
  if e = .serverDisconnectedError then c.closeStored else c

theorem getSession_session (c : ConfluenceClient) :
    (c.getSession).1.session = some (c.getSession).2 := by
  unfold getSession; split <;> simp_all

end ConfluenceClient

/-- A response as its reader sees it: `await response.json()` gives a value or raises. -/
structure Response where
  json : Except PyError Json

/-- What the server does with one request. -/
inductive Outcome
  /-- The request raises before there is a response. -/
  | raised (e : PyError)
  /-- A response, which `api_call` yields; leaving the `async with` when the caller
  resumes releases it without raising. -/
  | responded (r : Response)

/-- What one run of `api_call` shows its caller and the clock. -/
inductive ApiEvent
  | attempt
  | yielded (r : Response)
  | slept (secs : Nat)

/-- One run of `api_call`: its events in order, the exception it ends with, and
the client it leaves. -/
structure ApiRun where
  events : List ApiEvent
  raised : Option PyError
  client : ConfluenceClient

namespace ApiEvent

/-- The response of a `yielded` event. -/
def response? : ApiEvent → Option Response
  | .yielded r => some r
  | _ => none

/-- The length of a `slept` event. -/
def sleep? : ApiEvent → Option Nat
  | .slept n => some n
  | _ => none

/-- Whether the event is a request attempt. -/
def isAttempt : ApiEvent → Bool
  | .attempt => true
  | _ => false

end ApiEvent

namespace ApiRun

/-- The responses the run yields, in order. -/
def responses (r : ApiRun) : List Response := r.events.filterMap ApiEvent.response?

/-- The sleeps the run takes, in order. -/
def sleeps (r : ApiRun) : List Nat := r.events.filterMap ApiEvent.sleep?

/-- How many requests the run attempts. -/
def attempts (r : ApiRun) : Nat := r.events.countP ApiEvent.isAttempt

end ApiRun

/-- The events of one pass of the loop body: the attempt, and the response if one
was yielded. -/
def Outcome.events : Outcome → List ApiEvent
  | .raised _ => [.attempt]
  | .responded r => [.attempt, .yielded r]

/-- The exception that ends one pass of the loop body, if any. -/
def Outcome.exception : Outcome → Option PyError
  | .raised e => some e
  | .responded _ => none

/-- The `while True` loop of `api_call(url)` from `retry_counter = counter`.
`attempt k c` is the `k`-th request, made with the client in state `c`. -/
def apiCallLoop (retryCount : Int)
    (attempt : Nat → ConfluenceClient → ConfluenceClient × Outcome)
    (counter : Nat) (c : ConfluenceClient) : ApiRun :=
  let (c, o) := attempt counter c
  match o.exception with
  | none => ⟨o.events, none, c⟩
  | some e =>
    let c := c.closeOnDisconnect e
    if retryCount < counter + 1 then ⟨o.events, some e, c⟩
    else
      let rest := apiCallLoop retryCount attempt (counter + 1) c
      ⟨o.events ++ .slept (RETRY_INTERVAL ^ (counter + 1)) :: rest.events, rest.raised,
        rest.client⟩
termination_by (retryCount + 1 - counter).toNat

/-- `self._get_session().get(url=url, ...)`: a closed session raises before
anything is sent; an open one passes the server's answer on. -/
def ConfluenceClient.request (c : ConfluenceClient) (o : Outcome) : ConfluenceClient × Outcome :=
  let (c, s) := c.getSession
  (c, if s.closed then .raised .sessionClosed else o)

/-- `api_call(url)` with `self.retry_count = retryCount`; `server k` is what the
server does with the `k`-th attempt. -/
def apiCall (retryCount : Int) (c : ConfluenceClient) (server : Nat → Outcome) : ApiRun :=
  apiCallLoop retryCount (fun k c => c.request (server k)) 0 c

end Confluence

namespace Confluence

/-! ### One pass of the loop

A pass of `api_call`'s loop body ends one of three ways: the attempt gives a
response and the loop breaks; the attempt fails and the
counter has passed `retry_count`, so the exception is raised; or it fails with
budget left, so the loop sleeps and goes round again.  Everything below is proved
from these three equations.
-/

section Loop

variable {retryCount : Int} {attempt : Nat → ConfluenceClient → ConfluenceClient × Outcome}
  {counter : Nat} {c c' : ConfluenceClient} {o : Outcome} {e : PyError}

theorem apiCallLoop_done (h : attempt counter c = (c', o)) (he : o.exception = none) :
    apiCallLoop retryCount attempt counter c = ⟨o.events, none, c'⟩ := by
  rw [apiCallLoop, h]; simp only [he]

theorem apiCallLoop_gives_up (h : attempt counter c = (c', o)) (he : o.exception = some e)
    (hn : retryCount < counter + 1) :
    apiCallLoop retryCount attempt counter c = ⟨o.events, some e, c'.closeOnDisconnect e⟩ := by
  rw [apiCallLoop, h]; simp only [he, hn, if_true]

theorem apiCallLoop_retries (h : attempt counter c = (c', o)) (he : o.exception = some e)
    (hn : ¬retryCount < counter + 1) :
    apiCallLoop retryCount attempt counter c =
      ⟨o.events ++ .slept (RETRY_INTERVAL ^ (counter + 1)) ::
          (apiCallLoop retryCount attempt (counter + 1) (c'.closeOnDisconnect e)).events,
        (apiCallLoop retryCount attempt (counter + 1) (c'.closeOnDisconnect e)).raised,
        (apiCallLoop retryCount attempt (counter + 1) (c'.closeOnDisconnect e)).client⟩ := by
  rw [apiCallLoop, h]; simp only [he, hn, if_false]

end Loop

@[simp] theorem Outcome.countP_events (o : Outcome) :
    o.events.countP ApiEvent.isAttempt = 1 := by
  cases o <;> rfl

@[simp] theorem Outcome.sleeps_events (o : Outcome) : o.events.filterMap ApiEvent.sleep? = [] := by
  cases o <;> rfl

/-! ### The retry budget

However the attempts go, the loop makes at most `retry_count + 1` of them, and
the sleeps between them are the back-off `2, 4, ..., 2 ^ k` after the first `k`
failures, never more than `2 ^ (retry_count + 1) - 2` seconds in all.
-/

/-- The back-off after `k` failures counted from `counter`: `RETRY_INTERVAL ^ i`
after the `i`-th. -/
def backoff (counter k : Nat) : List Nat :=
  (List.range k).map fun i => RETRY_INTERVAL ^ (counter + i + 1)

theorem backoff_succ (counter k : Nat) :
    backoff counter (k + 1) = RETRY_INTERVAL ^ (counter + 1) :: backoff (counter + 1) k := by
  simp only [backoff, List.range_succ_eq_map, List.map_cons, List.map_map]
  congr 1
  refine List.map_congr_left fun i _ => ?_
  show RETRY_INTERVAL ^ (counter + (i + 1) + 1) = _
  congr 1
  omega

theorem backoff_sum (counter k : Nat) :
    (backoff counter k).sum + RETRY_INTERVAL ^ (counter + 1) =
      RETRY_INTERVAL ^ (counter + k + 1) := by
  induction k generalizing counter with
  | zero => simp [backoff]
  | succ k ih =>
    rw [backoff_succ, List.sum_cons]
    have := ih (counter + 1)
    rw [show counter + 1 + k + 1 = counter + (k + 1) + 1 by omega,
      Nat.pow_succ RETRY_INTERVAL (counter + 1)] at this
    simp only [RETRY_INTERVAL] at this ⊢
    omega

theorem apiCallLoop_budget (retryCount : Int)
    (attempt : Nat → ConfluenceClient → ConfluenceClient × Outcome) (counter : Nat)
    (c : ConfluenceClient) :
    ∃ k, (apiCallLoop retryCount attempt counter c).attempts = k + 1 ∧
      (apiCallLoop retryCount attempt counter c).sleeps = backoff counter k ∧
      (k = 0 ∨ (counter + k : Int) ≤ retryCount) := by
  induction counter, c using apiCallLoop.induct retryCount attempt with
  | case1 counter c c' o h he =>
    refine ⟨0, ?_, ?_, .inl rfl⟩ <;>
      simp [apiCallLoop_done h he, ApiRun.attempts, ApiRun.sleeps, backoff]
  | case2 counter c c' o h e he hn =>
    refine ⟨0, ?_, ?_, .inl rfl⟩ <;>
      simp [apiCallLoop_gives_up h he hn, ApiRun.attempts, ApiRun.sleeps, backoff]
  | case3 counter c c' o h e he _ hn ih =>
    obtain ⟨k, hk, hs, hb⟩ := ih
    simp only [ApiRun.attempts, ApiRun.sleeps] at hk hs
    refine ⟨k + 1, ?_, ?_, .inr (by omega)⟩
    · simp [ApiRun.attempts, apiCallLoop_retries h he hn, List.countP_append,
        ApiEvent.isAttempt, hk]
      omega
    · simp [ApiRun.sleeps, apiCallLoop_retries h he hn, List.filterMap_append, hs,
        backoff_succ, ApiEvent.sleep?]

/-- The back-off after at most `n` failures adds up to at most `2 ^ (n + 1) - 2` seconds. -/
theorem backoff_total_le {k n : Nat} (h : k ≤ n) :
    (backoff 0 k).sum ≤ RETRY_INTERVAL ^ (n + 1) - 2 := by
  have hpow : RETRY_INTERVAL ^ (k + 1) ≤ RETRY_INTERVAL ^ (n + 1) :=
    Nat.pow_le_pow_right (by decide) (by omega)
  have := backoff_sum 0 k
  simp only [Nat.zero_add, RETRY_INTERVAL] at this hpow ⊢
  omega

/-- **The retry budget.**  For every `retry_count` and whatever each attempt does,
`api_call` makes at most `retry_count + 1` attempts, sleeps exactly
`RETRY_INTERVAL ^ i` after its `i`-th failed attempt whenever it tries again, and
so sleeps at most `2 ^ (retry_count + 1) - 2` seconds in all. -/
theorem apiCall_retry_budget (retryCount : Int)
    (attempt : Nat → ConfluenceClient → ConfluenceClient × Outcome) (c : ConfluenceClient) :
    ∃ k ≤ retryCount.toNat,
      (apiCallLoop retryCount attempt 0 c).attempts = k + 1 ∧
      (apiCallLoop retryCount attempt 0 c).sleeps = backoff 0 k ∧
      (apiCallLoop retryCount attempt 0 c).sleeps.sum ≤
        RETRY_INTERVAL ^ (retryCount.toNat + 1) - 2 := by
  obtain ⟨k, hk, hs, hb⟩ := apiCallLoop_budget retryCount attempt 0 c
  have hkn : k ≤ retryCount.toNat := by omega
  exact ⟨k, hkn, hk, hs, hs ▸ backoff_total_le hkn⟩

/-- When every attempt raises, the loop yields nothing and raises what the last
attempt, number `max counter retry_count`, raised. -/
theorem apiCallLoop_all_raise (retryCount : Int)
    (next : Nat → ConfluenceClient → ConfluenceClient) (err : Nat → PyError)
    (counter : Nat) (c : ConfluenceClient) :
    (apiCallLoop retryCount (fun k c => (next k c, .raised (err k))) counter c).responses = [] ∧
      (apiCallLoop retryCount (fun k c => (next k c, .raised (err k))) counter c).raised =
        some (err (max counter retryCount.toNat)) := by
  induction counter, c using apiCallLoop.induct retryCount
      (fun k c => (next k c, .raised (err k))) with
  | case1 counter c c' o h he =>
    obtain ⟨rfl, rfl⟩ := Prod.mk.inj h
    cases he
  | case2 counter c c' o h e he hn =>
    rw [apiCallLoop_gives_up h he hn]
    obtain ⟨-, rfl⟩ := Prod.mk.inj h
    cases he
    exact ⟨rfl, by rw [Nat.max_eq_left (by omega)]⟩
  | case3 counter c c' o h e he _ hn ih =>
    rw [apiCallLoop_retries h he hn]
    obtain ⟨rfl, rfl⟩ := Prod.mk.inj h
    cases he
    refine ⟨by simpa [ApiRun.responses, Outcome.events, ApiEvent.response?] using ih.1, ?_⟩
    rw [ih.2, Nat.max_eq_right (by omega), Nat.max_eq_right (by omega)]

/-! ### Which response a run yields

Number the attempts of one run from `0` and let `out k` be what attempt `k` gives,
whatever it does to the client.  The loop goes round only on a failed attempt, so
the first attempt that responds ends the run with its response, and a run whose
attempts all fail within the budget raises what the last one raised.
-/

section Outcomes

variable {retryCount : Int} {next : Nat → ConfluenceClient → ConfluenceClient}
  {out : Nat → Outcome}

/-- An attempt that raised, from the first on, comes before the one that responds. -/
theorem lt_of_raised {counter i : Nat} {r : Response} {e : PyError} (hi : out i = .responded r)
    (hle : counter ≤ i) (he : (out counter).exception = some e) : counter < i :=
  Nat.lt_of_le_of_ne hle fun h => by simp [h, hi, Outcome.exception] at he

theorem apiCallLoop_first_success {i : Nat} {r : Response} (hi : out i = .responded r)
    (hin : i ≤ retryCount.toNat) (counter : Nat) (c : ConfluenceClient) (hle : counter ≤ i)
    (hfail : ∀ j, counter ≤ j → j < i → ∃ e, out j = .raised e) :
    (apiCallLoop retryCount (fun k c => (next k c, out k)) counter c).responses = [r] ∧
      (apiCallLoop retryCount (fun k c => (next k c, out k)) counter c).attempts =
        i - counter + 1 ∧
      (apiCallLoop retryCount (fun k c => (next k c, out k)) counter c).raised = none := by
  induction counter, c using apiCallLoop.induct retryCount (fun k c => (next k c, out k)) with
  | case1 counter c c' o h he =>
    obtain ⟨-, rfl⟩ := Prod.mk.inj h
    rw [apiCallLoop_done h he]
    obtain rfl : counter = i := by
      by_contra hne
      obtain ⟨e, he'⟩ := hfail counter le_rfl (by omega)
      simp [he', Outcome.exception] at he
    simp [hi, ApiRun.responses, ApiRun.attempts, Outcome.events, ApiEvent.response?,
      ApiEvent.isAttempt]
  | case2 counter c c' o h e he hn =>
    obtain ⟨-, rfl⟩ := Prod.mk.inj h
    have := lt_of_raised hi hle he
    omega
  | case3 counter c c' o h e he c₂ hn ih =>
    obtain ⟨-, rfl⟩ := Prod.mk.inj h
    have hlt := lt_of_raised hi hle he
    obtain ⟨e', he'⟩ := hfail counter le_rfl hlt
    obtain ⟨h1, h2, h3⟩ := ih (by omega) fun j hj hji => hfail j (by omega) hji
    rw [apiCallLoop_retries h he hn, show c'.closeOnDisconnect e = c₂ from rfl]
    refine ⟨by simpa [ApiRun.responses, he', Outcome.events, ApiEvent.response?] using h1,
      ?_, h3⟩
    simp [ApiRun.attempts, List.countP_append, he', Outcome.events, ApiEvent.isAttempt] at h2 ⊢
    omega

theorem apiCallLoop_raises_through (counter : Nat) (c : ConfluenceClient)
    (hle : counter ≤ retryCount.toNat)
    (hfail : ∀ j, counter ≤ j → j ≤ retryCount.toNat → ∃ e, out j = .raised e) :
    (apiCallLoop retryCount (fun k c => (next k c, out k)) counter c).responses = [] ∧
      (apiCallLoop retryCount (fun k c => (next k c, out k)) counter c).raised =
        (out retryCount.toNat).exception := by
  induction counter, c using apiCallLoop.induct retryCount (fun k c => (next k c, out k)) with
  | case1 counter c c' o h he =>
    obtain ⟨-, rfl⟩ := Prod.mk.inj h
    obtain ⟨e, he'⟩ := hfail counter le_rfl hle
    simp [he', Outcome.exception] at he
  | case2 counter c c' o h e he hn =>
    obtain ⟨-, rfl⟩ := Prod.mk.inj h
    rw [apiCallLoop_gives_up h he hn]
    obtain rfl : counter = retryCount.toNat := by omega
    obtain ⟨e', he'⟩ := hfail _ le_rfl le_rfl
    simp [he', ApiRun.responses, Outcome.events, ApiEvent.response?] at he ⊢
    exact he.symm
  | case3 counter c c' o h e he _ hn ih =>
    obtain ⟨-, rfl⟩ := Prod.mk.inj h
    obtain ⟨e', he'⟩ := hfail counter le_rfl hle
    obtain ⟨h1, h2⟩ := ih (by omega) fun j hj hjn => hfail j (by omega) hjn
    rw [apiCallLoop_retries h he hn]
    exact ⟨by simpa [ApiRun.responses, he', Outcome.events, ApiEvent.response?] using h1, h2⟩

end Outcomes

/-- **One run of `api_call`.**  For every `retry_count` and every sequence of attempt
outcomes (attempt `k`, from `0`, gives `out k` and does `next k` to the client):
the run makes `k + 1` attempts for some `k ≤ retry_count`, sleeps `2, 4, ..., 2 ^ k`
seconds between them, `2 ^ (retry_count + 1) - 2` at most in all; when attempt `i`
is the first to respond within the budget, the run yields its response once, makes
no attempt after it and raises nothing; and when every attempt within the budget
raises, the run yields nothing and raises what attempt `retry_count` raised. -/
theorem apiCall_attempt_outcomes (retryCount : Int)
    (next : Nat → ConfluenceClient → ConfluenceClient) (out : Nat → Outcome)
    (c : ConfluenceClient) :
    (∃ k ≤ retryCount.toNat,
      (apiCallLoop retryCount (fun k c => (next k c, out k)) 0 c).attempts = k + 1 ∧
      (apiCallLoop retryCount (fun k c => (next k c, out k)) 0 c).sleeps = backoff 0 k ∧
      (apiCallLoop retryCount (fun k c => (next k c, out k)) 0 c).sleeps.sum ≤
        RETRY_INTERVAL ^ (retryCount.toNat + 1) - 2) ∧
    (∀ i r, i ≤ retryCount.toNat → (∀ j < i, ∃ e, out j = .raised e) →
      out i = .responded r →
      (apiCallLoop retryCount (fun k c => (next k c, out k)) 0 c).responses = [r] ∧
      (apiCallLoop retryCount (fun k c => (next k c, out k)) 0 c).attempts = i + 1 ∧
      (apiCallLoop retryCount (fun k c => (next k c, out k)) 0 c).raised = none) ∧
    ((∀ j ≤ retryCount.toNat, ∃ e, out j = .raised e) →
      (apiCallLoop retryCount (fun k c => (next k c, out k)) 0 c).responses = [] ∧
      (apiCallLoop retryCount (fun k c => (next k c, out k)) 0 c).raised =
        (out retryCount.toNat).exception) := by
  obtain ⟨k, hk, hs, hb⟩ := apiCallLoop_budget retryCount (fun k c => (next k c, out k)) 0 c
  have hkn : k ≤ retryCount.toNat := by omega
  refine ⟨⟨k, hkn, hk, hs, hs ▸ backoff_total_le hkn⟩, fun i r hin hfail hi => ?_,
    fun hfail => apiCallLoop_raises_through 0 c (Nat.zero_le _) fun j _ hj => hfail j hj⟩
  simpa using apiCallLoop_first_success hi hin 0 c (Nat.zero_le i) fun j _ hj => hfail j hj

/-! ### The closed session

`close_session` closes the session and forgets it, so that `_get_session` makes a
new one.  The disconnect handler only closes it.  From then on `_get_session`
returns a closed session, and a request on it raises `RuntimeError` before it
reaches the server.
-/

@[simp] theorem ConfluenceClient.closeOnDisconnect_sessionClosed (c : ConfluenceClient) :
    c.closeOnDisconnect .sessionClosed = c := by
  simp [closeOnDisconnect]

theorem ConfluenceClient.request_of_closed {c : ConfluenceClient} {s : Session}
    (hs : c.session = some s) (hc : s.closed = true) (o : Outcome) :
    c.request o = (c, .raised .sessionClosed) := by
  simp [request, getSession, hs, hc]

/-- Once `self.session` holds a closed session, every attempt of `api_call` raises
`RuntimeError("Session is closed")`, whatever the server would have answered, and
the client is left as it was. -/
theorem apiCallLoop_of_closed (retryCount : Int) (server : Nat → Outcome) (counter : Nat)
    (c : ConfluenceClient) (s : Session) (hs : c.session = some s) (hc : s.closed = true) :
    (apiCallLoop retryCount (fun k c => c.request (server k)) counter c).responses = [] ∧
      (apiCallLoop retryCount (fun k c => c.request (server k)) counter c).raised =
        some .sessionClosed ∧
      (apiCallLoop retryCount (fun k c => c.request (server k)) counter c).client = c := by
  induction counter, c using apiCallLoop.induct retryCount (fun k c => c.request (server k)) with
  | case1 counter c c' o h he =>
    rw [ConfluenceClient.request_of_closed hs hc] at h
    cases h; cases he
  | case2 counter c c' o h e he hn =>
    rw [apiCallLoop_gives_up h he hn]
    rw [ConfluenceClient.request_of_closed hs hc] at h
    cases h; cases he
    exact ⟨rfl, rfl, c.closeOnDisconnect_sessionClosed⟩
  | case3 counter c c' o h e he c₂ hn ih =>
    rw [apiCallLoop_retries h he hn]
    rw [ConfluenceClient.request_of_closed hs hc] at h
    cases h; cases he
    have hc₂ : c₂ = c := c.closeOnDisconnect_sessionClosed
    obtain ⟨h1, h2, h3⟩ := ih (hc₂ ▸ hs)
    exact ⟨by simpa [ApiRun.responses, Outcome.events, ApiEvent.response?] using h1, h2,
      h3.trans hc₂⟩

/-- A server that drops the connection on the first attempt and answers every later
one. -/
def disconnectThenAnswer (k : Nat) : Outcome :=
  if k = 0 then .raised .serverDisconnectedError else .responded ⟨.ok (.obj [])⟩

/-- A disconnect on the first attempt, where the server answers every later one:
`api_call` never gets the answer, raises `RuntimeError`, and leaves a closed session
in `self.session`, on which every later `api_call` of any producer yields nothing. -/
theorem apiCall_disconnect_keeps_closed_session :
    (apiCall 3 .fresh disconnectThenAnswer).client.session = some ⟨0, true⟩ ∧
      (apiCall 3 .fresh disconnectThenAnswer).responses = [] ∧
      (apiCall 3 .fresh disconnectThenAnswer).raised = some .sessionClosed ∧
      ∀ retryCount server,
        (apiCall retryCount (apiCall 3 .fresh disconnectThenAnswer).client server).responses =
          [] := by
  have hfirst : apiCall 3 .fresh disconnectThenAnswer =
      ⟨[.attempt, .slept 2, .attempt, .slept 4, .attempt, .slept 8, .attempt],
        some .sessionClosed, ⟨some ⟨0, true⟩, 1⟩⟩ := by
    simp [apiCall, apiCallLoop, disconnectThenAnswer, ConfluenceClient.request,
      ConfluenceClient.getSession, ConfluenceClient.fresh, Outcome.exception, Outcome.events,
      ConfluenceClient.closeOnDisconnect, ConfluenceClient.closeStored, RETRY_INTERVAL]
  rw [hfirst]
  exact ⟨rfl, rfl, rfl, fun n server =>
    (apiCallLoop_of_closed n server 0 _ ⟨0, true⟩ rfl rfl).1⟩

end Confluence
