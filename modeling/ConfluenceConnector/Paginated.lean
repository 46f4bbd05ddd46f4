import ConfluenceConnector.Client

/-!
`paginated_api_call`: following `_links.next` until it runs out.

The generator formats the first URL from `URLS[url_name]`, then loops: it runs
`api_call` on the current URL, and for each response `api_call` yields it parses
the body, reads `_links`, yields the page, and either returns (no `next`) or moves
the current URL to `host_url` joined with `next[1:]`.  The whole loop body sits in
a `try` whose handler logs and breaks, so whatever goes wrong after the first URL
is formatted ends the sequence quietly: a failed fetch, a body that is not JSON,
a body that is JSON but not an object (`.get` raises before the yield), or a
`_links` or `next` of the wrong kind (which raises after the yield).

`api_call` is a parameter here: `call url` is what it yields for `url` and how it
ends.  Pagination can go on for ever, so the loop carries a fuel, and the
results say what happens within any fuel.
-/

namespace Confluence

/-- The keys of `URLS`. -/
inductive UrlName
  | space
  | content
  | attachment
  | search
  | user
  deriving Repr, DecidableEq

/-- The keyword arguments of `paginated_api_call`, as `str.format` reads them. -/
abbrev UrlKwargs := List (String × String)

/-- `url_kwargs[k]` inside `str.format`: a missing keyword raises `KeyError`. -/
def UrlKwargs.arg (kw : UrlKwargs) (k : String) : Except PyError String :=
  match kw.lookup k with
  | some v => .ok v
  | none => .error (.keyError k)

/-- `URLS[url_name].format(**url_kwargs)`. -/
def UrlName.format (name : UrlName) (kw : UrlKwargs) : Except PyError String :=
  match name with
  | .space => return "rest/api/space?" ++ (← kw.arg "api_query")
  | .content => return "rest/api/content/search?" ++ (← kw.arg "api_query")
  | .attachment =>
    return "rest/api/content/" ++ (← kw.arg "id") ++ "/child/attachment?" ++
      (← kw.arg "api_query")
  | .search => return "rest/api/search?cql=" ++ (← kw.arg "query")
  | .user => return "rest/api/3/users/search"

/-- How far a generator got. -/
inductive Ending
  /-- It finished. -/
  | returned
  /-- It raised to its caller. -/
  | raised (e : PyError)
  /-- The model's fuel ran out first. -/
  | running
  deriving Repr, DecidableEq

/-- What a generator yielded, and how far it got. -/
structure GenRun (α : Type) where
  yields : List α
  ending : Ending

/-- How the `async for` over one `api_call` run left the `while True` body. -/
inductive PageExit
  /-- Every response was read: go round again with this URL. -/
  | again (url : String)
  /-- The `return` after a page without `next`. -/
  | returned
  /-- An exception, which the handler logs before it breaks out of the loop. -/
  | caught

/-- The body of `async for response in self.api_call(url=url)`, response after
response, then the way `api_call` itself ended.  Returns the pages yielded and how
the `async for` was left. -/
def readPages (host : String) :
    String → List Response → Option PyError → List Json × PageExit
  | url, [], none => ([], .again url)
  | _, [], some _ => ([], .caught)
  | _, r :: rs, err =>
    match r.json with
    | .error _ => ([], .caught)
    | .ok j =>
      match j.get "_links" with
      | .error _ => ([], .caught)
      | .ok links =>
        let after : List Json × PageExit :=
          match links.get "next" with
          | .error _ => ([], .caught)
          | .ok .null => ([], .returned)
          | .ok next =>
            match next.dropFirst with
            | .error _ => ([], .caught)
            | .ok rest =>
              match joinOnto host rest with
              | .error _ => ([], .caught)
              | .ok url' => readPages host url' rs err
        (j :: after.1, after.2)

/-- The `while True` loop of `paginated_api_call` from the URL `url`, for at most
`fuel` passes.  `call url` is what `api_call(url)` yields and the exception it
ends with. -/
def paginatedLoop (host : String) (call : String → List Response × Option PyError) :
    Nat → String → GenRun Json
  | 0, _ => ⟨[], .running⟩
  | fuel + 1, url =>
    let read := readPages host url (call url).1 (call url).2
    match read.2 with
    | .again url' =>
      let rest := paginatedLoop host call fuel url'
      ⟨read.1 ++ rest.yields, rest.ending⟩
    | .returned => ⟨read.1, .returned⟩
    | .caught => ⟨read.1, .returned⟩

/-- `paginated_api_call(url_name, **url_kwargs)` on a client whose `host_url` is
`host`. -/
def paginatedApiCall (host : String) (call : String → List Response × Option PyError)
    (name : UrlName) (kw : UrlKwargs) (fuel : Nat) : GenRun Json :=
  match name.format kw with
  | .error e => ⟨[], .raised e⟩
  | .ok path => paginatedLoop host call fuel (pathJoin host path)


/-! ### One pass of the loop -/

/-- The URL the loop goes round with, if it does. -/
def PageExit.next? : PageExit → Option String
  | .again url => some url
  | _ => none

theorem paginatedLoop_succ (host : String) (call : String → List Response × Option PyError)
    (fuel : Nat) (url : String) :
    paginatedLoop host call (fuel + 1) url =
      match (readPages host url (call url).1 (call url).2).2.next? with
      | some url' =>
        ⟨(readPages host url (call url).1 (call url).2).1 ++
            (paginatedLoop host call fuel url').yields,
          (paginatedLoop host call fuel url').ending⟩
      | none => ⟨(readPages host url (call url).1 (call url).2).1, .returned⟩ := by
  simp only [paginatedLoop]
  split <;> simp_all [PageExit.next?]

/-! ### The pages, read off the server's answers

A page is yielded when the answer is a JSON object, and the sequence goes on from
its `next` when `_links` is an object whose `next` is a string.  An answer of any
other shape ends the sequence, as a failure after retries does.
-/

/-- What the server does with one `api_call`: one response, or a failure that
outlasts every retry. -/
inductive Answer
  | response (r : Response)
  | failed (e : PyError)

/-- What `api_call` yields for an answer, and the exception it ends with. -/
def Answer.call : Answer → List Response × Option PyError
  | .response r => ([r], none)
  | .failed e => ([], some e)

/-- A page's `_links.next`, when `_links` is an object and `next` a string. -/
def nextLink : Json → Option String
  | .obj kvs =>
    match kvs.lookup "_links" with
    | some (.obj links) =>
      match links.lookup "next" with
      | some (.str s) => some s
      | _ => none
    | _ => none
  | _ => none

/-- The page a response shows, when its body is a JSON object. -/
def objectPage (r : Response) : Option Json :=
  match r.json with
  | .ok (.obj kvs) => some (.obj kvs)
  | _ => none

/-- The pages from `url` on, within `fuel` requests, and whether the sequence ends
within them: each answer whose body is a JSON object is a page; after a page with
a `next` link the sequence goes on from `host` joined with that link minus its
first character. -/
def pagesFrom (host : String) (srv : String → Answer) : Nat → String → List Json × Bool
  | 0, _ => ([], false)
  | fuel + 1, url =>
    match srv url with
    | .failed _ => ([], true)
    | .response r =>
      match objectPage r with
      | none => ([], true)
      | some page =>
        match nextLink page with
        | none => ([page], true)
        | some next =>
          let rest := pagesFrom host srv fuel (pathJoin host (next.drop 1))
          (page :: rest.1, rest.2)

/-- Reading one response: the page is yielded when the body is a JSON object, and
the loop goes round from its `next` link when there is one. -/
theorem readPages_single (host url : String) (r : Response) :
    (readPages host url [r] none).1 = (objectPage r).toList ∧
      (readPages host url [r] none).2.next? =
        ((objectPage r).bind nextLink).map fun next => pathJoin host (next.drop 1) := by
  unfold objectPage
  rcases hj : r.json with e | j
  · simp [readPages, hj, PageExit.next?]
  · cases j with
    | obj kvs =>
      rcases hl : kvs.lookup "_links" with _ | links
      · simp [readPages, hj, hl, Json.get, Json.getD, nextLink, PageExit.next?]
      · cases links with
        | obj l =>
          rcases hn : l.lookup "next" with _ | n
          · simp [readPages, hj, hl, hn, Json.get, Json.getD, nextLink, PageExit.next?]
          · cases n <;> simp [readPages, hj, hl, hn, Json.get, Json.getD, nextLink,
              PageExit.next?, Json.dropFirst, joinOnto]
        | _ => simp [readPages, hj, hl, Json.get, Json.getD, nextLink, PageExit.next?]
    | _ => simp [readPages, Json.get, Json.getD, hj, PageExit.next?]

theorem paginatedLoop_answers (host : String) (srv : String → Answer) (fuel : Nat)
    (url : String) :
    (paginatedLoop host (fun u => (srv u).call) fuel url).yields =
        (pagesFrom host srv fuel url).1 ∧
      (paginatedLoop host (fun u => (srv u).call) fuel url).ending =
        if (pagesFrom host srv fuel url).2 then .returned else .running := by
  induction fuel generalizing url with
  | zero => exact ⟨rfl, rfl⟩
  | succ fuel ih =>
    rw [paginatedLoop_succ]
    cases hs : srv url with
    | failed e => simp [hs, Answer.call, readPages, PageExit.next?, pagesFrom]
    | response r =>
      obtain ⟨h1, h2⟩ := readPages_single host url r
      simp only [hs, Answer.call, h1, h2, pagesFrom]
      rcases hp : objectPage r with _ | page
      · simp
      · rcases hn : nextLink page with _ | next
        · simp [hn]
        · simpa [hn] using ih _

/-- **The pages `paginated_api_call` yields.**  When the first URL is built, and the
server answers each `api_call` with one response or a failure after retries, the
generator yields exactly the pages `pagesFrom` lists, in order, each once, and it
never raises: within any fuel it has either finished, when `pagesFrom` has, or is
still going. -/
theorem paginatedApiCall_pages (host : String) (srv : String → Answer) (name : UrlName)
    (kw : UrlKwargs) (path : String) (hpath : name.format kw = .ok path) (fuel : Nat) :
    (paginatedApiCall host (fun u => (srv u).call) name kw fuel).yields =
        (pagesFrom host srv fuel (pathJoin host path)).1 ∧
      (paginatedApiCall host (fun u => (srv u).call) name kw fuel).ending =
        if (pagesFrom host srv fuel (pathJoin host path)).2 then .returned else .running := by
  simp only [paginatedApiCall, hpath]
  exact paginatedLoop_answers host srv fuel _

/-- A page of the space listing with one space, `key`, and the given `_links`. -/
def listingPage (key : String) (links : List (String × Json)) : Json :=
  .obj [("results", .arr [.obj [("key", .str key)]]), ("_links", .obj links)]

/-- A space listing over two pages, at the URLs `paginated_api_call` builds on
`https://x.atlassian.net/wiki`: the first lists space `A` and links to the second,
which lists space `B`.  When `secondFails`, the fetch of the second page fails
after its retries. -/
def twoPageListing (secondFails : Bool) (url : String) : Answer :=
  if url = "https://x.atlassian.net/wiki/rest/api/space?limit=100&expand=permissions" then
    .response ⟨.ok (listingPage "A"
      [("next", .str "/rest/api/space?limit=100&expand=permissions&start=1")])⟩
  else if url =
      "https://x.atlassian.net/wiki/rest/api/space?limit=100&expand=permissions&start=1" then
    if secondFails then .failed (.clientResponseError 503)
    else .response ⟨.ok (listingPage "B" [])⟩
  else .failed (.clientResponseError 404)

theorem paginatedApiCall_pages_spaces :
    UrlName.space.format [("api_query", "limit=100&expand=permissions")] =
        .ok "rest/api/space?limit=100&expand=permissions" ∧
      (paginatedApiCall "https://x.atlassian.net/wiki" (fun u => (twoPageListing false u).call)
          .space [("api_query", "limit=100&expand=permissions")] 3).yields =
        [listingPage "A" [("next", .str "/rest/api/space?limit=100&expand=permissions&start=1")],
          listingPage "B" []] ∧
      (paginatedApiCall "https://x.atlassian.net/wiki" (fun u => (twoPageListing false u).call)
          .space [("api_query", "limit=100&expand=permissions")] 3).ending = .returned :=
  have h := paginatedApiCall_pages "https://x.atlassian.net/wiki" (twoPageListing false) .space
    [("api_query", "limit=100&expand=permissions")] "rest/api/space?limit=100&expand=permissions"
    rfl 3
  ⟨rfl, h.1.trans rfl, h.2.trans rfl⟩

/-- A body that is JSON but not an object: `json_response.get("_links")` raises
before the yield, so the page is dropped and the generator ends. -/
theorem paginatedApiCall_drops_array_body :
    paginatedApiCall "https://x.atlassian.net/wiki" (fun _ => ([⟨.ok (.arr [])⟩], none)) .space
        [("api_query", "limit=100&expand=permissions")] 1 = ⟨[], .returned⟩ := by
  simp [paginatedApiCall, UrlName.format, UrlKwargs.arg, paginatedLoop, readPages, Json.get,
    Json.getD, bind, Except.bind, pure, Except.pure]

end Confluence
