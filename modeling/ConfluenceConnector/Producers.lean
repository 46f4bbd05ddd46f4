import ConfluenceConnector.Fetch
import ConfluenceConnector.Harvest

/-!
The producer coroutines, as the steps the harvest sees them take.

`_space_coro`, `_page_blog_coro` and `_attachment_coro` each run an `async for`
over one of the fetch generators, put one queue entry per thing it yields (a
page or blog producer also submits an attachment producer for a document whose
attachment count is positive), and put `END_SIGNAL` after the loop.  Nothing in
them catches an exception, and the `END_SIGNAL` put is not in a `finally`: an
exception from the generator (a space, page or attachment without a field the
generator subscripts) or from the loop body (permissions that do not read as the
access-control code expects) leaves the coroutine before its `END_SIGNAL`.  The
harvest then never counts that producer down, and `_consumer` waits on an empty
queue for ever once the other producers are done.

The server is one function: `call url` is what `api_call(url)` yields and the
exception it ends with.  The client's session, and how retries change what a URL
answers, are the subject of `Client`; here each URL has one fixed answer.
-/

namespace Confluence

/-- `BLOGPOST`. -/
def BLOGPOST : String := "blogpost"

/-- `PAGE`. -/
def PAGE : String := "page"

/-- What `_consumer` yields: a document, and for an attachment the arguments of its
`download_attachment` partial, the download link without its first character and
the attachment. -/
abbrev HarvestItem := Json × Option (Json × Json)

/-- The connector as the producers use it. -/
structure Connector where
  /-- `confluence_client.host_url`. -/
  host : String
  /-- What `api_call(url)` yields for `url`, and the exception it ends with. -/
  call : String → List Response × Option PyError
  /-- How many pages the model follows in one pagination. -/
  fuel : Nat
  /-- `self.spaces`. -/
  spaces : List String
  /-- `self._dls_enabled()`. -/
  dls : Bool
  /-- What `iso_utc()` gives. -/
  now : String

/-- `async for y in generator: <body>` then `await self.queue.put(END_SIGNAL)`:
`body y` gives the steps for one yield and the exception it raises after them, if
any.  An exception, from a body or from the generator, ends the coroutine before
its `END_SIGNAL`. -/
def produce {β γ : Type} (endSignal : γ) (body : β → List γ × Option PyError) :
    List β → Ending → List γ × Ending
  | [], .returned => ([endSignal], .returned)
  | [], ending => ([], ending)
  | y :: ys, ending =>
    match body y with
    | (steps, some e) => (steps, .raised e)
    | (steps, none) =>
      let rest := produce endSignal body ys ending
      (steps ++ rest.1, rest.2)

namespace Connector

variable (c : Connector)

/-- `paginated_api_call(url_name, **url_kwargs)` on this connector. -/
def pages (name : UrlName) (kw : UrlKwargs) : GenRun Json :=
  paginatedApiCall c.host c.call name kw c.fuel

/-- The loop body of `_attachment_coro` for one `(attachment, download_link)`. -/
def attachmentBody (accessControl : List String) (yielded : Json × Json) :
    List (Msg HarvestItem) × Option PyError :=
  match decorateWithAccessControl c.dls yielded.1 accessControl with
  | .error e => ([], some e)
  | .ok attachment =>
    match yielded.2.dropFirst with
    | .error e => ([], some e)
    | .ok link => ([.item (attachment, some (link, attachment))], none)

/-- `_attachment_coro(document, access_control)`: the messages it puts and how it
ends. -/
def attachmentCoro (document : Json) (accessControl : List String) :
    List (Msg HarvestItem) × Ending :=
  match document.index "_id", document.index "title", document.index "space",
      document.index "type" with
  | .ok contentId, .ok parentName, .ok parentSpace, .ok parentType =>
    let run := fetchAttachments c.host parentName parentSpace parentType
      (c.pages .attachment [("api_query", ATTACHMENT_QUERY), ("id", contentId.toPyStr)])
    produce .endSignal (c.attachmentBody accessControl) run.yields run.ending
  | .error e, _, _, _ => ([], .raised e)
  | _, .error e, _, _ => ([], .raised e)
  | _, _, .error e, _ => ([], .raised e)
  | _, _, _, .error e => ([], .raised e)

/-- The loop body of `_space_coro` for one `(space, permissions)`. -/
def spaceBody (yielded : Json × Json) : List (Action HarvestItem) × Option PyError :=
  match getAccessControlFromPermission c.dls yielded.2 SPACE >>=
      decorateWithAccessControl c.dls yielded.1 with
  | .error e => ([], some e)
  | .ok space => ([.put (.item (space, none))], none)

/-- `_space_coro()`. -/
def spaceCoro : Script HarvestItem :=
  let run := fetchSpaces c.host c.spaces c.now (c.pages .space [("api_query", SPACE_QUERY)])
  let r := produce (.put .endSignal) c.spaceBody run.yields run.ending
  ⟨r.1, r.2⟩

/-- The loop body of `_page_blog_coro` for one document of type `targetType`: put
it, then submit an attachment producer when its attachment count is positive. -/
def pageBlogBody (targetType : String) (record : DocumentRecord) :
    List (Action HarvestItem) × Option PyError :=
  match documentAccessControl c.dls record.restrictions record.permissions targetType with
  | .error e => ([], some e)
  | .ok accessControl =>
    match decorateWithAccessControl c.dls record.document accessControl with
    | .error e => ([], some e)
    | .ok document =>
      match record.attachmentCount.gtZero with
      | .error e => ([.put (.item (document, none))], some e)
      | .ok false => ([.put (.item (document, none))], none)
      | .ok true =>
        let child := c.attachmentCoro document accessControl
        ([.put (.item (document, none)), .submit child.1 child.2], none)

/-- `_page_blog_coro(api_query, target_type)`. -/
def pageBlogCoro (apiQuery targetType : String) : Script HarvestItem :=
  let run := fetchDocuments c.host (c.pages .content [("api_query", apiQuery)])
  let r := produce (.put .endSignal) (c.pageBlogBody targetType) run.yields run.ending
  ⟨r.1, r.2⟩

/-- `configured_spaces_query` of `get_docs`. -/
def configuredSpacesQuery : String :=
  if c.spaces == [WILDCARD] then "cql=type="
  else "cql=space in ('" ++ "','".intercalate c.spaces ++ "') AND type="

/-- `partial(self._page_blog_coro, f"{configured_spaces_query}{targetType}&{CONTENT_QUERY}",
targetType)`, as `get_docs` submits it. -/
def contentProducer (targetType : String) : Script HarvestItem :=
  c.pageBlogCoro (c.configuredSpacesQuery ++ targetType ++ "&" ++ CONTENT_QUERY) targetType

/-- `get_docs()` without advanced rules, up to its `async for` over `_consumer`. -/
def harvest : Option (Harvest HarvestItem) :=
  getDocs c.spaceCoro (c.contentProducer BLOGPOST) (c.contentProducer PAGE)

end Connector

/-! ### Which exits put `END_SIGNAL` -/

section Produce

variable {β γ : Type} {endSignal : γ} {body : β → List γ × Option PyError}

/-- When no body step is the `END_SIGNAL` put, the coroutine puts it exactly when it
returns. -/
theorem mem_produce_iff (hbody : ∀ y, endSignal ∉ (body y).1) (ys : List β) (ending : Ending) :
    endSignal ∈ (produce endSignal body ys ending).1 ↔
      (produce endSignal body ys ending).2 = .returned := by
  induction ys with
  | nil => cases ending <;> simp [produce]
  | cons y ys ih =>
    simp only [produce]
    split <;> rename_i hy <;> have hnot := hbody y <;> rw [hy] at hnot
    · simpa using hnot
    · simp [hnot, ih]

/-- A coroutine that returns has its `END_SIGNAL` put last. -/
theorem getLast?_produce {ys : List β} {ending : Ending}
    (h : (produce endSignal body ys ending).2 = .returned) :
    (produce endSignal body ys ending).1.getLast? = some endSignal := by
  induction ys with
  | nil => cases ending <;> simp_all [produce]
  | cons y ys ih =>
    simp only [produce] at h ⊢
    split at h <;> rename_i hy
    · simp [hy] at h
    · simp only [hy] at h ⊢
      rw [List.getLast?_append, ih h]
      rfl

end Produce

namespace Connector

variable (c : Connector)

theorem spaceBody_no_end (yielded : Json × Json) :
    Action.put .endSignal ∉ (c.spaceBody yielded).1 := by
  unfold spaceBody
  split <;> simp

theorem pageBlogBody_no_end (targetType : String) (record : DocumentRecord) :
    Action.put .endSignal ∉ (c.pageBlogBody targetType record).1 := by
  unfold pageBlogBody
  repeat' split
  all_goals simp

theorem attachmentBody_no_end (accessControl : List String) (yielded : Json × Json) :
    Msg.endSignal ∉ (c.attachmentBody accessControl yielded).1 := by
  unfold attachmentBody
  repeat' split
  all_goals simp

/-- **The exits that put `END_SIGNAL`.**  Each producer puts `END_SIGNAL` exactly
when its coroutine returns, which is exactly when its fetch generator finished and
no loop body raised, and then puts it last; on every other exit it puts none. -/
theorem producers_end_signal (apiQuery targetType : String) (document : Json)
    (accessControl : List String) :
    (Action.put .endSignal ∈ c.spaceCoro.actions ↔ c.spaceCoro.ending = .returned) ∧
    (Action.put .endSignal ∈ (c.pageBlogCoro apiQuery targetType).actions ↔
      (c.pageBlogCoro apiQuery targetType).ending = .returned) ∧
    (Msg.endSignal ∈ (c.attachmentCoro document accessControl).1 ↔
      (c.attachmentCoro document accessControl).2 = .returned) ∧
    (c.spaceCoro.ending = .returned → c.spaceCoro.actions.getLast? = some (.put .endSignal)) ∧
    ((c.pageBlogCoro apiQuery targetType).ending = .returned →
      (c.pageBlogCoro apiQuery targetType).actions.getLast? = some (.put .endSignal)) ∧
    ((c.attachmentCoro document accessControl).2 = .returned →
      (c.attachmentCoro document accessControl).1.getLast? = some .endSignal) := by
  refine ⟨mem_produce_iff c.spaceBody_no_end _ _, mem_produce_iff (c.pageBlogBody_no_end _) _ _,
    ?_, getLast?_produce, getLast?_produce, ?_⟩
  · unfold attachmentCoro
    split
    · exact mem_produce_iff (c.attachmentBody_no_end _) _ _
    all_goals simp
  · unfold attachmentCoro
    split
    · exact getLast?_produce
    all_goals simp

end Connector

section Produce

variable {β γ : Type} {endSignal : γ} {body : β → List γ × Option PyError}

/-- Every step of a producer is its `END_SIGNAL` put or a step of one of its bodies. -/
theorem mem_produce {ys : List β} {ending : Ending} {a : γ}
    (ha : a ∈ (produce endSignal body ys ending).1) :
    a = endSignal ∨ ∃ y ∈ ys, a ∈ (body y).1 := by
  induction ys with
  | nil => cases ending <;> simp_all [produce]
  | cons y ys ih =>
    simp only [produce] at ha
    split at ha <;> rename_i hy
    · exact .inr ⟨y, List.mem_cons_self _ _, by simpa [hy] using ha⟩
    · simp only [hy, List.mem_append] at ha
      rcases ha with ha | ha
      · exact .inr ⟨y, List.mem_cons_self _ _, by simpa [hy] using ha⟩
      · rcases ih ha with rfl | ⟨y', hy', ha'⟩
        · exact .inl rfl
        · exact .inr ⟨y', List.mem_cons_of_mem _ hy', ha'⟩

/-- A producer that returns has put its `END_SIGNAL` once, last. -/
theorem produce_of_returned (hbody : ∀ y, endSignal ∉ (body y).1) {ys : List β}
    {ending : Ending}
    (h : (produce endSignal body ys ending).2 = .returned) :
    ∃ steps, (produce endSignal body ys ending).1 = steps ++ [endSignal] ∧
      endSignal ∉ steps := by
  induction ys with
  | nil => cases ending <;> simp_all [produce]
  | cons y ys ih =>
    simp only [produce] at h ⊢
    split at h <;> rename_i hy
    · simp [hy] at h
    · simp only [hy] at h ⊢
      obtain ⟨steps, hs, hnot⟩ := ih h
      have hy' := hbody y
      rw [hy] at hy'
      exact ⟨_ ++ steps, by rw [hs, List.append_assoc], by simp [hy', hnot]⟩

end Produce

theorem Msg.eq_map_item {α : Type} {l : List (Msg α)} (h : ∀ m ∈ l, m.isEnd = false) :
    l = (l.filterMap Msg.item?).map .item := by
  induction l with
  | nil => rfl
  | cons m l ih =>
    cases m with
    | item x => simpa [Msg.item?] using ih fun m hm => h m (List.mem_cons_of_mem _ hm)
    | endSignal => simp [Msg.isEnd] at h

section Assumption

variable {α β : Type}

/-- A producer that does not raise ends once, when every step it takes other than
its `END_SIGNAL` is regular. -/
theorem produce_endsOnce {body : β → List (Action α) × Option PyError} {ys : List β}
    {ending : Ending} (hbody : ∀ y, Action.put .endSignal ∉ (body y).1)
    (hreg : ∀ a ∈ (produce (.put .endSignal) body ys ending).1,
      a ≠ .put .endSignal → a.Regular)
    (h : ∀ e, (produce (.put .endSignal) body ys ending).2 ≠ .raised e) :
    Script.EndsOnce ⟨(produce (.put .endSignal) body ys ending).1,
      (produce (.put .endSignal) body ys ending).2⟩ := by
  cases hend : (produce (.put .endSignal) body ys ending).2 with
  | returned =>
    obtain ⟨steps, hs, hnot⟩ := produce_of_returned hbody hend
    exact ⟨steps,
      fun a ha => hreg a (hs ▸ List.mem_append_left _ ha) fun he => hnot (he ▸ ha),
      .inl ⟨rfl, hs⟩⟩
  | raised e => exact absurd hend (h e)
  | running =>
    have hnot := mt (mem_produce_iff hbody ys ending).1 (by simp [hend])
    exact ⟨_, fun a ha => hreg a ha fun he => hnot (he ▸ ha), .inr ⟨rfl, rfl⟩⟩

/-- An attachment producer that does not raise, submitted, is a regular action. -/
theorem produce_submit_regular {body : β → List (Msg α) × Option PyError} {ys : List β}
    {ending : Ending} (hitems : ∀ y, ∀ m ∈ (body y).1, m.isEnd = false)
    (h : ∀ e, (produce .endSignal body ys ending).2 ≠ .raised e) :
    (Action.submit (produce .endSignal body ys ending).1
      (produce .endSignal body ys ending).2).Regular := by
  have hbody : ∀ y, Msg.endSignal ∉ (body y).1 := fun y hm => by
    simpa [Msg.isEnd] using hitems y _ hm
  have hsteps : ∀ steps : List (Msg α),
      (∀ m ∈ steps, m = .endSignal ∨ ∃ y ∈ ys, m ∈ (body y).1) →
      Msg.endSignal ∉ steps → ∀ m ∈ steps, m.isEnd = false := by
    intro steps hmem hnot m hm
    rcases hmem m hm with rfl | ⟨y, -, hy⟩
    · exact absurd hm hnot
    · exact hitems y m hy
  cases hend : (produce .endSignal body ys ending).2 with
  | returned =>
    obtain ⟨steps, hs, hnot⟩ := produce_of_returned hbody hend
    refine ⟨steps.filterMap Msg.item?, .inl ⟨rfl, ?_⟩⟩
    rw [hs, ← Msg.eq_map_item (hsteps steps
      (fun m hm => mem_produce (hs ▸ List.mem_append_left _ hm)) hnot)]
  | raised e => exact absurd hend (h e)
  | running =>
    have hnot := mt (mem_produce_iff hbody ys ending).1 (by simp [hend])
    exact ⟨_, .inr ⟨rfl, Msg.eq_map_item (hsteps _ (fun m hm => mem_produce hm) hnot)⟩⟩

end Assumption

/-- Neither the producer nor any attachment producer it submits raises. -/
def Script.NoRaise {α : Type} (sc : Script α) : Prop :=
  (∀ e, sc.ending ≠ .raised e) ∧
    ∀ child ending, Action.submit child ending ∈ sc.actions → ∀ e, ending ≠ .raised e

/-- A producer whose coroutine returns, and whose attachment producers return. -/
def Script.Returns {α : Type} (sc : Script α) : Prop :=
  sc.ending = .returned ∧
    ∀ child ending, Action.submit child ending ∈ sc.actions → ending = .returned

theorem Script.Returns.noRaise {α : Type} {sc : Script α} (h : sc.Returns) : sc.NoRaise :=
  ⟨fun e he => (by rw [h.1] at he; cases he),
    fun child ending hm e he => by rw [h.2 child ending hm] at he; cases he⟩

namespace Connector

variable (c : Connector)

theorem attachmentBody_items (accessControl : List String) (yielded : Json × Json) :
    ∀ m ∈ (c.attachmentBody accessControl yielded).1, m.isEnd = false := by
  unfold attachmentBody
  repeat' split
  all_goals simp [Msg.isEnd]

theorem attachmentCoro_regular {document : Json} {accessControl : List String}
    (h : ∀ e, (c.attachmentCoro document accessControl).2 ≠ .raised e) :
    (Action.submit (c.attachmentCoro document accessControl).1
      (c.attachmentCoro document accessControl).2).Regular := by
  revert h
  unfold attachmentCoro
  split
  · exact produce_submit_regular (c.attachmentBody_items _)
  all_goals exact fun h => absurd rfl (h _)

theorem spaceCoro_endsOnce (h : ∀ e, c.spaceCoro.ending ≠ .raised e) :
    c.spaceCoro.EndsOnce := by
  refine produce_endsOnce c.spaceBody_no_end (fun a ha hne => ?_) h
  rcases mem_produce ha with rfl | ⟨y, -, hy⟩
  · exact absurd rfl hne
  · unfold spaceBody at hy
    split at hy <;> simp_all [Action.Regular, Msg.isEnd]

theorem pageBlogCoro_endsOnce {apiQuery targetType : String}
    (h : (c.pageBlogCoro apiQuery targetType).NoRaise) :
    (c.pageBlogCoro apiQuery targetType).EndsOnce := by
  refine produce_endsOnce (c.pageBlogBody_no_end targetType) (fun a ha hne => ?_) h.1
  rcases mem_produce ha with rfl | ⟨y, -, hy⟩
  · exact absurd rfl hne
  · unfold pageBlogBody at hy
    repeat' split at hy
    all_goals simp only [List.mem_cons, List.mem_singleton, List.not_mem_nil, or_false] at hy
    all_goals rcases hy with rfl | rfl
    all_goals first
      | rfl
      | exact c.attachmentCoro_regular (h.2 _ _ ha)

/-- **The producers meet the harvest's assumption when nothing raises.**  If neither
`_space_coro`, nor the two `_page_blog_coro` `get_docs` submits, nor any attachment
producer they submit raises, `get_docs`'s submissions succeed and the harvest starts
on three producers that each end once: each puts its `END_SIGNAL` last and once, or
is still fetching, and so does every attachment producer it submits. -/
theorem harvest_endsOnce (hspace : ∀ e, c.spaceCoro.ending ≠ .raised e)
    (hblog : (c.contentProducer BLOGPOST).NoRaise) (hpage : (c.contentProducer PAGE).NoRaise) :
    c.harvest = some (harvestStart c.spaceCoro (c.contentProducer BLOGPOST)
        (c.contentProducer PAGE)) ∧
      c.spaceCoro.EndsOnce ∧ (c.contentProducer BLOGPOST).EndsOnce ∧
      (c.contentProducer PAGE).EndsOnce :=
  ⟨getDocs_eq _ _ _, c.spaceCoro_endsOnce hspace, c.pageBlogCoro_endsOnce hblog,
    c.pageBlogCoro_endsOnce hpage⟩

/-- **The connector's harvest, when nothing raises.**  For every server and
configuration under which no producer raises, and every way of sizing messages
that fits the queue's memory ceiling, `get_docs` starts the harvest, and over every
interleaving no reachable state has `_consumer` and every unfinished producer
waiting at once; once `_consumer` leaves its loop the queue is empty, `_consumer`
has yielded the items it read in the order it read them, and it has read from each
producer, submitted attachment producers included, exactly what that producer put. -/
theorem harvest_drains_without_deadlock (size : Msg HarvestItem → Nat)
    (hspace : ∀ e, c.spaceCoro.ending ≠ .raised e)
    (hblog : (c.contentProducer BLOGPOST).NoRaise) (hpage : (c.contentProducer PAGE).NoRaise)
    (hfit : ∀ m, size m ≤ QUEUE_MEM_SIZE) :
    ∃ start, c.harvest = some start ∧ ∀ s, Reachable size start s →
      ¬ s.Deadlocked size ∧ (s.consumerDone = true → s.queue = [] ∧
        s.yielded = s.taken.filterMap (·.2.item?) ∧ ∀ i t, s.tasks[i]? = some t →
          (s.taken.filter (·.1 == i)).map (·.2) = t.script.messages) := by
  refine ⟨_, getDocs_eq _ _ _, fun s hr => ?_⟩
  have hs := hr.inv size (c.spaceCoro_endsOnce hspace) (c.pageBlogCoro_endsOnce hblog)
    (c.pageBlogCoro_endsOnce hpage)
  exact ⟨hs.not_deadlocked size hfit (hr.not_raised size hfit),
    fun hdone => (hs.consumerDone_drained hdone).2⟩

end Connector

/-- Read restrictions naming one atlassian user. -/
def userRestriction : Json :=
  .obj [("user", .obj [("results", .arr [.obj [("type", .str "known"),
    ("accountType", .str "atlassian"), ("accountId", .str "u1")]])])]

/-- The one result a secured site answers every listing with.  It reads as a
space, as a page restricted to one user with one attachment, and as that
attachment. -/
def securedResult : Json :=
  .obj [("id", .str "7"), ("key", .str "DOC"), ("name", .str "Docs"), ("type", .str "page"),
    ("title", .str "Plan"),
    ("_links", .obj [("webui", .str "/spaces/DOC/pages/7"), ("download", .str "/download/7")]),
    ("permissions", .arr []),
    ("history", .obj [("lastUpdated", .obj [("when", .str "2023-01-01")])]),
    ("children", .obj [("attachment", .obj [("size", .num 1)])]),
    ("space", .obj [("name", .str "Docs"), ("permissions", .arr [])]),
    ("body", .obj [("storage", .obj [("value", .str "<p>plan</p>")])]),
    ("restrictions", .obj [("read", .obj [("restrictions", userRestriction)])]),
    ("version", .obj [("when", .str "2023-01-02")]),
    ("extensions", .obj [("fileSize", .num 10)])]

/-- A site with document-level security on that answers every URL with one page
of `securedResult`: its space producer puts one space, and each content producer
puts the page and submits an attachment producer that puts its attachment. -/
def securedSite : Connector where
  host := "https://x.atlassian.net/wiki"
  call _ := ([⟨.ok (.obj [("results", .arr [securedResult])])⟩], none)
  fuel := 2
  spaces := [WILDCARD]
  dls := true
  now := "2023-01-01T00:00:00+00:00"

/-- The secured site's producers return, and so does the attachment producer each
content producer submits. -/
theorem securedSite_returns (targetType : String) (ht : targetType ∈ [BLOGPOST, PAGE]) :
    securedSite.spaceCoro.Returns ∧ (securedSite.contentProducer targetType).Returns := by
  obtain ⟨x, hspace⟩ : ∃ x, securedSite.spaceCoro.actions = [.put (.item x), .put .endSignal] :=
    ⟨_, rfl⟩
  obtain ⟨x, child, hact⟩ : ∃ x child, (securedSite.contentProducer targetType).actions =
      [.put (.item x), .submit child .returned, .put .endSignal] := by
    simp only [List.mem_cons, List.mem_singleton, List.not_mem_nil, or_false] at ht
    rcases ht with rfl | rfl <;> exact ⟨_, _, rfl⟩
  have hend : (securedSite.contentProducer targetType).ending = .returned := by
    simp only [List.mem_cons, List.mem_singleton, List.not_mem_nil, or_false] at ht
    rcases ht with rfl | rfl <;> rfl
  refine ⟨⟨rfl, fun _ _ h => ?_⟩, ⟨hend, fun _ _ h => ?_⟩⟩
  · simp [hspace] at h
  · simp only [hact, List.mem_cons, List.mem_singleton, List.not_mem_nil, or_false] at h
    rcases h with h | ⟨-, rfl⟩ | h
    · cases h
    · rfl
    · cases h

theorem harvest_endsOnce_secured :
    (∀ e, securedSite.spaceCoro.ending ≠ .raised e) ∧
      (securedSite.contentProducer BLOGPOST).NoRaise ∧
      (securedSite.contentProducer PAGE).NoRaise ∧
      (securedSite.harvest = some (harvestStart securedSite.spaceCoro
          (securedSite.contentProducer BLOGPOST) (securedSite.contentProducer PAGE)) ∧
        securedSite.spaceCoro.EndsOnce ∧ (securedSite.contentProducer BLOGPOST).EndsOnce ∧
        (securedSite.contentProducer PAGE).EndsOnce) :=
  have hspace := (securedSite_returns BLOGPOST (by simp)).1.noRaise.1
  have hblog := (securedSite_returns BLOGPOST (by simp)).2.noRaise
  have hpage := (securedSite_returns PAGE (by simp)).2.noRaise
  ⟨hspace, hblog, hpage, securedSite.harvest_endsOnce hspace hblog hpage⟩

theorem harvest_drains_without_deadlock_secured :
    (∀ e, securedSite.spaceCoro.ending ≠ .raised e) ∧
      (securedSite.contentProducer BLOGPOST).NoRaise ∧
      (securedSite.contentProducer PAGE).NoRaise ∧
      (∀ m : Msg HarvestItem, (fun _ => 1) m ≤ QUEUE_MEM_SIZE) ∧
      ∃ start, securedSite.harvest = some start ∧ ∀ s, Reachable (fun _ => 1) start s →
        ¬ s.Deadlocked (fun _ => 1) ∧ (s.consumerDone = true → s.queue = [] ∧
          s.yielded = s.taken.filterMap (·.2.item?) ∧ ∀ i t, s.tasks[i]? = some t →
            (s.taken.filter (·.1 == i)).map (·.2) = t.script.messages) :=
  have hspace := (securedSite_returns BLOGPOST (by simp)).1.noRaise.1
  have hblog := (securedSite_returns BLOGPOST (by simp)).2.noRaise
  have hpage := (securedSite_returns PAGE (by simp)).2.noRaise
  have hfit : ∀ m : Msg HarvestItem, (fun _ => 1) m ≤ QUEUE_MEM_SIZE :=
    fun _ => show 1 ≤ QUEUE_MEM_SIZE by decide
  ⟨hspace, hblog, hpage, hfit,
    securedSite.harvest_drains_without_deadlock (fun _ => 1) hspace hblog hpage hfit⟩

/-! ### A page fetch that fails -/

section Produce

variable {β γ : Type} {endSignal : γ} {body : β → List γ × Option PyError}

/-- A generator that finished, with no loop body raising: the coroutine takes each
body's steps in turn and then puts its `END_SIGNAL`. -/
theorem produce_of_bodies {ys : List β} (h : ∀ y ∈ ys, (body y).2 = none) :
    produce endSignal body ys .returned =
      (ys.flatMap (fun y => (body y).1) ++ [endSignal], .returned) := by
  induction ys with
  | nil => rfl
  | cons y ys ih =>
    obtain ⟨steps, hy⟩ : ∃ steps, body y = (steps, none) :=
      ⟨_, Prod.ext rfl (h y (List.mem_cons_self _ _))⟩
    simp [produce, hy, ih fun y' hy' => h y' (List.mem_cons_of_mem _ hy')]

end Produce

theorem UrlName.format_content (apiQuery : String) :
    UrlName.content.format [("api_query", apiQuery)] =
      .ok ("rest/api/content/search?" ++ apiQuery) := by
  simp [UrlName.format, UrlKwargs.arg]

namespace Connector

variable (c : Connector)

/-- **A failed page fetch stays inside its producer.**  Let the server answer each
URL with one response or with a failure after retries, and let the search's
pagination end within the fuel, at the first of: a page without `next`, a body
that is not an object, a fetch that fails; `pages` are the pages before that
point.  If every result on them reads as a document and no loop body raises,
`_page_blog_coro` returns, having put exactly what its loop body puts for the
documents of those pages, in order, and then `END_SIGNAL`.  A fetch that fails
drops the pages after it and nothing else, and no exception reaches `get_docs`. -/
theorem pageBlogCoro_stops_at_failure (srv : String → Answer)
    (hcall : c.call = fun u => (srv u).call) (apiQuery targetType : String) (pages : List Json)
    (hpages : pagesFrom c.host srv c.fuel
      (pathJoin c.host ("rest/api/content/search?" ++ apiQuery)) = (pages, true))
    (hscan : (fetchDocuments c.host ⟨pages, .returned⟩).ending = .returned)
    (hbody : ∀ r ∈ (fetchDocuments c.host ⟨pages, .returned⟩).yields,
      (c.pageBlogBody targetType r).2 = none) :
    c.pageBlogCoro apiQuery targetType =
      ⟨(fetchDocuments c.host ⟨pages, .returned⟩).yields.flatMap
        (fun r => (c.pageBlogBody targetType r).1) ++ [.put .endSignal], .returned⟩ := by
  have hrun : c.pages .content [("api_query", apiQuery)] = ⟨pages, .returned⟩ := by
    obtain ⟨h1, h2⟩ := paginatedLoop_answers c.host srv c.fuel
      (pathJoin c.host ("rest/api/content/search?" ++ apiQuery))
    rw [hpages] at h1 h2
    simp only [Connector.pages, paginatedApiCall, UrlName.format_content, hcall]
    exact congrArg₂ GenRun.mk h1 h2
  simp only [pageBlogCoro, hrun, hscan, produce_of_bodies hbody]

end Connector

/-- The first page of a blog search: one post, and a link to a second page. -/
def flakyFirstPage : Json :=
  .obj [("results", .arr [searchDocument "1" (.obj [])]),
    ("_links", .obj [("next", .str "/rest/api/content/search?start=50")])]

/-- A blog search that answers every URL with `flakyFirstPage`, except the second
page, which fails after the client's retries. -/
def flakyBlogServer (url : String) : Answer :=
  if url = "https://x.atlassian.net/wiki/rest/api/content/search?start=50" then
    .failed .serverDisconnectedError
  else .response ⟨.ok flakyFirstPage⟩

/-- A site whose searches go through `flakyBlogServer`. -/
def flakySite : Connector where
  host := "https://x.atlassian.net/wiki"
  call url := (flakyBlogServer url).call
  fuel := 3
  spaces := [WILDCARD]
  dls := false
  now := "2023-01-01T00:00:00+00:00"

theorem pageBlogCoro_stops_at_failure_flaky :
    pagesFrom flakySite.host flakyBlogServer flakySite.fuel
        (pathJoin flakySite.host ("rest/api/content/search?" ++ "cql=type=blogpost")) =
          ([flakyFirstPage], true) ∧
      (fetchDocuments flakySite.host ⟨[flakyFirstPage], .returned⟩).ending = .returned ∧
      (∀ r ∈ (fetchDocuments flakySite.host ⟨[flakyFirstPage], .returned⟩).yields,
        (flakySite.pageBlogBody BLOGPOST r).2 = none) ∧
      flakySite.pageBlogCoro "cql=type=blogpost" BLOGPOST =
        ⟨(fetchDocuments flakySite.host ⟨[flakyFirstPage], .returned⟩).yields.flatMap
          (fun r => (flakySite.pageBlogBody BLOGPOST r).1) ++ [.put .endSignal], .returned⟩ := by
  have hpages : pagesFrom flakySite.host flakyBlogServer flakySite.fuel
      (pathJoin flakySite.host ("rest/api/content/search?" ++ "cql=type=blogpost")) =
        ([flakyFirstPage], true) := rfl
  have hscan : (fetchDocuments flakySite.host ⟨[flakyFirstPage], .returned⟩).ending =
      .returned := rfl
  have hall : (fetchDocuments flakySite.host ⟨[flakyFirstPage], .returned⟩).yields.all
      (fun r => (flakySite.pageBlogBody BLOGPOST r).2.isNone) = true := rfl
  have hbody : ∀ r ∈ (fetchDocuments flakySite.host ⟨[flakyFirstPage], .returned⟩).yields,
      (flakySite.pageBlogBody BLOGPOST r).2 = none := fun r hr =>
    Option.isNone_iff_eq_none.mp (List.all_eq_true.mp hall r hr)
  exact ⟨hpages, hscan, hbody, flakySite.pageBlogCoro_stops_at_failure flakyBlogServer rfl _
    BLOGPOST _ hpages hscan hbody⟩

/-! ### A space without links, and a count carried to the next document -/

/-- A site whose space listing has one space without `_links`, and whose content
searches find nothing. -/
def spaceWithoutLinks : Connector where
  host := "https://x.atlassian.net/wiki"
  call url :=
    if url = "https://x.atlassian.net/wiki/rest/api/space?limit=100&expand=permissions" then
      ([⟨.ok (.obj [("results", .arr [.obj [("key", .str "A")]])])⟩], none)
    else ([⟨.ok (.obj [("results", .arr [])])⟩], none)
  fuel := 2
  spaces := [WILDCARD]
  dls := false
  now := "2023-01-01T00:00:00+00:00"

/-- `fetch_spaces` raises `KeyError('_links')` inside `_space_coro`, which leaves
before its `END_SIGNAL`.  Once the two content producers have put theirs and
`_consumer` has read them, `fetcher_count` is stuck at 1: every producer has
finished, the queue is empty, and no party can ever move again. -/
theorem spaceCoro_without_links_hangs_consumer :
    spaceWithoutLinks.spaceCoro = ⟨[], .raised (.keyError "_links")⟩ ∧
      ∃ start s, spaceWithoutLinks.harvest = some start ∧ Reachable (fun _ => 1) start s ∧
        s.ConsumerWaits ∧ s.fetcherCount = 1 ∧ (∀ t ∈ s.tasks, t.done = true) ∧
        ∀ p, s.step (fun _ => 1) p = none := by
  refine ⟨rfl, ?_⟩
  have hrun : ((harvestStart spaceWithoutLinks.spaceCoro
      (spaceWithoutLinks.contentProducer BLOGPOST) (spaceWithoutLinks.contentProducer PAGE)).run
        (fun _ => 1) [.producer 1, .producer 2, .consumer, .consumer]).map
      (fun s => !s.consumerDone && s.fetcherCount == 1 && s.queue.isEmpty &&
        s.tasks.all (·.done)) = some true := rfl
  obtain ⟨s, hr, hP⟩ := Reachable.of_run (fun _ => 1) hrun
  simp only [Bool.and_eq_true, Bool.not_eq_true', beq_iff_eq, List.isEmpty_iff,
    List.all_eq_true] at hP
  obtain ⟨⟨⟨hcd, hcount⟩, hq⟩, hdone⟩ := hP
  have hw : s.ConsumerWaits := ⟨hcd, by omega, hq⟩
  exact ⟨_, s, getDocs_eq _ _ _, hr, hw, hcount, hdone, Harvest.step_eq_none_of_done _ hw hdone⟩

/-- A site whose content searches answer one page with `carriedDocuments`: a
document with two attachments, then one whose `children` has no attachment
expansion. -/
def carriedSite : Connector where
  host := "https://x.atlassian.net/wiki"
  call _ := ([⟨.ok (.obj [("results", .arr carriedDocuments)])⟩], none)
  fuel := 2
  spaces := [WILDCARD]
  dls := false
  now := "2023-01-01T00:00:00+00:00"

/-- The second document has no attachments of its own, yet `fetch_documents` yields
it with the first one's count, 2, and `_page_blog_coro` submits an attachment
producer (and adds 1 to `fetcher_count`) after each of the two documents. -/
theorem pageBlogCoro_submits_for_carried_count :
    ownAttachmentCount (searchDocument "2" (.obj [])) = none ∧
      (fetchDocuments carriedSite.host (carriedSite.pages .content
          [("api_query", "cql=type=page&" ++ CONTENT_QUERY)])).yields.map (·.attachmentCount) =
        [.num 2, .num 2] ∧
      (carriedSite.pageBlogCoro ("cql=type=page&" ++ CONTENT_QUERY) PAGE).actions.map
        Action.isPut = [true, false, true, false, true] := ⟨rfl, rfl, rfl⟩

end Confluence
