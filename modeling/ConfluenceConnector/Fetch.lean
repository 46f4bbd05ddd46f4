import Mathlib.Data.List.Infix
import ConfluenceConnector.AccessControl

/-!
The generators that turn pages into documents, and the check of configured spaces.

`fetch_spaces`, `fetch_documents` and `fetch_attachments` each run over the pages
`paginated_api_call` yields, and over the `results` of each page, and build one
record per result by subscripting it.  A result without a field they subscript
raises `KeyError` out of the generator: nothing catches it here, and the producers
that drive these generators do not catch it either.

`fetch_documents` keeps one variable across the results of a page,
`attachment_count`, which it sets to `0` once per page and overwrites only for a
document whose `children.attachment` is non-empty.  A document without attachments
that follows one with attachments on the same page is yielded with the earlier
document's count.

`_remote_validation` collects the keys of the spaces on the pages it is given.
Those are the pages `paginated_api_call` yields, which stop quietly at the first
fetch that fails after its retries, so spaces listed further on are reported as
unavailable.
-/

namespace Confluence

/-- `WILDCARD`. -/
def WILDCARD : String := "*"

/-- `SPACE_QUERY`. -/
def SPACE_QUERY : String := "limit=100&expand=permissions"

/-- `ATTACHMENT_QUERY`. -/
def ATTACHMENT_QUERY : String := "limit=100&expand=version"

/-- `CONTENT_QUERY`. -/
def CONTENT_QUERY : String :=
  "limit=50&expand=children.attachment,history.lastUpdated,body.storage,space," ++
    "space.permissions,restrictions.read.restrictions.user,restrictions.read.restrictions.group"

/-- `v in xs` for a list of strings: only a string equal to one of them. -/
def Json.isIn (v : Json) (xs : List String) : Bool := xs.any v.isStr

/-- The results of one page, carried through a per-result `step` that threads a
state: what the steps yield, and the exception that stopped them, if any. -/
def scanResults {σ α : Type} (step : σ → Json → Except PyError (σ × Option α)) :
    σ → List Json → List α × Option PyError
  | _, [] => ([], none)
  | s, x :: xs =>
    match step s x with
    | .error e => ([], some e)
    | .ok (s', y) =>
      let rest := scanResults step s' xs
      (y.toList ++ rest.1, rest.2)

/-- `async for response in pages: ... for result in response.get("results", []):`
with a state set to `init` at the start of each page.  The generator ends as the
pages did when every result went through. -/
def scanPages {σ α : Type} (init : σ) (step : σ → Json → Except PyError (σ × Option α))
    (ending : Ending) : List Json → GenRun α
  | [] => ⟨[], ending⟩
  | page :: pages =>
    match page.getD "results" (.arr []) >>= Json.iter with
    | .error e => ⟨[], .raised e⟩
    | .ok results =>
      match scanResults step init results with
      | (ys, some e) => ⟨ys, .raised e⟩
      | (ys, none) =>
        let rest := scanPages init step ending pages
        ⟨ys ++ rest.yields, rest.ending⟩

/-- The body of the loop of `fetch_spaces` for one `space`: the space document and
its permissions, when the space is configured.  `now` is what `iso_utc()` gives. -/
def spaceResult (host : String) (spaces : List String) (now : String) (space : Json) :
    Except PyError (Option (Json × Json)) := do
  let spaceUrl ← joinOnto host (← (← (← space.index "_links").index "webui").dropFirst)
  let configured ←
    if spaces == [WILDCARD] then pure true else (·.isIn spaces) <$> space.index "key"
  if configured then
    let document := Json.obj [("_id", ← space.index "id"), ("type", .str "Space"),
      ("title", ← space.index "name"), ("_timestamp", .str now), ("url", .str spaceUrl)]
    return some (document, ← space.getD "permissions" (.arr []))
  else
    return none

/-- `fetch_spaces()`, over the pages `paginated_api_call` yields and the way it ended. -/
def fetchSpaces (host : String) (spaces : List String) (now : String) (pages : GenRun Json) :
    GenRun (Json × Json) :=
  scanPages () (fun _ space => (fun y => ((), y)) <$> spaceResult host spaces now space)
    pages.ending pages.yields

/-- What `fetch_documents` yields with each document. -/
structure DocumentRecord where
  document : Json
  attachmentCount : Json
  permissions : Json
  restrictions : Json

/-- `if document.get("children").get("attachment"): attachment_count = ...`: the
count a document leaves, given the one before it. -/
def updateAttachmentCount (attachmentCount document : Json) : Except PyError Json := do
  if (← (← document.get "children").get "attachment").truthy then
    (← (← document.index "children").index "attachment").index "size"
  else pure attachmentCount

/-- The document dict `fetch_documents` yields, with its URL. -/
def documentDict (host : String) (updatedTime document : Json) : Except PyError Json := do
  let documentUrl ←
    joinOnto host (← (← (← document.index "_links").index "webui").dropFirst)
  return .obj [("_id", ← document.index "id"), ("type", ← document.index "type"),
    ("_timestamp", updatedTime), ("title", ← document.index "title"),
    ("space", ← (← document.index "space").index "name"),
    ("body", ← (← (← document.index "body").index "storage").index "value"),
    ("url", .str documentUrl)]

/-- The body of the loop of `fetch_documents` for one `document`, given the
`attachment_count` left by the documents before it on the page. -/
def documentResult (host : String) (attachmentCount : Json) (document : Json) :
    Except PyError (Json × Option DocumentRecord) := do
  let updatedTime ← (← (← document.index "history").index "lastUpdated").index "when"
  let attachmentCount ← updateAttachmentCount attachmentCount document
  let record ← documentDict host updatedTime document
  let permissions ← (← document.getD "space" (.obj [])).getD "permissions" (.arr [])
  let restrictions ← (← (← document.getD "restrictions" (.obj [])).getD "read" (.obj [])).getD
    "restrictions" (.obj [])
  return (attachmentCount, some ⟨record, attachmentCount, permissions, restrictions⟩)

/-- `fetch_documents(api_query)`: `attachment_count` is set to `0` at each page. -/
def fetchDocuments (host : String) (pages : GenRun Json) : GenRun DocumentRecord :=
  scanPages (.num 0) (documentResult host) pages.ending pages.yields

/-- A dict key from a value: a string is itself; the model writes another scalar
as its `str`, where Python would keep it as it is; a list or dict is unhashable. -/
def Json.asKey : Json → Except PyError String
  | .str s => .ok s
  | .arr _ => .error .typeError
  | .obj _ => .error .typeError
  | v => .ok v.toPyStr

/-- A dict display `{k₁: v₁, k₂: v₂, ...}` once its keys and values are evaluated:
every key is hashed, then the entries go in one by one. -/
def dictDisplay (kvs : List (Json × Json)) : Except PyError Json := do
  let entries ← kvs.mapM fun kv => (·, kv.2) <$> kv.1.asKey
  return .obj (entries.foldl Json.insertEntry [])

/-- The body of the loop of `fetch_attachments` for one `attachment` of the content
named by `parentName`, `parentSpace` and `parentType`. -/
def attachmentResult (host : String) (parentName parentSpace parentType : Json)
    (attachment : Json) : Except PyError (Option (Json × Json)) := do
  let attachmentUrl ←
    joinOnto host (← (← (← attachment.index "_links").index "webui").dropFirst)
  let record ← dictDisplay [(.str "type", ← attachment.index "type"),
    (.str "title", ← attachment.index "title"), (.str "_id", ← attachment.index "id"),
    (.str "space", parentSpace), (parentType, parentName),
    (.str "_timestamp", ← (← attachment.index "version").index "when"),
    (.str "size", ← (← attachment.index "extensions").index "fileSize"),
    (.str "url", .str attachmentUrl)]
  return some (record, ← (← attachment.index "_links").index "download")

/-- `fetch_attachments(content_id, parent_name, parent_space, parent_type)`. -/
def fetchAttachments (host : String) (parentName parentSpace parentType : Json)
    (pages : GenRun Json) : GenRun (Json × Json) :=
  scanPages () (fun _ a => (fun y => ((), y)) <$>
    attachmentResult host parentName parentSpace parentType a) pages.ending pages.yields

/-- The keys `[space["key"] for space in response.get("results", [])]` of one page. -/
def pageKeys (page : Json) : Except PyError (List Json) := do
  (← (← page.getD "results" (.arr [])).iter).mapM (·.index "key")

/-- A value `set(...)` can hold: lists and dicts are unhashable. -/
def Json.hashable : Json → Bool
  | .arr _ => false
  | .obj _ => false
  | _ => true

/-- `', '.join(xs)`. -/
def joinStrings (xs : List Json) : Except PyError String :=
  (", ".intercalate ·) <$> xs.mapM Json.asStr

/-- `_remote_validation()`, over the pages `paginated_api_call` yields and the way it
ended: `none` while the pagination has not finished. -/
def remoteValidation (spaces : List String) (pages : GenRun Json) :
    Option (Except PyError Unit) :=
  if spaces == [WILDCARD] then some (.ok ())
  else
    match pages.yields.mapM pageKeys with
    | .error e => some (.error e)
    | .ok keyLists =>
      match pages.ending with
      | .running => none
      | .raised e => some (.error e)
      | .returned =>
        let spaceKeys := keyLists.flatten
        if spaceKeys.all Json.hashable then
          let unavailable := (spaces.filter fun s => !spaceKeys.any (·.isStr s)).dedup
          if unavailable.isEmpty then some (.ok ())
          else some do
            let available ← joinStrings spaceKeys
            throw (.configurableFieldValueError ("Spaces '" ++ ", ".intercalate unavailable ++
              "' are not available. Available spaces are: '" ++ available ++ "'"))
        else some (.error .typeError)

/-! ### Reading results -/

@[simp] theorem Json.isStr_eq_true {v : Json} {s : String} : v.isStr s = true ↔ v = .str s := by
  cases v <;> simp [Json.isStr]

theorem Json.index_eq_ok {v r : Json} {k : String} (h : v.index k = .ok r) (d : Json) :
    v.fieldD k d = r := by
  cases v with
  | obj kvs =>
    simp only [Json.index] at h
    split at h <;> simp_all [Json.fieldD]
  | _ => cases h

theorem Json.get_eq_ok {v r : Json} {k : String} (h : v.get k = .ok r) :
    v.fieldD k .null = r :=
  (Json.getD_eq_ok h).1.symm

section Scan

variable {σ α : Type} {step : σ → Json → Except PyError (σ × Option α)} {y : α}

/-- What the results of a page yield, each came from one result the step took. -/
theorem mem_scanResults {s : σ} {xs : List Json} (h : y ∈ (scanResults step s xs).1) :
    ∃ x ∈ xs, ∃ s₀ s₁, step s₀ x = .ok (s₁, some y) := by
  induction xs generalizing s with
  | nil => cases h
  | cons x xs ih =>
    simp only [scanResults] at h
    split at h
    · cases h
    next s' y' hx =>
      rcases List.mem_append.1 h with hy | hy
      · cases y' with
        | none => cases hy
        | some y' =>
          exact ⟨x, List.mem_cons_self _ _, s, s', by rw [List.mem_singleton.1 hy, hx]⟩
      · obtain ⟨x', hx', hstep⟩ := ih hy
        exact ⟨x', List.mem_cons_of_mem _ hx', hstep⟩

/-- What the pages yield, each came from one result on one of the pages. -/
theorem mem_scanPages {init : σ} {ending : Ending} {pages : List Json}
    (h : y ∈ (scanPages init step ending pages).yields) :
    ∃ page ∈ pages, ∃ results, (page.getD "results" (.arr []) >>= Json.iter) = .ok results ∧
      ∃ x ∈ results, ∃ s₀ s₁, step s₀ x = .ok (s₁, some y) := by
  induction pages with
  | nil => cases h
  | cons page pages ih =>
    simp only [scanPages] at h
    split at h
    · cases h
    next results hres =>
      suffices hy : y ∈ (scanResults step init results).1 ∨
          y ∈ (scanPages init step ending pages).yields by
        rcases hy with hy | hy
        · exact ⟨page, List.mem_cons_self _ _, results, hres, mem_scanResults hy⟩
        · obtain ⟨page', hp', rest⟩ := ih hy
          exact ⟨page', List.mem_cons_of_mem _ hp', rest⟩
      split at h
      next hys => exact .inl (by rw [hys]; exact h)
      next hys =>
        rw [hys]
        exact List.mem_append.1 h

end Scan

/-! ### The attachment count of `fetch_documents` -/

/-- A document's own attachment count: `children.attachment.size`, when
`children.attachment` is present and non-empty. -/
def ownAttachmentCount (document : Json) : Option Json :=
  if ((document.fieldD "children" .null).fieldD "attachment" .null).truthy then
    some (((document.fieldD "children" .null).fieldD "attachment" .null).fieldD "size" .null)
  else none

/-- The count carried to the last document of `pre`, the documents of a page up to
and including it: the own count of the last of them that has one, else `init`. -/
def carriedCount (init : Json) (pre : List Json) : Json :=
  (pre.reverse.findSome? ownAttachmentCount).getD init

theorem carriedCount_cons (init d : Json) (pre : List Json) :
    carriedCount init (d :: pre) = carriedCount ((ownAttachmentCount d).getD init) pre := by
  unfold carriedCount
  rw [List.reverse_cons, List.findSome?_append]
  cases pre.reverse.findSome? ownAttachmentCount <;> cases h : ownAttachmentCount d <;>
    simp [List.findSome?, h]

theorem updateAttachmentCount_ok {count count' document : Json}
    (h : updateAttachmentCount count document = .ok count') :
    count' = (ownAttachmentCount document).getD count := by
  simp only [updateAttachmentCount, except_bind_eq_ok] at h
  obtain ⟨children, hc, attachment, ha, h⟩ := h
  rw [← Json.get_eq_ok hc] at ha
  rw [← Json.get_eq_ok ha] at h
  unfold ownAttachmentCount
  split at h
  next htrue =>
    simp only [except_bind_eq_ok] at h
    obtain ⟨c, hc', a, ha', hs⟩ := h
    rw [← Json.index_eq_ok hc' .null] at ha'
    rw [← Json.index_eq_ok ha' .null] at hs
    simpa [htrue] using (Json.index_eq_ok hs .null).symm
  next hfalse => simpa [hfalse, pure, Except.pure] using h.symm

/-- One document through the loop body: the count it leaves is its own count, or the
one it was given, and that count is what is yielded with it. -/
theorem documentResult_count {host : String} {count count' document : Json}
    {y : Option DocumentRecord} (h : documentResult host count document = .ok (count', y)) :
    count' = (ownAttachmentCount document).getD count ∧
      ∃ record, y = some record ∧ record.attachmentCount = count' := by
  simp only [documentResult, except_bind_eq_ok] at h
  obtain ⟨_, _, _, _, _, _, count'', hcount, _, _, _, _, _, _, _, _, _, _, _, _, h⟩ := h
  simp only [pure, Except.pure, Except.ok.injEq, Prod.mk.injEq] at h
  obtain ⟨rfl, rfl⟩ := h
  exact ⟨updateAttachmentCount_ok hcount, _, rfl, rfl⟩

theorem scanResults_documentResult_counts {host : String} {init : Json} {docs : List Json}
    {records : List DocumentRecord}
    (h : scanResults (documentResult host) init docs = (records, none)) :
    records.map (·.attachmentCount) = docs.inits.tail.map (carriedCount init) := by
  induction docs generalizing init records with
  | nil => cases h; rfl
  | cons d ds ih =>
    simp only [scanResults] at h
    split at h
    · cases h
    next count' y hd =>
      obtain ⟨rfl, record, rfl, hrec⟩ := documentResult_count hd
      simp only [Option.toList_some, List.singleton_append, Prod.mk.injEq] at h
      obtain ⟨rfl, hrest⟩ := h
      have hinits : ds.inits = [] :: ds.inits.tail := by cases ds <;> rfl
      have hstep : carriedCount init ∘ (d :: ·) =
          carriedCount ((ownAttachmentCount d).getD init) := funext (carriedCount_cons init d)
      rw [List.inits_cons, List.tail_cons, hinits]
      simp only [List.map_cons, List.map_map, hstep, hrec, ← ih (Prod.ext rfl hrest),
        carriedCount_cons]
      rfl

/-- **The count `fetch_documents` yields with each document of a page.**  When every
document of the page goes through the loop body, the count yielded with each is the
own count of the last document at or before it on the page that has one, and `0`
when none has: a document without attachments inherits the count of an earlier one. -/
theorem fetchDocuments_page_counts (host : String) (docs : List Json)
    (records : List DocumentRecord)
    (h : scanResults (documentResult host) (.num 0) docs = (records, none)) :
    records.map (·.attachmentCount) = docs.inits.tail.map (carriedCount (.num 0)) :=
  scanResults_documentResult_counts h

/-- A document of a content search, as `CONTENT_QUERY` expands it, with the given
`children` expansion. -/
def searchDocument (id : String) (children : Json) : Json :=
  .obj [("id", .str id), ("type", .str "page"), ("title", .str id),
    ("history", .obj [("lastUpdated", .obj [("when", .str "2023-01-01T00:00:00.000Z")])]),
    ("children", children), ("_links", .obj [("webui", .str ("/spaces/DEV/pages/" ++ id))]),
    ("space", .obj [("name", .str "DEV")]),
    ("body", .obj [("storage", .obj [("value", .str "")])])]

/-- Two documents of one page: the first has two attachments, the second has none,
and its `children` carries no `attachment` expansion. -/
def carriedDocuments : List Json :=
  [searchDocument "1" (.obj [("attachment", .obj [("results", .arr []), ("size", .num 2)])]),
    searchDocument "2" (.obj [])]

theorem fetchDocuments_page_counts_carried :
    ∃ records, scanResults (documentResult "https://x.atlassian.net/wiki") (.num 0)
        carriedDocuments = (records, none) ∧
      records.map (·.attachmentCount) = carriedDocuments.inits.tail.map (carriedCount (.num 0)) :=
  ⟨_, rfl, fetchDocuments_page_counts _ _ _ rfl⟩

/-! ### `_remote_validation` -/

/-- The keys of the spaces a page lists. -/
def listedKeysOf (page : Json) : List Json :=
  (page.fieldD "results" (.arr [])).elems.map (·.fieldD "key" .null)

/-- The keys of the spaces listed on `pages`, page after page. -/
def listedKeys (pages : List Json) : List Json := (pages.map listedKeysOf).flatten

/-- A listing page as the API sends it: a dict whose `results`, when present, is a
list of dicts, each with a string `key`. -/
def ListsKeyedSpaces (page : Json) : Prop :=
  ∃ kvs results, page = .obj kvs ∧ (kvs.lookup "results").getD (.arr []) = .arr results ∧
    ∀ space ∈ results, ∃ skvs k, space = .obj skvs ∧ skvs.lookup "key" = some (.str k)

theorem pageKeys_ok {page : Json} (h : ListsKeyedSpaces page) :
    pageKeys page = .ok (listedKeysOf page) := by
  obtain ⟨kvs, results, rfl, hres, hkeys⟩ := h
  have hmap : results.mapM (·.index "key") = .ok (results.map (·.fieldD "key" .null)) :=
    mapM_eq_ok_map fun space hs => by
      obtain ⟨skvs, k, rfl, hk⟩ := hkeys space hs
      simp [Json.index, Json.fieldD, hk]
  simpa [pageKeys, listedKeysOf, Json.fieldD, hres, Json.iter, Json.elems] using hmap

theorem listedKeys_str {pages : List Json} (hpages : ∀ page ∈ pages, ListsKeyedSpaces page) :
    ∀ key ∈ listedKeys pages, ∃ k, key = .str k := by
  intro key hk
  obtain ⟨_, hl, hkey⟩ := List.mem_flatten.1 hk
  obtain ⟨page, hp, rfl⟩ := List.mem_map.1 hl
  obtain ⟨space, hs, rfl⟩ := List.mem_map.1 hkey
  obtain ⟨kvs, results, rfl, hres, hkeys⟩ := hpages page hp
  simp only [Json.fieldD, hres, Json.elems] at hs
  obtain ⟨skvs, k, rfl, hlk⟩ := hkeys space hs
  exact ⟨k, by simp [Json.fieldD, hlk]⟩

theorem joinStrings_ok {keys : List Json} (h : ∀ key ∈ keys, ∃ k, key = .str k) :
    ∃ s, joinStrings keys = .ok s := by
  have hmap : keys.mapM Json.asStr = .ok (keys.map Json.toPyStr) :=
    mapM_eq_ok_map fun key hkey => by obtain ⟨k, rfl⟩ := h key hkey; rfl
  exact ⟨_, by rw [joinStrings, hmap]; rfl⟩

theorem unavailable_isEmpty (spaces : List String) (keys : List Json) :
    (spaces.filter fun s => !keys.any (·.isStr s)).dedup.isEmpty = true ↔
      ∀ s ∈ spaces, Json.str s ∈ keys := by
  simp [List.filter_eq_nil_iff]

/-- **What `_remote_validation` decides, on the pages it was given.**  For a
configured list other than the wildcard alone, and a finished run of listing pages
that list their spaces with string keys, the validation passes exactly when every
configured key is among the keys on those pages, and raises
`ConfigurableFieldValueError` exactly when one is missing from them. -/
theorem remoteValidation_finished (spaces : List String) (pages : List Json)
    (hspaces : spaces ≠ [WILDCARD]) (hpages : ∀ page ∈ pages, ListsKeyedSpaces page) :
    (remoteValidation spaces ⟨pages, .returned⟩ = some (.ok ()) ∧
        ∀ s ∈ spaces, Json.str s ∈ listedKeys pages) ∨
      ((∃ msg, remoteValidation spaces ⟨pages, .returned⟩ =
          some (.error (.configurableFieldValueError msg))) ∧
        ∃ s ∈ spaces, Json.str s ∉ listedKeys pages) := by
  have hkeys : pages.mapM pageKeys = .ok (pages.map listedKeysOf) :=
    mapM_eq_ok_map fun page hp => pageKeys_ok (hpages page hp)
  have hstr := listedKeys_str hpages
  have hhash : (listedKeys pages).all Json.hashable = true :=
    List.all_eq_true.2 fun key hk => by obtain ⟨k, rfl⟩ := hstr key hk; rfl
  obtain ⟨available, hjoin⟩ := joinStrings_ok hstr
  have hw : (spaces == [WILDCARD]) = false := by simpa using hspaces
  have hflat : (pages.map listedKeysOf).flatten = listedKeys pages := rfl
  simp only [remoteValidation, hw, hkeys, hflat, hhash, hjoin, Bool.false_eq_true, if_false,
    if_true]
  by_cases hall : ∀ s ∈ spaces, Json.str s ∈ listedKeys pages
  · exact .inl ⟨by simp only [(unavailable_isEmpty _ _).2 hall, if_true], hall⟩
  · have hne := mt (unavailable_isEmpty spaces (listedKeys pages)).1 hall
    push_neg at hall
    refine .inr ⟨?_, hall⟩
    simp only [hne, Bool.false_eq_true, if_false]
    exact ⟨_, rfl⟩

theorem remoteValidation_finished_two_pages :
    ["A", "B"] ≠ [WILDCARD] ∧ (∀ page ∈ [listingPage "A" [], listingPage "B" []],
        ListsKeyedSpaces page) ∧
      ((remoteValidation ["A", "B"] ⟨[listingPage "A" [], listingPage "B" []], .returned⟩ =
          some (.ok ()) ∧
        ∀ s ∈ ["A", "B"],
          Json.str s ∈ listedKeys [listingPage "A" [], listingPage "B" []]) ∨
      ((∃ msg, remoteValidation ["A", "B"] ⟨[listingPage "A" [], listingPage "B" []],
          .returned⟩ = some (.error (.configurableFieldValueError msg))) ∧
        ∃ s ∈ ["A", "B"],
          Json.str s ∉ listedKeys [listingPage "A" [], listingPage "B" []])) := by
  have hw : ["A", "B"] ≠ [WILDCARD] := by decide
  have hp : ∀ page ∈ [listingPage "A" [], listingPage "B" []], ListsKeyedSpaces page := by
    intro page hpage
    rcases List.mem_pair.1 hpage with rfl | rfl <;> exact ⟨_, _, rfl, rfl, by simp⟩
  exact ⟨hw, hp, remoteValidation_finished _ _ hw hp⟩


/-- The listing fails at its second page: `paginated_api_call` ends quietly after
the first, and the validation reports `B`, which the server lists on the second
page, as unavailable. -/
theorem remoteValidation_reports_unfetched_space :
    listedKeys (pagesFrom "https://x.atlassian.net/wiki" (twoPageListing false) 3
        "https://x.atlassian.net/wiki/rest/api/space?limit=100&expand=permissions").1 =
      [.str "A", .str "B"] ∧
    remoteValidation ["A", "B"] (paginatedApiCall "https://x.atlassian.net/wiki"
        (fun url => (twoPageListing true url).call) .space [("api_query", SPACE_QUERY)] 3) =
      some (.error (.configurableFieldValueError
        "Spaces 'B' are not available. Available spaces are: 'A'")) := ⟨rfl, rfl⟩

end Confluence
