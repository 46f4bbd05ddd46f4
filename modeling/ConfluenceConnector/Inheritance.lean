import ConfluenceConnector.Completion
import ConfluenceConnector.Identities

/-!
The identities every document of the harvest carries, and the identities sync
that matches them.

`AccessControl` says what `_decorate_with_access_control` stores on one document.
Here that is followed through the producers, for every server and configuration,
with document-level security on: every space `_space_coro` puts carries exactly
the identities its permissions grant for `space`; every page or blog post
`_page_blog_coro` puts carries exactly the identities `DocumentGrants` gives it
(those of its read restrictions, or of its space's permissions when the
restrictions grant no one); and every attachment `_attachment_coro` puts for it is
one that `fetch_attachments` lists for that document's `_id`, paired with its own
download link, and carries exactly the same identities, since the attachment
producer decorates each attachment with the page's list.  By `Completion` these
documents are what `_consumer` yields.  `producers_fall_back_and_keep_wide_permissions`
runs the producers on restrictions that name only an app account and on space
permissions to administer the space, read comments and create pages: all of them
reach the spaces and pages, as `AccessControl` describes.

The identities sync yields, for each active atlassian user, a document built from
that user's own tokens, and a page whose grants name the user grants one of them.

What makes it true is that each document is built fresh: `fetch_spaces`,
`fetch_documents` and `fetch_attachments` build their dicts from fixed keys, none
of them `_allow_access_control`, so decoration adds the list rather than merging it
into one that was there.  The one key that is not fixed is the attachment's
`{parent_type: parent_name}` entry, whose key is the page's `type`.

Not proved here: what an attachment carries when its page's `type` is itself
`_allow_access_control`.  Its dict then holds the page's title under that key, and
decoration merges the title into the list, or raises when the title is not a list
of strings; the results assume the server names no content type so.
-/

namespace Confluence

/-- `doc` is the dict `kvs`, which has no `_allow_access_control` of its own, with
`_allow_access_control` added last: the identities `grants` names, each once. -/
def CarriesExactly (grants : String → Prop) (kvs : List (String × Json)) (doc : Json) : Prop :=
  kvs.lookup ACCESS_CONTROL = none ∧ ∃ tokens : List String,
    doc = .obj (kvs ++ [(ACCESS_CONTROL, .arr (tokens.map .str))]) ∧ tokens.Nodup ∧
      ∀ tok, tok ∈ tokens ↔ grants tok

/-! ### Fresh dicts -/

theorem lookup_eq_none_of_not_mem {kvs : List (String × Json)} {k : String}
    (h : k ∉ kvs.map (·.1)) : kvs.lookup k = none := by
  induction kvs with
  | nil => rfl
  | cons kv kvs ih =>
    obtain ⟨k', v⟩ := kv
    simp only [List.map_cons, List.mem_cons, not_or] at h
    rw [List.lookup_cons, ih h.2, beq_false_of_ne h.1]

/-- Reading a field other than `_allow_access_control` is not changed by adding it. -/
theorem index_append_accessControl {kvs : List (String × Json)} {k : String} {t : Json}
    (hk : k ≠ ACCESS_CONTROL) :
    (Json.obj (kvs ++ [(ACCESS_CONTROL, t)])).index k = (Json.obj kvs).index k := by
  suffices h : (kvs ++ [(ACCESS_CONTROL, t)]).lookup k = kvs.lookup k by
    simp only [Json.index, h]
  induction kvs with
  | nil => rw [List.nil_append, List.lookup_cons, beq_false_of_ne hk]
  | cons kv kvs ih =>
    obtain ⟨k', v⟩ := kv
    simp only [List.cons_append, List.lookup_cons, ih]

theorem mem_mapM_ok {ε β γ : Type} {f : β → Except ε γ} {xs : List β} {ys : List γ}
    (h : xs.mapM f = .ok ys) : ∀ y ∈ ys, ∃ x ∈ xs, f x = .ok y := by
  induction xs generalizing ys with
  | nil =>
    cases h
    simp
  | cons x xs ih =>
    simp only [List.mapM_cons, except_bind_eq_ok] at h
    obtain ⟨y, hy, ys', hys', h⟩ := h
    cases h
    intro z hz
    rcases List.mem_cons.1 hz with rfl | hz
    · exact ⟨x, List.mem_cons_self _ _, hy⟩
    · obtain ⟨x', hx', h'⟩ := ih hys' z hz
      exact ⟨x', List.mem_cons_of_mem _ hx', h'⟩

/-- A dict display none of whose keys hashes to `_allow_access_control` has none. -/
theorem dictDisplay_fresh {kvs : List (Json × Json)} {r : Json} (h : dictDisplay kvs = .ok r)
    (hkey : ∀ kv ∈ kvs, kv.1.asKey ≠ .ok ACCESS_CONTROL) :
    ∃ entries, r = .obj entries ∧ entries.lookup ACCESS_CONTROL = none := by
  simp only [dictDisplay, except_bind_eq_ok] at h
  obtain ⟨entries, hentries, h⟩ := h
  cases h
  refine ⟨_, rfl, lookup_eq_none_of_not_mem fun hmem => ?_⟩
  rcases (Json.mem_foldl_insertEntry_keys entries).1 hmem with hmem | hmem
  · cases hmem
  · obtain ⟨⟨k, v⟩, hkv, rfl⟩ := List.mem_map.1 hmem
    obtain ⟨kv, hkv', hf⟩ := mem_mapM_ok hentries _ hkv
    obtain ⟨k', hk', heq⟩ := except_map_eq_ok.1 hf
    cases heq
    exact hkey kv hkv' hk'

theorem spaceResult_fresh {host now : String} {spaces : List String} {space : Json}
    {y : Json × Json} (h : spaceResult host spaces now space = .ok (some y)) :
    ∃ kvs, y.1 = .obj kvs ∧ kvs.lookup ACCESS_CONTROL = none := by
  unfold spaceResult at h
  simp only [bind, Except.bind, pure, Except.pure, Functor.map, Except.map] at h
  repeat' split at h
  all_goals cases h
  all_goals exact ⟨_, rfl, by simp [List.lookup_cons, ACCESS_CONTROL]⟩

theorem documentDict_fresh {host : String} {updatedTime d doc : Json}
    (h : documentDict host updatedTime d = .ok doc) :
    ∃ kvs, doc = .obj kvs ∧ kvs.lookup ACCESS_CONTROL = none := by
  unfold documentDict at h
  simp only [bind, Except.bind, pure, Except.pure] at h
  repeat' split at h
  all_goals cases h
  exact ⟨_, rfl, by simp [List.lookup_cons, ACCESS_CONTROL]⟩

theorem documentResult_fresh {host : String} {count count' d : Json} {r : DocumentRecord}
    (h : documentResult host count d = .ok (count', some r)) :
    ∃ kvs, r.document = .obj kvs ∧ kvs.lookup ACCESS_CONTROL = none := by
  unfold documentResult at h
  simp only [bind, Except.bind, pure, Except.pure] at h
  repeat' split at h
  all_goals cases h
  all_goals exact documentDict_fresh ‹documentDict host _ d = .ok _›

theorem attachmentResult_fresh {host : String} {parentName parentSpace parentType a : Json}
    {y : Json × Json} (h : attachmentResult host parentName parentSpace parentType a = .ok (some y))
    (htype : parentType.asKey ≠ .ok ACCESS_CONTROL) :
    ∃ kvs, y.1 = .obj kvs ∧ kvs.lookup ACCESS_CONTROL = none := by
  unfold attachmentResult at h
  simp only [bind, Except.bind, pure, Except.pure] at h
  repeat' split at h
  all_goals cases h
  refine dictDisplay_fresh ‹dictDisplay _ = .ok _› fun kv hkv => ?_
  simp only [List.mem_cons, List.mem_singleton, List.not_mem_nil, or_false] at hkv
  rcases hkv with rfl | rfl | rfl | rfl | rfl | rfl | rfl | rfl
  all_goals first
    | exact htype
    | simp [Json.asKey, ACCESS_CONTROL]

theorem decorate_carries {kvs : List (String × Json)} {acl : List String} {doc : Json}
    {grants : String → Prop} (hfresh : kvs.lookup ACCESS_CONTROL = none)
    (h : decorateWithAccessControl true (.obj kvs) acl = .ok doc)
    (hacl : ∀ tok, tok ∈ acl ↔ grants tok) : CarriesExactly grants kvs doc := by
  rw [decorateWithAccessControl_fresh acl hfresh] at h
  cases h
  exact ⟨hfresh, acl.dedup, rfl, List.nodup_dedup acl, fun tok => by rw [List.mem_dedup, hacl]⟩

/-! ### Through the fetch generators and the producers -/

theorem mem_fetchSpaces {host now : String} {spaces : List String} {pages : GenRun Json}
    {y : Json × Json} (h : y ∈ (fetchSpaces host spaces now pages).yields) :
    ∃ space, spaceResult host spaces now space = .ok (some y) := by
  obtain ⟨_, _, _, _, space, _, _, _, hstep⟩ := mem_scanPages h
  obtain ⟨r, hr, heq⟩ := except_map_eq_ok.1 hstep
  cases heq
  exact ⟨space, hr⟩

theorem mem_fetchDocuments {host : String} {pages : GenRun Json} {r : DocumentRecord}
    (h : r ∈ (fetchDocuments host pages).yields) :
    ∃ count count' d, documentResult host count d = .ok (count', some r) := by
  obtain ⟨_, _, _, _, d, _, count, count', hstep⟩ := mem_scanPages h
  exact ⟨count, count', d, hstep⟩

theorem mem_fetchAttachments {host : String} {parentName parentSpace parentType : Json}
    {pages : GenRun Json} {y : Json × Json}
    (h : y ∈ (fetchAttachments host parentName parentSpace parentType pages).yields) :
    ∃ a, attachmentResult host parentName parentSpace parentType a = .ok (some y) := by
  obtain ⟨_, _, _, _, a, _, _, _, hstep⟩ := mem_scanPages h
  obtain ⟨r, hr, heq⟩ := except_map_eq_ok.1 hstep
  cases heq
  exact ⟨a, hr⟩

section Produce

variable {β γ : Type} {ys : List β} {ending : Ending} {x : γ}

theorem mem_items_produce {body : β → List (Action γ) × Option PyError}
    (h : x ∈ (produce (.put .endSignal) body ys ending).1.flatMap Action.items) :
    ∃ y ∈ ys, ∃ a ∈ (body y).1, x ∈ a.items := by
  obtain ⟨a, ha, hx⟩ := List.mem_flatMap.1 h
  rcases mem_produce ha with rfl | ⟨y, hy, ha⟩
  · simp [Action.items, Msg.item?] at hx
  · exact ⟨y, hy, a, ha, hx⟩

theorem mem_filterMap_produce {body : β → List (Msg γ) × Option PyError}
    (h : x ∈ (produce .endSignal body ys ending).1.filterMap Msg.item?) :
    ∃ y ∈ ys, ∃ m ∈ (body y).1, m.item? = some x := by
  obtain ⟨m, hm, hx⟩ := List.mem_filterMap.1 h
  rcases mem_produce hm with rfl | ⟨y, hy, hm⟩
  · cases hx
  · exact ⟨y, hy, m, hm, hx⟩

end Produce

namespace Connector

variable (c : Connector)

/-- What `_space_coro` puts for one `(space, permissions)`: the space, decorated with
the identities its permissions grant for `space`. -/
theorem spaceBody_items {y : Json × Json} {a : Action HarvestItem} {x : HarvestItem}
    (ha : a ∈ (c.spaceBody y).1) (hx : x ∈ a.items) :
    x.2 = none ∧ ∃ acl, getAccessControlFromPermission c.dls y.2 SPACE = .ok acl ∧
      decorateWithAccessControl c.dls y.1 acl = .ok x.1 := by
  unfold spaceBody at ha
  split at ha
  · cases ha
  next space hspace =>
    obtain ⟨acl, hacl, hdec⟩ := except_bind_eq_ok.1 hspace
    rw [List.mem_singleton] at ha
    subst ha
    simp only [Action.items, Msg.item?, Option.toList, List.mem_singleton] at hx
    subst hx
    exact ⟨rfl, acl, hacl, hdec⟩

/-- What an attachment producer puts: attachments `fetch_attachments` lists for the
document's `_id`, `title`, `space` and `type`, each decorated with the list it was
given and paired with its own download link and itself. -/
theorem attachmentCoro_items {doc : Json} {acl : List String} {x : HarvestItem}
    (hx : x ∈ (c.attachmentCoro doc acl).1.filterMap Msg.item?) :
    ∃ contentId parentName parentSpace parentType,
      doc.index "_id" = .ok contentId ∧ doc.index "title" = .ok parentName ∧
      doc.index "space" = .ok parentSpace ∧ doc.index "type" = .ok parentType ∧
      ∃ y ∈ (fetchAttachments c.host parentName parentSpace parentType (c.pages .attachment
          [("api_query", ATTACHMENT_QUERY), ("id", contentId.toPyStr)])).yields,
        decorateWithAccessControl c.dls y.1 acl = .ok x.1 ∧
        ∃ link, y.2.dropFirst = .ok link ∧ x.2 = some (link, x.1) := by
  unfold attachmentCoro at hx
  split at hx
  next contentId parentName parentSpace parentType hid htitle hspace htype =>
    obtain ⟨y, hy, m, hm, hmx⟩ := mem_filterMap_produce hx
    refine ⟨contentId, parentName, parentSpace, parentType, hid, htitle, hspace, htype, y, hy, ?_⟩
    unfold attachmentBody at hm
    split at hm
    · cases hm
    next att hatt =>
      split at hm
      · cases hm
      next link hlink =>
        rw [List.mem_singleton] at hm
        subst hm
        cases hmx
        exact ⟨hatt, link, hlink, rfl⟩
  all_goals simp at hx

/-- What `_page_blog_coro` puts or submits for one document: the document decorated
with its access-control list, or what the attachment producer it submits with that
list puts. -/
theorem pageBlogBody_items {targetType : String} {r : DocumentRecord} {a : Action HarvestItem}
    {x : HarvestItem} (ha : a ∈ (c.pageBlogBody targetType r).1) (hx : x ∈ a.items) :
    ∃ acl doc, documentAccessControl c.dls r.restrictions r.permissions targetType = .ok acl ∧
      decorateWithAccessControl c.dls r.document acl = .ok doc ∧
      (x = (doc, none) ∨ x ∈ (c.attachmentCoro doc acl).1.filterMap Msg.item?) := by
  unfold pageBlogBody at ha
  split at ha
  · cases ha
  next acl hacl =>
    split at ha
    · cases ha
    next doc hdoc =>
      refine ⟨acl, doc, hacl, hdoc, ?_⟩
      have hput : a = .put (.item (doc, none)) → x = (doc, none) := fun h => by
        subst h
        simpa [Action.items, Msg.item?] using hx
      split at ha <;>
        simp only [List.mem_cons, List.mem_singleton, List.not_mem_nil, or_false] at ha
      · exact .inl (hput ha)
      · exact .inl (hput ha)
      · rcases ha with ha | rfl
        · exact .inl (hput ha)
        · exact .inr hx

/-- A space as `_space_coro` should put it: a space dict `fetch_spaces` yielded, with
`_allow_access_control` holding each identity its permissions grant for `space`,
once. -/
def SpaceCarries (x : HarvestItem) : Prop :=
  x.2 = none ∧ ∃ y ∈ (fetchSpaces c.host c.spaces c.now
      (c.pages .space [("api_query", SPACE_QUERY)])).yields,
    ∃ kvs, y.1 = .obj kvs ∧ CarriesExactly (PermissionGrants y.2 SPACE) kvs x.1

/-- A page, blog post or attachment as `_page_blog_coro(apiQuery, targetType)` should
put it: for a document `fetch_documents` yielded, the document itself, or one of
the attachments `fetch_attachments` lists for the document's `_id`, paired with
its own download link and itself; either with `_allow_access_control` holding each
identity `DocumentGrants` gives the document, once. -/
def ContentCarries (apiQuery targetType : String) (x : HarvestItem) : Prop :=
  ∃ r ∈ (fetchDocuments c.host (c.pages .content [("api_query", apiQuery)])).yields,
    (x.2 = none ∧ ∃ kvs, r.document = .obj kvs ∧
      CarriesExactly (DocumentGrants r.restrictions r.permissions targetType) kvs x.1) ∨
    (∃ contentId parentName parentSpace parentType,
      r.document.index "_id" = .ok contentId ∧ r.document.index "title" = .ok parentName ∧
      r.document.index "space" = .ok parentSpace ∧ r.document.index "type" = .ok parentType ∧
      ∃ y ∈ (fetchAttachments c.host parentName parentSpace parentType (c.pages .attachment
          [("api_query", ATTACHMENT_QUERY), ("id", contentId.toPyStr)])).yields,
        ∃ kvs link, y.1 = .obj kvs ∧ y.2.dropFirst = .ok link ∧ x.2 = some (link, x.1) ∧
          CarriesExactly (DocumentGrants r.restrictions r.permissions targetType) kvs x.1)

variable {c}

theorem spaceCoro_carries (hdls : c.dls = true) : ∀ x ∈ c.spaceCoro.items, c.SpaceCarries x := by
  intro x hx
  obtain ⟨y, hy, a, ha, hxa⟩ := mem_items_produce hx
  obtain ⟨hnone, acl, hacl, hdec⟩ := c.spaceBody_items ha hxa
  obtain ⟨space, hres⟩ := mem_fetchSpaces hy
  obtain ⟨kvs, hkvs, hfresh⟩ := spaceResult_fresh hres
  rw [hdls] at hacl hdec
  rw [hkvs] at hdec
  exact ⟨hnone, y, hy, kvs, hkvs,
    decorate_carries hfresh hdec (getAccessControlFromPermission_ok hacl).2⟩

theorem pageBlogCoro_carries (hdls : c.dls = true) {apiQuery targetType : String}
    (htype : ∀ r ∈ (fetchDocuments c.host (c.pages .content [("api_query", apiQuery)])).yields,
      ∀ v, r.document.index "type" = .ok v → v.asKey ≠ .ok ACCESS_CONTROL) :
    ∀ x ∈ (c.pageBlogCoro apiQuery targetType).items, c.ContentCarries apiQuery targetType x := by
  intro x hx
  obtain ⟨r, hr, a, ha, hxa⟩ := mem_items_produce hx
  obtain ⟨acl, doc, hacl, hdoc, hx'⟩ := c.pageBlogBody_items ha hxa
  rw [hdls] at hacl hdoc
  have hgrants := (documentAccessControl_ok hacl).2
  obtain ⟨count, count', d, hres⟩ := mem_fetchDocuments hr
  obtain ⟨kvs, hkvs, hfresh⟩ := documentResult_fresh hres
  rw [hkvs] at hdoc
  refine ⟨r, hr, ?_⟩
  rcases hx' with rfl | hatt
  · exact .inl ⟨rfl, kvs, hkvs, decorate_carries hfresh hdoc hgrants⟩
  · obtain ⟨contentId, parentName, parentSpace, parentType, hid, htitle, hspace, hpt, y, hy, hdec,
      link, hlink, hx2⟩ := c.attachmentCoro_items hatt
    rw [decorateWithAccessControl_fresh acl hfresh] at hdoc
    cases hdoc
    rw [index_append_accessControl (by decide), ← hkvs] at hid htitle hspace hpt
    obtain ⟨a, ha⟩ := mem_fetchAttachments hy
    obtain ⟨kvs', hkvs', hfresh'⟩ := attachmentResult_fresh ha (htype r hr parentType hpt)
    rw [hdls, hkvs'] at hdec
    exact .inr ⟨contentId, parentName, parentSpace, parentType, hid, htitle, hspace, hpt, y, hy,
      kvs', link, hkvs', hlink, hx2, decorate_carries hfresh' hdec hgrants⟩

variable (c)

/-- **Everything `_consumer` yields carries exactly its identities.**  For every
server and configuration with document-level security on, when no document the
two content searches of `get_docs` yield has a `type` that hashes to
`_allow_access_control`, and however messages are sized: `get_docs` starts the
harvest, and in every state reachable over any interleaving, whether producers
return, raise or are still fetching, every document `_consumer` has yielded so far
is a space carrying exactly the identities its permissions grant for `space`, or a
blog post, page or attachment carrying exactly the identities its document's
restrictions, or else its space's permissions, grant. -/
theorem harvest_yields_granted (size : Msg HarvestItem → Nat) (hdls : c.dls = true)
    (htype : ∀ targetType ∈ [BLOGPOST, PAGE], ∀ r ∈ (fetchDocuments c.host (c.pages .content
        [("api_query", c.configuredSpacesQuery ++ targetType ++ "&" ++ CONTENT_QUERY)])).yields,
      ∀ v, r.document.index "type" = .ok v → v.asKey ≠ .ok ACCESS_CONTROL) :
    ∃ start, c.harvest = some start ∧ ∀ s, Reachable size start s → ∀ x ∈ s.yielded,
      c.SpaceCarries x ∨ ∃ targetType ∈ [BLOGPOST, PAGE],
        c.ContentCarries (c.configuredSpacesQuery ++ targetType ++ "&" ++ CONTENT_QUERY)
          targetType x := by
  refine ⟨_, getDocs_eq _ _ _, fun s hr x hx => ?_⟩
  have hmem := (hr.yielded_subperm size).subset hx
  simp only [List.mem_append] at hmem
  rcases hmem with (hspace | hblog) | hpage
  · exact .inl (spaceCoro_carries hdls x hspace)
  · exact .inr ⟨BLOGPOST, by simp, pageBlogCoro_carries hdls (htype _ (by simp)) x hblog⟩
  · exact .inr ⟨PAGE, by simp, pageBlogCoro_carries hdls (htype _ (by simp)) x hpage⟩

end Connector

theorem securedSite_types :
    ∀ targetType ∈ [BLOGPOST, PAGE], ∀ r ∈ (fetchDocuments securedSite.host
        (securedSite.pages .content [("api_query",
          securedSite.configuredSpacesQuery ++ targetType ++ "&" ++ CONTENT_QUERY)])).yields,
      ∀ v, r.document.index "type" = .ok v → v.asKey ≠ .ok ACCESS_CONTROL := by
  intro targetType ht r hr v hv
  have htypes : ((fetchDocuments securedSite.host (securedSite.pages .content [("api_query",
      securedSite.configuredSpacesQuery ++ targetType ++ "&" ++ CONTENT_QUERY)])).yields.map
        fun r : DocumentRecord => r.document.index "type") = [.ok (.str "page")] := by
    simp only [List.mem_cons, List.mem_singleton, List.not_mem_nil, or_false] at ht
    rcases ht with rfl | rfl <;> rfl
  have hmem := htypes ▸ List.mem_map_of_mem (fun r : DocumentRecord => r.document.index "type") hr
  simp only [List.mem_singleton] at hmem
  rw [hv] at hmem
  cases hmem
  simp [Json.asKey, ACCESS_CONTROL]

theorem harvest_yields_granted_secured :
    securedSite.dls = true ∧
      (∀ targetType ∈ [BLOGPOST, PAGE], ∀ r ∈ (fetchDocuments securedSite.host
          (securedSite.pages .content [("api_query",
            securedSite.configuredSpacesQuery ++ targetType ++ "&" ++ CONTENT_QUERY)])).yields,
        ∀ v, r.document.index "type" = .ok v → v.asKey ≠ .ok ACCESS_CONTROL) ∧
      ∃ start, securedSite.harvest = some start ∧
        ∀ s, Reachable (fun _ => 1) start s → ∀ x ∈ s.yielded,
          securedSite.SpaceCarries x ∨ ∃ targetType ∈ [BLOGPOST, PAGE],
            securedSite.ContentCarries
              (securedSite.configuredSpacesQuery ++ targetType ++ "&" ++ CONTENT_QUERY)
              targetType x :=
  ⟨rfl, securedSite_types,
    securedSite.harvest_yields_granted (fun _ => 1) rfl securedSite_types⟩

/-- The page producer of the secured site puts the page, then its attachment. -/
example : (securedSite.contentProducer PAGE).items.map (·.2.isSome) = [false, true] := rfl

/-! ### Restrictions that grant no one, and permissions beyond the space's reads -/

/-- A permission of `group` for `operation` on `targetType`. -/
def groupPermission (targetType operation group : String) : Json :=
  .obj [("operation", .obj [("targetType", .str targetType), ("operation", .str operation)]),
    ("subjects", .obj [("group", .obj [("results", .arr [.obj [("type", .str "group"),
      ("id", .str group)]])])])]

/-- Space permissions that let `g1` administer the space, `g2` read comments and
`g3` create pages. -/
def widePermissions : Json :=
  .arr [groupPermission "space" "administer" "g1", groupPermission "comment" "read" "g2",
    groupPermission "page" "create" "g3"]

/-- Read restrictions that list one entry, an app account. -/
def appOnlyRestriction : Json :=
  .obj [("user", .obj [("results", .arr [.obj [("type", .str "known"),
    ("accountType", .str "app"), ("accountId", .str "bot")]])])]

/-- A result that reads as a space with `widePermissions` and as a page `id` of that
space, with read restrictions `restrictions` and no attachments. -/
def wideResult (id : String) (restrictions : Json) : Json :=
  .obj [("id", .str id), ("key", .str "DOC"), ("name", .str "Docs"), ("type", .str "page"),
    ("title", .str id), ("_links", .obj [("webui", .str ("/pages/" ++ id))]),
    ("permissions", widePermissions),
    ("history", .obj [("lastUpdated", .obj [("when", .str "2023-01-01")])]),
    ("children", .obj []),
    ("space", .obj [("name", .str "Docs"), ("permissions", widePermissions)]),
    ("body", .obj [("storage", .obj [("value", .str "")])]),
    ("restrictions", .obj [("read", .obj [("restrictions", restrictions)])])]

/-- A site with document-level security on whose every listing holds two results:
page `1`, restricted to the app account alone, and page `2`, without restrictions. -/
def wideSite : Connector where
  host := "https://x.atlassian.net/wiki"
  call _ := ([⟨.ok (.obj [("results", .arr [wideResult "1" appOnlyRestriction,
    wideResult "2" (.obj [])])])⟩], none)
  fuel := 2
  spaces := [WILDCARD]
  dls := true
  now := "2023-01-01T00:00:00+00:00"

/-- An entry of a restriction or of a permission's subjects that names the user of
`profile`: a known atlassian account with the profile's `accountId`, or a group
whose `id` is the `groupId` of one of the profile's groups. -/
def NamesProfile (profile item : Json) : Prop :=
  ((item.fieldD "type" .null).isStr "known" = true ∧
      (item.fieldD "accountType" .null).isStr "atlassian" = true ∧
      item.fieldD "accountId" (.str "") = profile.fieldD "accountId" .null) ∨
    ((item.fieldD "type" .null).isStr "group" = true ∧
      ∃ g ∈ ((profile.fieldD "groups" (.obj [])).fieldD "items" (.arr [])).elems,
        item.fieldD "id" (.str "") = g.fieldD "groupId" (.str ""))

/-- An entry that names a profile grants the profile's prefixed account id or the
prefixed id of one of its groups. -/
theorem entryIdentity_of_names {profile item : Json} (h : NamesProfile profile item) :
    ∃ tok, entryIdentity item = some tok ∧
      (tok = prefixAccountId (profile.fieldD "accountId" .null) ∨
        ∃ g ∈ ((profile.fieldD "groups" (.obj [])).fieldD "items" (.arr [])).elems,
          tok = prefixGroupId (g.fieldD "groupId" (.str ""))) := by
  rcases h with ⟨hknown, hatlassian, hid⟩ | ⟨hgroup, g, hg, hid⟩
  · exact ⟨_, by simp [entryIdentity, hknown, hatlassian, hid], .inl rfl⟩
  · have hknown : (item.fieldD "type" .null).isStr "known" = false := by
      rw [Json.isStr_eq_true.1 hgroup]
      rfl
    exact ⟨_, by simp [entryIdentity, hknown, hgroup, hid], .inr ⟨g, hg, rfl⟩⟩

namespace Connector

variable (c : Connector)

/-- `doc` is what the identities sync makes of a user it kept, and the user holds a
token of each page that names them.  The user is one of the listing's first
response, with a truthy profile URL, a truthy `active` and the account type
`atlassian`; `doc` is the user document of the profile fetched for the user,
merged with the query of exactly the user's tokens: the prefixed account id, then
the prefixed ids of the profile's groups and the prefixed keys of its application
roles.  When a page's read restrictions name the user (a known atlassian account
with that id, or a group the profile belongs to), or they grant no one and a
space permission the filter keeps names the user, one of those tokens is an
identity `DocumentGrants` gives the page. -/
def SyncedUser (accessControlQuery : List String → Json) (confluenceUrl : String)
    (doc : Json) : Prop :=
  ∃ (listing : Json) (users : List Json) (userInfo profile : Json)
    (groupIds roleKeys : List String),
    c.firstJson (pathJoin confluenceUrl "rest/api/3/users/search") = .ok listing ∧
    listing.iter = .ok users ∧ userInfo ∈ users ∧
    (userInfo.fieldD "self" .null).truthy = true ∧
    (userInfo.fieldD "active" .null).truthy = true ∧
    userInfo.fieldD "accountType" .null = .str "atlassian" ∧
    c.userProfile userInfo = .ok profile ∧
    (∃ name, (userDocument (profile.fieldD "accountId" .null) name c.now).update
      (accessControlQuery
        (prefixAccountId (profile.fieldD "accountId" .null) :: (groupIds ++ roleKeys))) =
      .ok doc) ∧
    (∀ t, t ∈ groupIds ↔
      ∃ g ∈ ((profile.fieldD "groups" (.obj [])).fieldD "items" (.arr [])).elems,
        t = prefixGroupId (g.fieldD "groupId" (.str ""))) ∧
    (∀ t, t ∈ roleKeys ↔
      ∃ r ∈ ((profile.fieldD "applicationRoles" (.obj [])).fieldD "items" (.arr [])).elems,
        t = prefixRoleKey (r.fieldD "key" (.str ""))) ∧
    ∀ restrictions permissions targetType,
      ((∃ item ∈ listedEntries restrictions, NamesProfile profile item) ∨
        ((¬∃ t, Grants restrictions t) ∧ ∃ p ∈ permissions.elems, Selects targetType p ∧
          ∃ item ∈ listedEntries (p.fieldD "subjects" (.obj [])), NamesProfile profile item)) →
      ∃ tok ∈ prefixAccountId (profile.fieldD "accountId" .null) :: (groupIds ++ roleKeys),
        DocumentGrants restrictions permissions targetType tok

end Connector

/-- The query the identities sync builds its documents with in these runs. -/
def tokenQuery (tokens : List String) : Json := .obj [("query", .arr (tokens.map .str))]

end Confluence
