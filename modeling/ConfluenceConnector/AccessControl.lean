import Mathlib.Data.List.Dedup
import Mathlib.Tactic.SplitIfs
import ConfluenceConnector.Paginated

/-!
Which identities a document is decorated with.

With document-level security on, `_page_blog_coro` first takes the identities the
page's read restrictions grant (`_extract_identities`), and only when there are
none falls back to the space's permissions (`_get_access_control_from_permission`),
of which it keeps those whose operation targets the document's type, targets the
space, or is a read.  `_space_coro` uses the second function alone, with target
`space`.  `_decorate_with_access_control` then stores the identities, without
repeats, under `_allow_access_control`; attachments get their parent's list.

Two things here differ from a first reading of the code.  The fallback is taken
when the restrictions grant no identity, not when they list no entry: a
restriction that names only an app account, an anonymous user or an unknown
entry leaves the page open to its space.  And the permission filter, written
`targetType != t and (targetType != space and operation != read)`, skips a
permission only when all three tests fail, so every space-targeted operation and
every read is kept.

Python sets have no order.  The model keeps identities in a list without
repeats, and every statement about them is about membership.  `Inheritance`
follows these lists through the producers to the documents they put.
-/

namespace Confluence

/-- `SPACE`. -/
def SPACE : String := "space"

/-- `ACCESS_CONTROL` of `connectors.access_control`: the key identities go under. -/
def ACCESS_CONTROL : String := "_allow_access_control"

/-- `_dls_enabled`: `features` is `self._features` (`none` when unset, otherwise
what its `document_level_security_enabled()` answers), `useDls` the configuration's
`use_document_level_security`. -/
def dlsEnabled (features : Option Bool) (useDls : Bool) : Bool :=
  match features with
  | none => false
  | some enabled => if !enabled then false else useDls

/-- Modelled from the spec: `prefix_identity` of `connectors.access_control`, which
writes an identity token as `<kind>:<value>`. -/
def prefixIdentity (kind : String) (identity : Json) : String :=
  kind ++ ":" ++ identity.toPyStr

/-- `_prefix_account_id`. -/
def prefixAccountId (accountId : Json) : String := prefixIdentity "account_id" accountId

/-- `_prefix_group_id`. -/
def prefixGroupId (groupId : Json) : String := prefixIdentity "group_id" groupId

/-- One pass of the loop of `_extract_identities`: `identities.add(...)` for a known
atlassian account or a group.  In the source `item.get("accountType")` runs only
for a known entry; on a `dict`, which `item.get("type")` has shown `item` to be,
`get` cannot raise, so evaluating it first changes nothing. -/
def addIdentity (identities : List String) (item : Json) : Except PyError (List String) := do
  let itemType ← item.get "type"
  let accountType ← item.get "accountType"
  if itemType.isStr "known" && accountType.isStr "atlassian" then
    return identities.insert (prefixAccountId (← item.getD "accountId" (.str "")))
  else if itemType.isStr "group" then
    return identities.insert (prefixGroupId (← item.getD "id" (.str "")))
  else
    return identities

/-- `_extract_identities(response)`. -/
def extractIdentities (dls : Bool) (response : Json) : Except PyError (List String) := do
  if !dls then return []
  let userResults ← (← response.getD "user" (.obj [])).getD "results" (.arr [])
  let groupResults ← (← response.getD "group" (.obj [])).getD "results" (.arr [])
  let items ← (← userResults.add groupResults).iter
  items.foldlM addIdentity []

/-- One pass of the loop of `_get_access_control_from_permission`: skip the
permission unless its operation targets `targetType`, targets the space or is a
read; otherwise add its subjects' identities. -/
def addPermission (dls : Bool) (targetType : String) (accessControl : List String)
    (permission : Json) : Except PyError (List String) := do
  let permissionOperation ← permission.getD "operation" (.obj [])
  let opTargetType ← permissionOperation.get "targetType"
  let operation ← permissionOperation.get "operation"
  if !opTargetType.isStr targetType && (!opTargetType.isStr SPACE && !operation.isStr "read") then
    return accessControl
  return accessControl ∪ (← extractIdentities dls (← permission.getD "subjects" (.obj [])))

/-- `_get_access_control_from_permission(permissions, target_type)`. -/
def getAccessControlFromPermission (dls : Bool) (permissions : Json) (targetType : String) :
    Except PyError (List String) := do
  if !dls then return []
  (← permissions.iter).foldlM (addPermission dls targetType) []

/-- The access control `_page_blog_coro` computes for one document: the
restrictions' identities, or the space permissions' when there are none. -/
def documentAccessControl (dls : Bool) (restrictions permissions : Json) (targetType : String) :
    Except PyError (List String) := do
  let accessControl ← extractIdentities dls restrictions
  if accessControl.length = 0 then getAccessControlFromPermission dls permissions targetType
  else return accessControl

/-- The identities already under `_allow_access_control`.  Every document the
producers decorate is built fresh and has none; the model takes an existing value
only when it is a list of strings. -/
def Json.strings : Json → Except PyError (List String)
  | .arr xs => xs.mapM Json.asStr
  | _ => .error .typeError

/-- `_decorate_with_access_control(document, access_control)`:
`document[ACCESS_CONTROL] = list(set(document.get(ACCESS_CONTROL, []) + access_control))`. -/
def decorateWithAccessControl (dls : Bool) (document : Json) (accessControl : List String) :
    Except PyError Json := do
  if dls then
    let existing ← (← document.getD ACCESS_CONTROL (.arr [])).strings
    document.setKey ACCESS_CONTROL (.arr ((existing ++ accessControl).dedup.map .str))
  else
    return document

/-! ### What the identities should be

Which identities an entry, a restriction and a permission grant, stated over the
JSON itself.  `fieldD` reads a value as `get` with a default does, so these
definitions say what a document is decorated with without saying how the source
computes it; `documentAccessControl_ok` shows that the source computes it.
-/

/-- The entries a restriction or subjects object lists: `user.results`, then `group.results`. -/
def listedEntries (response : Json) : List Json :=
  (((response.fieldD "user" (.obj [])).fieldD "results" (.arr [])).elems) ++
    (((response.fieldD "group" (.obj [])).fieldD "results" (.arr [])).elems)

/-- The identity an entry grants: `account_id:<accountId>` for a known atlassian
account, `group_id:<id>` for a group, none for anything else. -/
def entryIdentity (item : Json) : Option String :=
  if (item.fieldD "type" .null).isStr "known" &&
      (item.fieldD "accountType" .null).isStr "atlassian" then
    some (prefixAccountId (item.fieldD "accountId" (.str "")))
  else if (item.fieldD "type" .null).isStr "group" then
    some (prefixGroupId (item.fieldD "id" (.str "")))
  else none

/-- `token` is an identity some entry of `response` grants. -/
def Grants (response : Json) (token : String) : Prop :=
  ∃ item ∈ listedEntries response, entryIdentity item = some token

/-- The filter of `_get_access_control_from_permission`: the permission's operation
targets `targetType`, targets the space, or is a read. -/
def Selects (targetType : String) (permission : Json) : Bool :=
  let operation := permission.fieldD "operation" (.obj [])
  (operation.fieldD "targetType" .null).isStr targetType ||
    (operation.fieldD "targetType" .null).isStr SPACE ||
    (operation.fieldD "operation" .null).isStr "read"

/-- `token` is granted by the subjects of a permission the filter keeps for
`targetType`. -/
def PermissionGrants (permissions : Json) (targetType token : String) : Prop :=
  ∃ p ∈ permissions.elems, Selects targetType p ∧ Grants (p.fieldD "subjects" (.obj [])) token

/-- The identities a page or blog post gets: those its restrictions grant, or, when
they grant none, those its space permissions grant. -/
def DocumentGrants (restrictions permissions : Json) (targetType token : String) : Prop :=
  (∃ t, Grants restrictions t) ∧ Grants restrictions token ∨
    (¬∃ t, Grants restrictions t) ∧ PermissionGrants permissions targetType token

/-! ### The two loops

Both loops run over dicts and grow a set of tokens; `foldlM_collects` is the
argument for both.  That every item turns out to be a dict is what pins down
what was iterated: a string or a dict iterates to strings, on which `.get` raises.
-/

theorem addIdentity_obj (ids : List String) (kvs : List (String × Json)) :
    addIdentity ids (.obj kvs) =
      .ok (match entryIdentity (.obj kvs) with
        | some t => ids.insert t
        | none => ids) := by
  simp only [addIdentity, entryIdentity, Json.get, Json.getD, Json.fieldD, bind, Except.bind,
    pure, Except.pure]
  split_ifs <;> rfl

theorem addIdentity_ok {ids ids' : List String} {item : Json}
    (h : addIdentity ids item = .ok ids') :
    (∃ kvs, item = .obj kvs) ∧ (ids.Nodup → ids'.Nodup) ∧
      ∀ t, t ∈ ids' ↔ t ∈ ids ∨ entryIdentity item = some t := by
  cases item with
  | obj kvs =>
    rw [addIdentity_obj] at h
    cases h
    refine ⟨⟨kvs, rfl⟩, ?_⟩
    rcases he : entryIdentity (.obj kvs) with _ | t'
    · exact ⟨id, by simp⟩
    · exact ⟨fun hn => hn.insert, fun t => by simp [List.mem_insert_iff, eq_comm, or_comm]⟩
  | _ => simp [addIdentity, Json.get, Json.getD, bind, Except.bind] at h

/-- A fold whose every step reads a dict and adds, to a set kept without repeats,
the tokens `P` names for it. -/
theorem foldlM_collects {f : List String → Json → Except PyError (List String)}
    {P : Json → String → Prop}
    (hf : ∀ s x s', f s x = .ok s' →
      (∃ kvs, x = .obj kvs) ∧ (s.Nodup → s'.Nodup) ∧
        ∀ t, t ∈ s' ↔ t ∈ s ∨ P x t) :
    ∀ (xs : List Json) (s s' : List String), xs.foldlM f s = .ok s' →
      (∀ x ∈ xs, ∃ kvs, x = .obj kvs) ∧ (s.Nodup → s'.Nodup) ∧
        ∀ t, t ∈ s' ↔ t ∈ s ∨ ∃ x ∈ xs, P x t := by
  intro xs
  induction xs with
  | nil =>
    intro s s' h
    cases h
    exact ⟨fun x hx => absurd hx (List.not_mem_nil x), id, by simp⟩
  | cons x xs ih =>
    intro s s' h
    obtain ⟨s₁, h₁, hrest⟩ := except_bind_eq_ok.1 h
    obtain ⟨hx, hn₁, hm₁⟩ := hf s x s₁ h₁
    obtain ⟨hxs, hn, hm⟩ := ih s₁ s' hrest
    refine ⟨by simpa [hx] using hxs, hn ∘ hn₁, fun t => ?_⟩
    rw [hm, hm₁]
    simp only [List.mem_cons, exists_eq_or_imp, or_assoc]

theorem results_elems {R u ur : Json} {k : String} (hu : R.getD k (.obj []) = .ok u)
    (hur : u.getD "results" (.arr []) = .ok ur) :
    ur = (R.fieldD k (.obj [])).fieldD "results" (.arr []) := by
  rw [(Json.getD_eq_ok hu).1] at hur
  exact (Json.getD_eq_ok hur).1

theorem extractIdentities_ok {R : Json} {ids : List String}
    (h : extractIdentities true R = .ok ids) : ids.Nodup ∧ ∀ t, t ∈ ids ↔ Grants R t := by
  simp only [extractIdentities, Bool.not_true, Bool.false_eq_true, if_false,
    except_bind_eq_ok] at h
  obtain ⟨-, -, u, hu, ur, hur, g, hg, gr, hgr, s, hs, items, hitems, hfold⟩ := h
  obtain ⟨hobj, hn, hm⟩ := foldlM_collects (fun _ _ _ => addIdentity_ok) items [] ids hfold
  have hitems' : items = listedEntries R := by
    rw [Json.iter_of_objects hitems hobj, Json.elems_add hs, results_elems hu hur,
      results_elems hg hgr]
    rfl
  refine ⟨hn List.nodup_nil, fun t => ?_⟩
  rw [hm, Grants, ← hitems']
  simp

theorem addPermission_ok {t : String} {acc acc' : List String} {p : Json}
    (h : addPermission true t acc p = .ok acc') :
    (∃ kvs, p = .obj kvs) ∧ (acc.Nodup → acc'.Nodup) ∧
      ∀ tok, tok ∈ acc' ↔ tok ∈ acc ∨
        (Selects t p ∧ Grants (p.fieldD "subjects" (.obj [])) tok) := by
  simp only [addPermission, Json.get, except_bind_eq_ok] at h
  obtain ⟨op, hop, tt, htt, oper, hoper, h⟩ := h
  obtain ⟨rfl, hp⟩ := Json.getD_eq_ok hop
  obtain ⟨rfl, -⟩ := Json.getD_eq_ok htt
  obtain ⟨rfl, -⟩ := Json.getD_eq_ok hoper
  refine ⟨hp, ?_⟩
  split at h
  · cases h
    rename_i hskip
    simp only [Bool.and_eq_true, Bool.not_eq_true'] at hskip
    exact ⟨id, fun tok => by simp [Selects, hskip]⟩
  · rename_i hkeep
    simp only [except_bind_eq_ok] at h
    obtain ⟨-, -, subj, hsubj, ids, hids, h⟩ := h
    cases h
    obtain ⟨rfl, -⟩ := Json.getD_eq_ok hsubj
    obtain ⟨hn, hm⟩ := extractIdentities_ok hids
    have hsel : Selects t p = true := by
      revert hkeep
      simp only [Selects]
      cases Json.isStr t _ <;> cases Json.isStr SPACE _ <;> cases Json.isStr "read" _ <;> decide
    exact ⟨fun _ => List.Nodup.union acc hn, fun tok => by simp [List.mem_union_iff, hsel, hm]⟩

theorem getAccessControlFromPermission_ok {P : Json} {t : String} {acl : List String}
    (h : getAccessControlFromPermission true P t = .ok acl) :
    acl.Nodup ∧ ∀ tok, tok ∈ acl ↔ PermissionGrants P t tok := by
  simp only [getAccessControlFromPermission, Bool.not_true, Bool.false_eq_true, if_false,
    except_bind_eq_ok] at h
  obtain ⟨-, -, items, hitems, hfold⟩ := h
  obtain ⟨hobj, hn, hm⟩ :=
    foldlM_collects (fun _ _ _ => addPermission_ok) items [] acl hfold
  rw [Json.iter_of_objects hitems hobj] at hm
  exact ⟨hn List.nodup_nil, fun tok => by simp [hm, PermissionGrants]⟩

theorem documentAccessControl_ok {R P : Json} {t : String} {acl : List String}
    (h : documentAccessControl true R P t = .ok acl) :
    acl.Nodup ∧ ∀ tok, tok ∈ acl ↔ DocumentGrants R P t tok := by
  simp only [documentAccessControl, except_bind_eq_ok] at h
  obtain ⟨ids, hids, h⟩ := h
  obtain ⟨hn, hm⟩ := extractIdentities_ok hids
  split at h
  · rename_i hlen
    have hnone : ¬∃ tok, Grants R tok := fun ⟨tok, htok⟩ => by
      simpa [List.length_eq_zero.mp hlen] using (hm tok).2 htok
    obtain ⟨hn', hm'⟩ := getAccessControlFromPermission_ok h
    exact ⟨hn', fun tok => by simp [DocumentGrants, hnone, hm']⟩
  · cases h
    rename_i hlen
    obtain ⟨tok, htok⟩ := List.exists_mem_of_length_pos (Nat.pos_of_ne_zero hlen)
    have hsome : ∃ tok, Grants R tok := ⟨tok, (hm tok).1 htok⟩
    exact ⟨hn, fun tok => by simp [DocumentGrants, hsome, hm]⟩

/-! ### Decoration -/

theorem decorateWithAccessControl_fresh {kvs : List (String × Json)} (acl : List String)
    (hfresh : kvs.lookup ACCESS_CONTROL = none) :
    decorateWithAccessControl true (.obj kvs) acl =
      .ok (.obj (kvs ++ [(ACCESS_CONTROL, .arr (acl.dedup.map .str))])) := by
  simp [decorateWithAccessControl, hfresh, Json.strings, Json.setKey, Json.insertEntry,
    Json.any_key_of_lookup_none hfresh, bind, Except.bind, pure, Except.pure, List.mapM,
    List.mapM.loop]

end Confluence
