import ConfluenceConnector.Search

/-!
The identities sync: `get_access_control` and the user documents it yields.

With document-level security on, `get_access_control` reads the first response of
the user listing `rest/api/3/users/search` under `confluence_url`, keeps the users
`_is_active_atlassian_user` accepts (a profile URL, active, and of account type
`atlassian`), fetches every kept user's profile from that URL with `USER_QUERY`,
all at once, and yields one document per profile, in the order of the listing.  A
document is the user's `accountId` as `_id`, their prefixed account id and display
name as `identity`, and, through `access_control_query`, the tokens that grant
them access: their prefixed account id, then their groups' ids and their
application roles' keys, each once.  With document-level security off, the sync
yields nothing.

`_prefix_account_name` calls `replace` on the display name, so a profile whose
`displayName` is not a string, or is missing, raises `AttributeError`, and the
sync stops there.  `asyncio.gather` raises the first exception a profile fetch
raises; which fetch fails first depends on timing, so the model raises the first in
listing order and no statement depends on which.

Python sets have no order: the model lists a set's tokens each once, and every
statement about them is about membership.  `access_control_query` is
`es_access_control_query` of `connectors.access_control`, outside `src/`; it is a
parameter here, the dict that grants a list of tokens.
-/

namespace Confluence

/-- `USER_QUERY`. -/
def USER_QUERY : String := "expand=groups,applicationRoles"

/-- `_prefix_role_key`. -/
def prefixRoleKey (roleKey : Json) : String := prefixIdentity "role_key" roleKey

/-- `_prefix_account_name`: `account_name.replace(" ", "-")` needs a string. -/
def prefixAccountName (accountName : Json) : Except PyError String :=
  match accountName with
  | .str s => .ok (prefixIdentity "name" (.str (s.replace " " "-")))
  | _ => .error .attributeError

/-- `{token(item.get(key, "")) for item in user.get(field, {}).get("items", [])}`,
each token once. -/
def userTokens (token : Json → String) (field key : String) (user : Json) :
    Except PyError (List String) := do
  let items ← (← (← user.getD field (.obj [])).getD "items" (.arr [])).iter
  List.dedup <$> items.mapM fun item => token <$> item.getD key (.str "")

/-- `_prefixed_group_ids` of `_user_access_control_doc`. -/
def userGroupIds (user : Json) : Except PyError (List String) :=
  userTokens prefixGroupId "groups" "groupId" user

/-- `_prefixed_role_keys` of `_user_access_control_doc`. -/
def userRoleKeys (user : Json) : Except PyError (List String) :=
  userTokens prefixRoleKey "applicationRoles" "key" user

/-- The `user_document` of `_user_access_control_doc`, with `iso_utc()` as `now`. -/
def userDocument (accountId : Json) (prefixedAccountName now : String) : Json :=
  .obj [("_id", accountId),
    ("identity", .obj [("account_id", .str (prefixAccountId accountId)),
      ("display_name", .str prefixedAccountName)]),
    ("created_at", .str now)]

/-- `_user_access_control_doc(user)`: `user_document | access_control_query(...)`, where
the dict union is `update` on a copy. -/
def userAccessControlDoc (accessControlQuery : List String → Json) (now : String)
    (user : Json) : Except PyError Json := do
  let accountId ← user.get "accountId"
  let accountName ← user.get "displayName"
  let prefixedAccountName ← prefixAccountName accountName
  let prefixedGroupIds ← userGroupIds user
  let prefixedRoleKeys ← userRoleKeys user
  (userDocument accountId prefixedAccountName now).update
    (accessControlQuery ([prefixAccountId accountId] ++ prefixedGroupIds ++ prefixedRoleKeys))

/-- `_is_active_atlassian_user(user_info)`. -/
def isActiveAtlassianUser (userInfo : Json) : Except PyError Bool := do
  let userUrl ← userInfo.get "self"
  let _ ← userInfo.getD "displayName" (.str "user")
  if !userUrl.truthy then
    return false
  else if !(← userInfo.get "active").truthy then
    return false
  else
    return (← userInfo.get "accountType").isStr "atlassian"

/-- `filter(pred, xs)` as a list comprehension consumes it: in order, up to the first
`pred(x)` that raises. -/
def filterEach {β : Type} (p : β → Except PyError Bool) : List β → Except PyError (List β)
  | [] => .ok []
  | x :: xs => do
    let keep ← p x
    let rest ← filterEach p xs
    return if keep then x :: rest else rest

/-- The active atlassian users of a listing. -/
def activeUsers (users : Json) : Except PyError (List Json) := do
  filterEach isActiveAtlassianUser (← users.iter)

/-- `await asyncio.gather(*tasks)`: every result, in order, or an exception one of the
tasks raised. -/
def gather {α : Type} (tasks : List (Except PyError α)) : Except PyError (List α) :=
  tasks.mapM id

namespace Connector

variable (c : Connector)

/-- `await anext(gen)` for a generator that yields `await response.json()` for each
response `api_call(url)` yields: the first body, or what stops the call first. -/
def firstJson (url : String) : Except PyError Json :=
  match (c.call url).1 with
  | r :: _ => r.json
  | [] => .error ((c.call url).2.getD .stopAsyncIteration)

/-- `anext(self.fetch_user(user_url=user_info.get("self")))`, awaited. -/
def userProfile (userInfo : Json) : Except PyError Json := do
  c.firstJson ((← userInfo.get "self").toPyStr ++ "&" ++ USER_QUERY)

/-- `get_access_control()`: the documents it yields and how it ends.  `confluenceUrl`
is the configuration's `confluence_url`, and `URLS[USER]` is joined onto it. -/
def getAccessControl (accessControlQuery : List String → Json) (confluenceUrl : String) :
    GenRun Json :=
  if !c.dls then ⟨[], .returned⟩
  else
    match c.firstJson (pathJoin confluenceUrl "rest/api/3/users/search") >>= activeUsers with
    | .error e => ⟨[], .raised e⟩
    | .ok active =>
      match gather (active.map c.userProfile) with
      | .error e => ⟨[], .raised e⟩
      | .ok users =>
        match yieldEach (userAccessControlDoc accessControlQuery c.now) users with
        | (docs, some e) => ⟨docs, .raised e⟩
        | (docs, none) => ⟨docs, .returned⟩

end Connector

/-! ### The user document -/

/-- A comprehension over items that all read as dicts went over an array, and gives
each item's token. -/
theorem mapM_token_ok {token : Json → String} {key : String} {items : List Json}
    {ts : List String} (h : items.mapM (fun item => token <$> item.getD key (.str "")) = .ok ts) :
    (∀ item ∈ items, ∃ kvs, item = .obj kvs) ∧
      ts = items.map fun item => token (item.fieldD key (.str "")) := by
  induction items generalizing ts with
  | nil => cases h; exact ⟨fun _ h => absurd h (List.not_mem_nil _), rfl⟩
  | cons item items ih =>
    simp only [List.mapM_cons, except_bind_eq_ok] at h
    obtain ⟨t, ht, rest, hrest, h⟩ := h
    cases h
    obtain ⟨v, hv, rfl⟩ := except_map_eq_ok.1 ht
    obtain ⟨rfl, hobj⟩ := Json.getD_eq_ok hv
    obtain ⟨hobjs, rfl⟩ := ih hrest
    exact ⟨fun x hx => (List.mem_cons.1 hx).elim (· ▸ hobj) (hobjs x), rfl⟩

/-- The tokens of a set comprehension: each once, and exactly those of the items. -/
theorem userTokens_ok {token : Json → String} {field key : String} {user : Json}
    {ts : List String} (h : userTokens token field key user = .ok ts) :
    ts.Nodup ∧ ∀ t, t ∈ ts ↔
      ∃ item ∈ ((user.fieldD field (.obj [])).fieldD "items" (.arr [])).elems,
        t = token (item.fieldD key (.str "")) := by
  simp only [userTokens, except_bind_eq_ok] at h
  obtain ⟨u, hu, its, hits, items, hitems, h⟩ := h
  obtain ⟨raw, hraw, rfl⟩ := except_map_eq_ok.1 h
  obtain ⟨hobjs, rfl⟩ := mapM_token_ok hraw
  rw [Json.iter_of_objects hitems hobjs, (Json.getD_eq_ok hits).1, (Json.getD_eq_ok hu).1]
  refine ⟨List.nodup_dedup _, fun t => ?_⟩
  rw [List.mem_dedup, List.mem_map]
  exact ⟨fun ⟨item, hi, ht⟩ => ⟨item, hi, ht.symm⟩, fun ⟨item, hi, ht⟩ => ⟨item, hi, ht.symm⟩⟩

/-- For every profile and every `access_control_query`, when
`_user_access_control_doc` succeeds its document is the user document of the
profile's `accountId` and hyphenated `displayName`, merged with the query of the
tokens that grant the user: the prefixed account id, then the prefixed ids of the
profile's groups and the prefixed keys of its application roles, each list without
repeats and holding exactly those of the profile.  A profile whose `displayName` is
not a string, or is missing, raises `AttributeError`. -/
theorem userAccessControlDoc_tokens (accessControlQuery : List String → Json) (now : String)
    (profile : Json) :
    (∀ doc, userAccessControlDoc accessControlQuery now profile = .ok doc →
      ∃ displayName groupIds roleKeys,
        profile.fieldD "displayName" .null = .str displayName ∧
        (userDocument (profile.fieldD "accountId" .null)
            (prefixIdentity "name" (.str (displayName.replace " " "-"))) now).update
          (accessControlQuery
            (prefixAccountId (profile.fieldD "accountId" .null) :: (groupIds ++ roleKeys))) =
          .ok doc ∧
        groupIds.Nodup ∧ roleKeys.Nodup ∧
        (∀ t, t ∈ groupIds ↔
          ∃ g ∈ ((profile.fieldD "groups" (.obj [])).fieldD "items" (.arr [])).elems,
            t = prefixGroupId (g.fieldD "groupId" (.str ""))) ∧
        ∀ t, t ∈ roleKeys ↔
          ∃ r ∈ ((profile.fieldD "applicationRoles" (.obj [])).fieldD "items" (.arr [])).elems,
            t = prefixRoleKey (r.fieldD "key" (.str ""))) ∧
    ∀ v, profile.get "displayName" = .ok v → (∀ s, v ≠ .str s) →
      userAccessControlDoc accessControlQuery now profile = .error .attributeError := by
  refine ⟨fun doc h => ?_, fun v hv hns => ?_⟩
  · simp only [userAccessControlDoc, except_bind_eq_ok] at h
    obtain ⟨accountId, hid, name, hname, pname, hpname, gids, hg, rkeys, hr, h⟩ := h
    rw [← Json.get_eq_ok hid] at h
    cases name with
    | str displayName =>
      cases hpname
      obtain ⟨hgn, hgm⟩ := userTokens_ok hg
      obtain ⟨hrn, hrm⟩ := userTokens_ok hr
      exact ⟨displayName, gids, rkeys, Json.get_eq_ok hname, h, hgn, hrn, hgm, hrm⟩
    | _ => cases hpname
  · obtain ⟨kvs, rfl⟩ := (Json.getD_eq_ok hv).2
    simp only [userAccessControlDoc, hv, Json.get_obj, bind, Except.bind]
    cases v with
    | str s => exact absurd rfl (hns s)
    | _ => rfl

/-! ### The sync -/

theorem filterEach_ok {β : Type} {p : β → Except PyError Bool} :
    ∀ {xs ys : List β}, filterEach p xs = .ok ys → ys.Sublist xs ∧ ∀ y ∈ ys, p y = .ok true
  | [], ys, h => by cases h; exact ⟨List.Sublist.slnil, fun _ h => absurd h (List.not_mem_nil _)⟩
  | x :: xs, ys, h => by
    simp only [filterEach, except_bind_eq_ok] at h
    obtain ⟨keep, hkeep, rest, hrest, h⟩ := h
    cases h
    obtain ⟨hsub, hall⟩ := filterEach_ok hrest
    cases keep with
    | true =>
      refine ⟨hsub.cons₂ x, fun y hy => ?_⟩
      rcases List.mem_cons.1 hy with rfl | hy
      · exact hkeep
      · exact hall y hy
    | false => exact ⟨hsub.cons x, hall⟩

/-- A user is kept exactly when they have a profile URL, are active, and have the
account type `atlassian`. -/
theorem isActiveAtlassianUser_true {userInfo : Json}
    (h : isActiveAtlassianUser userInfo = .ok true) :
    (userInfo.fieldD "self" .null).truthy = true ∧ (userInfo.fieldD "active" .null).truthy = true ∧
      userInfo.fieldD "accountType" .null = .str "atlassian" := by
  simp only [isActiveAtlassianUser, except_bind_eq_ok] at h
  obtain ⟨url, hurl, _, -, h⟩ := h
  rw [Json.get_eq_ok hurl]
  split at h
  · cases h
  next hself =>
    simp only [except_bind_eq_ok] at h
    obtain ⟨active, hactive, h⟩ := h
    rw [Json.get_eq_ok hactive]
    split at h
    · cases h
    next hact =>
      obtain ⟨t, ht, h⟩ := except_bind_eq_ok.1 h
      have htype : t.isStr "atlassian" = true := Except.ok.inj h
      rw [Json.get_eq_ok ht]
      exact ⟨by simpa using hself, by simpa using hact, by simpa using htype⟩

theorem gather_ok {α : Type} {tasks : List (Except PyError α)} {rs : List α}
    (h : gather tasks = .ok rs) : tasks = rs.map .ok := by
  induction tasks generalizing rs with
  | nil => cases h; rfl
  | cons t ts ih =>
    simp only [gather, List.mapM_cons, id, except_bind_eq_ok] at h
    obtain ⟨r, rfl, rest, hrest, h⟩ := h
    cases h
    rw [ih hrest]
    rfl

theorem yieldEach_getElem? {β γ : Type} {f : β → Except PyError γ} :
    ∀ {ys : List β} {i : Nat} {z : γ}, (yieldEach f ys).1[i]? = some z →
      ∃ y, ys[i]? = some y ∧ f y = .ok z
  | [], _, _, h => by simp [yieldEach] at h
  | y :: ys, i, z, h => by
    simp only [yieldEach] at h
    cases hy : f y with
    | error e => simp [hy] at h
    | ok z' =>
      cases i with
      | zero =>
        simp only [hy, List.getElem?_cons_zero, Option.some.injEq] at h
        exact ⟨y, List.getElem?_cons_zero, h ▸ hy⟩
      | succ i =>
        simp only [hy, List.getElem?_cons_succ] at h
        obtain ⟨y', hy', hf⟩ := yieldEach_getElem? h
        exact ⟨y', by simpa using hy', hf⟩

namespace Connector

variable (c : Connector)

/-- Whom the identities sync yields documents for.  For every server and every
`access_control_query`: with document-level security off the sync yields nothing
and returns.  With it on, once it yields anything, the user listing's first
response listed the users it kept in their order, and the `i`-th document is
`_user_access_control_doc` of the profile fetched for the `i`-th kept user, a user
with a truthy profile URL, a truthy `active` and the account type `atlassian`. -/
theorem getAccessControl_users (accessControlQuery : List String → Json)
    (confluenceUrl : String) :
    (c.dls = false → (c.getAccessControl accessControlQuery confluenceUrl).yields = [] ∧
      (c.getAccessControl accessControlQuery confluenceUrl).ending = .returned) ∧
    ((c.getAccessControl accessControlQuery confluenceUrl).yields ≠ [] →
      ∃ (listing : Json) (active : List Json),
        c.firstJson (pathJoin confluenceUrl "rest/api/3/users/search") = .ok listing ∧
        (∃ users, listing.iter = .ok users ∧ active.Sublist users) ∧
        ∀ i (hi : i < (c.getAccessControl accessControlQuery confluenceUrl).yields.length),
          ∃ ha : i < active.length,
            (active[i].fieldD "self" .null).truthy = true ∧
            (active[i].fieldD "active" .null).truthy = true ∧
            active[i].fieldD "accountType" .null = .str "atlassian" ∧
            ∃ profile, c.userProfile active[i] = .ok profile ∧
              userAccessControlDoc accessControlQuery c.now profile =
                .ok ((c.getAccessControl accessControlQuery confluenceUrl).yields[i])) := by
  refine ⟨fun hdls => by simp [getAccessControl, hdls], fun hne => ?_⟩
  have hdls : c.dls = true := by
    by_contra h
    simp [getAccessControl, h] at hne
  cases hact : c.firstJson (pathJoin confluenceUrl "rest/api/3/users/search") >>= activeUsers with
  | error e => simp [getAccessControl, hdls, hact] at hne
  | ok active =>
    cases hgather : gather (active.map c.userProfile) with
    | error e => simp [getAccessControl, hdls, hact, hgather] at hne
    | ok profiles =>
      have hyields : (c.getAccessControl accessControlQuery confluenceUrl).yields =
          (yieldEach (userAccessControlDoc accessControlQuery c.now) profiles).1 := by
        simp only [getAccessControl, hdls, hact, hgather, Bool.not_true, Bool.false_eq_true,
          if_false]
        split <;> rename_i heq <;> simp [heq]
      obtain ⟨listing, hlisting, hfilter⟩ := except_bind_eq_ok.1 hact
      obtain ⟨users, husers, hsel⟩ := except_bind_eq_ok.1 hfilter
      obtain ⟨hsub, hkept⟩ := filterEach_ok hsel
      have hmap := gather_ok hgather
      refine ⟨listing, active, hlisting, ⟨users, husers, hsub⟩, fun i hi => ?_⟩
      obtain ⟨profile, hp, hdoc⟩ := yieldEach_getElem? (List.getElem?_eq_getElem (hyields ▸ hi))
      have hpi : i < profiles.length := (List.getElem?_eq_some_iff.1 hp).1
      have ha : i < active.length := by
        have hlen := congrArg List.length hmap
        simp only [List.length_map] at hlen
        omega
      obtain ⟨hself, hact', htype⟩ := isActiveAtlassianUser_true (hkept _ (List.getElem_mem ha))
      refine ⟨ha, hself, hact', htype, profile, ?_, ?_⟩
      · have := congrArg (·[i]?) hmap
        simpa [List.getElem?_eq_getElem ha, hp] using this
      · simp only [hyields]
        exact hdoc

end Connector

/-- A listing of two atlassian users, of whom only the first is active, and the
profile every profile URL answers with. -/
def identitySite : Connector where
  host := "https://x.atlassian.net/wiki"
  call url :=
    if url = "https://x.atlassian.net/rest/api/3/users/search" then
      ([⟨.ok (.arr [
        .obj [("self", .str "https://x.atlassian.net/rest/api/3/user?accountId=1"),
          ("active", .bool true), ("accountType", .str "atlassian")],
        .obj [("self", .str "https://x.atlassian.net/rest/api/3/user?accountId=2"),
          ("active", .bool false), ("accountType", .str "atlassian")]])⟩], none)
    else
      ([⟨.ok (.obj [("accountId", .str "1"), ("displayName", .str "Ada Lovelace"),
        ("groups", .obj [("items", .arr [.obj [("groupId", .str "g")]])])])⟩], none)
  fuel := 2
  spaces := [WILDCARD]
  dls := true
  now := "2023-01-01T00:00:00+00:00"

example : (identitySite.getAccessControl (fun tokens => .obj [("query", .arr (tokens.map .str))])
    "https://x.atlassian.net").yields.length = 1 := rfl

end Confluence
