import ConfluenceConnector.Producers

/-!
The advanced-rules branch of `get_docs`: `search_by_query`, and the lazy
`download_attachment` it pairs with an attachment.

With advanced sync rules `get_docs` starts no producer.  It runs one CQL search per
rule, `search_by_query(query)`, which follows `paginated_api_call(SEARCH, ...)` and
turns each hit into a document.  A hit's details are its `space` when that is truthy
and its `content` otherwise.  An attachment whose container has no title is
dropped.  A content hit takes the type and space name of its details; an attachment
further takes its file size and, under its container's type, its container's title,
loses its `body`, and comes with its download link.  `get_docs` yields each
document with `partial(download_attachment, link[1:], copy(document))` when the link
is truthy, and with `None` otherwise.

The documents come in two shapes: one with the hit's excerpt as its `body` and no
download link, and an attachment record with a `size` and no `body`.
`download_attachment` downloads only when asked to (`doit`), for a non-empty file
whose extension, lowered by `str.lower`, `TIKA_SUPPORTED_FILETYPES` lists and whose
size is at most `FILE_SIZE_LIMIT`; otherwise it returns `None`, and the document is
indexed without content.

The download itself (a temporary file, base64, reading it back) is one parameter:
the text it gives, or the exception it raises.  Not modelled: which advanced rules
the filtering holds (`get_advanced_rules()` is taken as the list of rules it
returns) and the validator of those rules.
-/

namespace Confluence

/-- `CONTENT`. -/
def CONTENT : String := "content"

/-- `SEARCH_QUERY`. -/
def SEARCH_QUERY : String :=
  "limit=100&expand=content.extensions,content.container,content.space,space.description"

/-- `FILE_SIZE_LIMIT`. -/
def FILE_SIZE_LIMIT : Int := 10485760

/-! ### `search_by_query` -/

/-- `entity.get(SPACE) or entity.get(CONTENT)`. -/
def entityDetailsOf (entity : Json) : Except PyError Json := do
  let space ← entity.get SPACE
  if space.truthy then pure space else entity.get CONTENT

/-- `entity_details["type"] == "attachment" and entity_details["container"].get("title")
is None`, which reads the container only for an attachment. -/
def skipsEntity (entityDetails : Json) : Except PyError Bool := do
  if (← entityDetails.index "type").isStr "attachment" then
    return (← (← entityDetails.index "container").get "title").isNone
  else
    return false

/-- The `document` dict `search_by_query` builds for an entity. -/
def entityDocument (host : String) (entity entityDetails : Json) : Except PyError Json := do
  return .obj [("_id", ← entityDetails.get "id"), ("title", ← entity.get "title"),
    ("_timestamp", ← entity.get "lastModified"), ("body", ← entity.get "excerpt"),
    ("type", ← entity.get "entityType"),
    ("url", .str (← joinOnto host (← (← entity.get "url").dropFirst)))]

/-- What an attachment found as content adds: its size, its container's title under
its container's type, no `body`, and its `download_url`. -/
def attachmentUpdate (entityDetails document : Json) : Except PyError (Json × Json) := do
  let containerType ← (← entityDetails.getD "container" (.obj [])).get "type"
  let containerTitle ← (← entityDetails.getD "container" (.obj [])).get "title"
  let fileSize ← (← entityDetails.getD "extensions" (.obj [])).get "fileSize"
  let document ←
    document.update (← dictDisplay [(.str "size", fileSize), (containerType, containerTitle)])
  let document ← document.pop "body"
  return (document, ← (← entityDetails.getD "_links" (.obj [])).get "download")

/-- The block under `if document["type"] == "content":`, giving the document and its
`download_url`. -/
def contentUpdate (entityDetails document : Json) : Except PyError (Json × Json) := do
  let document ← document.update (.obj [("type", ← entityDetails.get "type"),
    ("space", ← (← entityDetails.getD "space" (.obj [])).get "name")])
  if (← document.index "type").isStr "attachment" then
    attachmentUpdate entityDetails document
  else
    return (document, .null)

/-- The body of the loop of `search_by_query` for one `entity`: the document and its
`download_url`, or nothing for a skipped attachment. -/
def searchResult (host : String) (entity : Json) : Except PyError (Option (Json × Json)) := do
  let entityDetails ← entityDetailsOf entity
  if ← skipsEntity entityDetails then
    return none
  else
    let document ← entityDocument host entity entityDetails
    if (← document.index "type").isStr "content" then
      some <$> contentUpdate entityDetails document
    else
      return some (document, .null)

/-- What the loop of `get_docs` yields for one `(document, download_link)` of a search. -/
def advancedItem (yielded : Json × Json) : Except PyError HarvestItem :=
  if yielded.2.truthy then
    (fun link => (yielded.1, some (link, yielded.1))) <$> yielded.2.dropFirst
  else
    pure (yielded.1, none)

/-- `for y in ys: yield f(y)`, up to the first `f(y)` that raises, and that exception. -/
def yieldEach {β γ : Type} (f : β → Except PyError γ) : List β → List γ × Option PyError
  | [] => ([], none)
  | y :: ys =>
    match f y with
    | .error e => ([], some e)
    | .ok z =>
      let rest := yieldEach f ys
      (z :: rest.1, rest.2)

namespace Connector

variable (c : Connector)

/-- The pages `search_by_query(query)` reads. -/
def searchPages (query : Json) : GenRun Json :=
  c.pages .search [("query", query.toPyStr ++ "&" ++ SEARCH_QUERY)]

/-- `search_by_query(query)`. -/
def searchByQuery (query : Json) : GenRun (Json × Json) :=
  scanPages () (fun _ entity => (fun y => ((), y)) <$> searchResult c.host entity)
    (c.searchPages query).ending (c.searchPages query).yields

/-- `get_docs(filtering)` when the filtering has advanced rules: the search of each
rule's `query`, one rule after the other. -/
def advancedDocs : List Json → GenRun HarvestItem
  | [] => ⟨[], .returned⟩
  | rule :: rules =>
    match rule.get "query" with
    | .error e => ⟨[], .raised e⟩
    | .ok query =>
      match yieldEach advancedItem (c.searchByQuery query).yields with
      | (items, some e) => ⟨items, .raised e⟩
      | (items, none) =>
        match (c.searchByQuery query).ending with
        | .returned =>
          let rest := advancedDocs rules
          ⟨items ++ rest.yields, rest.ending⟩
        | ending => ⟨items, ending⟩

end Connector

/-! ### `download_attachment` -/

/-- `os.path.splitext(p)[-1]` on POSIX: the last component from its last `.`, unless
only dots come before that `.` in the component. -/
def fileExtension (p : String) : String :=
  let base := (p.data.reverse.takeWhile (· != '/')).reverse
  let rest := base.dropWhile (· == '.')
  if '.' ∈ rest then ⟨'.' :: (rest.reverse.takeWhile (· != '.')).reverse⟩ else ""

example : fileExtension "docs/Report.final.PDF" = ".PDF" := by decide

example : fileExtension "a.b/.bashrc" = "" := by decide

/-- Python's `str.lower` on one character, where its result can be ASCII: `A` to `Z`
lower to `a` to `z`, and the Kelvin sign (U+212A) to `k`.  Every other character
lowers to itself or to a string holding a character outside ASCII.  The model keeps
such a character as it is, which answers a comparison with the ASCII extensions of
`TIKA_SUPPORTED_FILETYPES` as Python does. -/
def pyLowerChar (c : Char) : Char := if c = '\u212A' then 'k' else c.toLower

/-- `str.lower()` of an extension, as `download_attachment` compares it. -/
def pyLower (s : String) : String := ⟨s.data.map pyLowerChar⟩

example : pyLower (fileExtension "notes.MAR\u212ADOWN") = ".markdown" := by decide

/-- `download_attachment(url, attachment, doit=doit)`.  `supported` is
`TIKA_SUPPORTED_FILETYPES`, and `download` is what the download from
`os.path.join(host_url, url)` gives: the file's base64 text, stripped, or the
exception it raised. -/
def downloadAttachment (supported : List String) (download : Except PyError String)
    (attachment : Json) (doit : Bool) : Except PyError (Option Json) := do
  let attachmentSize ← (← attachment.index "size").toPyInt
  if !(doit && attachmentSize != 0) then
    return none
  else
    let attachmentName ← (← attachment.index "title").asStr
    if !supported.contains (pyLower (fileExtension attachmentName)) then
      return none
    else if attachmentSize > FILE_SIZE_LIMIT then
      return none
    else
      let id ← attachment.index "_id"
      let timestamp ← attachment.index "_timestamp"
      let content ← download
      return some (.obj [("_id", id), ("_timestamp", timestamp), ("_attachment", .str content)])

end Confluence
