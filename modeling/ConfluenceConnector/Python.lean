
/-!
The Python values the connector reads, and what reading them can raise.

Every body the connector looks at has been through `await response.json()`, so the
values it handles are JSON seen from Python: an object is a `dict`, an array a
`list`, `null` is `None`.  The source reads them with `v.get(k)`, `v.get(k, d)`,
`v[k]`, `v[1:]`, `for x in v`, `a + b`, `x > 0`, truth tests and `os.path.join`,
and each of these raises on the wrong kind of value.  Which one raises, and what,
decides which path a producer takes, so every operation here is a total function
into `Except PyError` that raises exactly where CPython does.

Objects are association lists.  `json.loads` builds a `dict`, whose keys are
distinct, and lookup takes the first binding, which is then the only one.
-/

namespace Confluence

/-- A value as `response.json()` returns it. -/
inductive Json where
  | null
  | bool (b : Bool)
  | num (n : Int)
  | str (s : String)
  | arr (xs : List Json)
  | obj (kvs : List (String × Json))
  deriving Repr, Inhabited

/-- The exceptions the source raises, or lets through from what it calls. -/
inductive PyError where
  /-- `d[k]` on a `dict` without `k`. -/
  | keyError (key : String)
  /-- Subscripting, slicing, iterating, adding or comparing the wrong kind of value. -/
  | typeError
  /-- `.get` on something that is not a `dict`. -/
  | attributeError
  /-- `aiohttp.ServerDisconnectedError`, which `api_call` treats apart. -/
  | serverDisconnectedError
  /-- `RuntimeError("Session is closed")`, raised by a request on a closed session. -/
  | sessionClosed
  /-- `ClientResponseError` for an error status (the session has `raise_for_status`). -/
  | clientResponseError (status : Nat)
  /-- `ClientPayloadError`: the connection broke while a response was read or released. -/
  | clientPayloadError
  /-- `response.json()` on a body that is not JSON. -/
  | contentTypeError
  /-- `ConfigurableFieldValueError` with its message. -/
  | configurableFieldValueError (msg : String)
  /-- `int(s)` on a string that is not an integer. -/
  | valueError
  /-- `anext(gen)` on a generator that finishes without yielding. -/
  | stopAsyncIteration
  deriving Repr, DecidableEq

namespace Json

/-- `v.get(k, d)`: only a `dict` has `get`. -/
def getD (v : Json) (k : String) (d : Json) : Except PyError Json :=
  match v with
  | .obj kvs => .ok ((kvs.lookup k).getD d)
  | _ => .error .attributeError

/-- `v.get(k)`, whose default is `None`. -/
def get (v : Json) (k : String) : Except PyError Json := v.getD k .null

/-- `v[k]` with a string key. -/
def index (v : Json) (k : String) : Except PyError Json :=
  match v with
  | .obj kvs =>
    match kvs.lookup k with
    | some x => .ok x
    | none => .error (.keyError k)
  | _ => .error .typeError

/-- `v[1:]`. -/
def dropFirst (v : Json) : Except PyError Json :=
  match v with
  | .str s => .ok (.str (s.drop 1))
  | .arr xs => .ok (.arr xs.tail)
  | _ => .error .typeError

/-- `for x in v`: a list gives its elements, a dict its keys, a string its characters. -/
def iter (v : Json) : Except PyError (List Json) :=
  match v with
  | .arr xs => .ok xs
  | .obj kvs => .ok (kvs.map fun kv => .str kv.1)
  | .str s => .ok (s.data.map fun c => .str c.toString)
  | _ => .error .typeError

/-- The integer a number or a `bool` stands for in arithmetic. -/
def toInt? : Json → Option Int
  | .num n => some n
  | .bool b => some (if b then 1 else 0)
  | _ => none

/-- `a + b`, for the kinds `user_results + group_results` can meet. -/
def add : Json → Json → Except PyError Json
  | .arr xs, .arr ys => .ok (.arr (xs ++ ys))
  | .str s, .str t => .ok (.str (s ++ t))
  | a, b =>
    match a.toInt?, b.toInt? with
    | some m, some n => .ok (.num (m + n))
    | _, _ => .error .typeError

/-- `v > 0`: only numbers (and `bool`s) compare with an `int`. -/
def gtZero (v : Json) : Except PyError Bool :=
  match v.toInt? with
  | some n => .ok (0 < n)
  | none => .error .typeError

/-- The truth value `if v:` tests. -/
def truthy : Json → Bool
  | .null => false
  | .bool b => b
  | .num n => n != 0
  | .str s => !s.isEmpty
  | .arr xs => !xs.isEmpty
  | .obj kvs => !kvs.isEmpty

/-- `v == s` for a string literal `s`: only a string equal to it. -/
def isStr (s : String) : Json → Bool
  | .str t => t == s
  | _ => false

mutual
/-- `str(v)` when `quoted` is false and `repr(v)` when it is true: the two differ
only on strings, which `repr` quotes. -/
def pyFormat (quoted : Bool) : Json → String
  | .null => "None"
  | .bool true => "True"
  | .bool false => "False"
  | .num n => toString n
  | .str s => if quoted then "'" ++ s ++ "'" else s
  | .arr xs => "[" ++ reprList xs ++ "]"
  | .obj kvs => "\x7b" ++ reprObj kvs ++ "\x7d"
/-- The elements of a list as `str` of the list shows them. -/
def reprList : List Json → String
  | [] => ""
  | [x] => pyFormat true x
  | x :: xs => pyFormat true x ++ ", " ++ reprList xs
/-- The entries of a dict as `str` of the dict shows them. -/
def reprObj : List (String × Json) → String
  | [] => ""
  | [(k, v)] => "'" ++ k ++ "': " ++ pyFormat true v
  | (k, v) :: kvs => "'" ++ k ++ "': " ++ pyFormat true v ++ ", " ++ reprObj kvs
end

/-- `str(v)`, as an f-string formats it. -/
def toPyStr (v : Json) : String := v.pyFormat false

/-- Storing `kv` in a dict's entries: an existing key keeps its place and takes the
new value, a new key goes last. -/
def insertEntry (kvs : List (String × Json)) (kv : String × Json) : List (String × Json) :=
  if kvs.any (·.1 == kv.1) then kvs.map fun p => if p.1 == kv.1 then kv else p
  else kvs ++ [kv]

/-- The keys of a dict, in order, and none for any other value. -/
def keys : Json → List String
  | .obj kvs => kvs.map (·.1)
  | _ => []

/-- `d.update(other)` for a dict `other`: each of its entries goes in as `d[k] = v`. -/
def update (d other : Json) : Except PyError Json :=
  match d, other with
  | .obj kvs, .obj new => .ok (.obj (new.foldl insertEntry kvs))
  | .obj _, _ => .error .typeError
  | _, _ => .error .attributeError

/-- `d.pop(k)`, for the dict it leaves: a missing key raises `KeyError`. -/
def pop (d : Json) (k : String) : Except PyError Json :=
  match d with
  | .obj kvs =>
    if kvs.any (·.1 == k) then .ok (.obj (kvs.filter (·.1 != k))) else .error (.keyError k)
  | _ => .error .attributeError

/-- `v is None`. -/
def isNone : Json → Bool
  | .null => true
  | _ => false

/-- `int(s)` for a string: a decimal numeral with an optional sign, between blanks.
Python also reads `_` between digits, and non-ASCII digits and blanks, which the
model does not. -/
def parseInt (s : String) : Option Int :=
  match s.trim.data with
  | '+' :: ds => Int.ofNat <$> (String.mk ds).toNat?
  | '-' :: ds => (fun n => -Int.ofNat n) <$> (String.mk ds).toNat?
  | ds => Int.ofNat <$> (String.mk ds).toNat?

/-- `int(v)`: a number is itself, a `bool` is `0` or `1`, a string is parsed. -/
def toPyInt : Json → Except PyError Int
  | .num n => .ok n
  | .bool b => .ok (if b then 1 else 0)
  | .str s =>
    match parseInt s with
    | some n => .ok n
    | none => .error .valueError
  | _ => .error .typeError

/-- A value where the source needs a string (an element of `', '.join(xs)` or of
the identities a document already carries): only a string is one. -/
def asStr : Json → Except PyError String
  | .str s => .ok s
  | _ => .error .typeError

/-- `d[k] = v`: only a `dict` takes an item. -/
def setKey (d : Json) (k : String) (v : Json) : Except PyError Json :=
  match d with
  | .obj kvs => .ok (.obj (insertEntry kvs (k, v)))
  | _ => .error .typeError

@[simp] theorem getD_obj (kvs : List (String × Json)) (k : String) (d : Json) :
    (Json.obj kvs).getD k d = .ok ((kvs.lookup k).getD d) := rfl

@[simp] theorem get_obj (kvs : List (String × Json)) (k : String) :
    (Json.obj kvs).get k = .ok ((kvs.lookup k).getD .null) := rfl

/-- The value under `k`, as `v.get(k, d)` reads it, and `d` when `v` is not a dict. -/
def fieldD (v : Json) (k : String) (d : Json) : Json :=
  match v with
  | .obj kvs => (kvs.lookup k).getD d
  | _ => d

/-- The elements of an array, and nothing for any other value. -/
def elems : Json → List Json
  | .arr xs => xs
  | _ => []

theorem getD_eq_ok {v : Json} {k : String} {d r : Json} (h : v.getD k d = .ok r) :
    r = v.fieldD k d ∧ ∃ kvs, v = .obj kvs := by
  cases v <;> simp_all [getD, fieldD]

/-- Iterating a value whose items all turn out to be dicts went over an array. -/
theorem iter_of_objects {v : Json} {items : List Json} (h : v.iter = .ok items)
    (hobj : ∀ x ∈ items, ∃ kvs, x = .obj kvs) : items = v.elems := by
  cases v with
  | arr xs => cases h; rfl
  | obj kvs =>
    cases h
    cases kvs with
    | nil => rfl
    | cons kv _ => simpa using hobj _ (List.mem_cons_self _ _)
  | str s =>
    cases h
    cases hs : s.data with
    | nil => simp [hs, Json.elems]
    | cons c _ =>
      obtain ⟨kvs, hk⟩ := hobj (.str c.toString) (by simp [hs])
      cases hk
  | _ => cases h

theorem elems_add {a b s : Json} (h : a.add b = .ok s) : s.elems = a.elems ++ b.elems := by
  cases a <;> cases b <;> simp_all [Json.add, Json.toInt?, Json.elems] <;> cases h <;> rfl

theorem mem_insertEntry_keys {kvs : List (String × Json)} {kv : String × Json} {k : String} :
    k ∈ (insertEntry kvs kv).map (·.1) ↔ k ∈ kvs.map (·.1) ∨ k = kv.1 := by
  unfold insertEntry
  split
  next hany =>
    have hfst : (kvs.map fun p => if p.1 == kv.1 then kv else p).map (·.1) = kvs.map (·.1) := by
      simp only [List.map_map]
      refine List.map_congr_left fun p _ => ?_
      by_cases hp : p.1 = kv.1 <;> simp [hp]
    obtain ⟨p, hp, hpk⟩ := List.any_eq_true.1 hany
    rw [hfst]
    refine ⟨.inl, fun h => h.elim id fun hk => List.mem_map.2 ⟨p, hp, ?_⟩⟩
    simpa [hk] using hpk
  · simp

/-- The keys after `d.update(other)`: those of `d`, then those of `other`. -/
theorem mem_foldl_insertEntry_keys (new : List (String × Json)) {kvs : List (String × Json)}
    {k : String} :
    k ∈ (new.foldl insertEntry kvs).map (·.1) ↔
      k ∈ kvs.map (·.1) ∨ k ∈ new.map (·.1) := by
  induction new generalizing kvs with
  | nil => simp
  | cons kv new ih =>
    rw [List.foldl_cons, ih, mem_insertEntry_keys, List.map_cons, List.mem_cons, or_assoc]

theorem update_ok {d other r : Json} (h : d.update other = .ok r) :
    ∀ k, k ∈ r.keys ↔ k ∈ d.keys ∨ k ∈ other.keys := by
  unfold update at h
  split at h
  · cases h
    exact fun _ => mem_foldl_insertEntry_keys _
  all_goals cases h

theorem pop_ok {d r : Json} {k : String} (h : d.pop k = .ok r) :
    ∀ k', k' ∈ r.keys ↔ k' ∈ d.keys ∧ k' ≠ k := by
  unfold pop at h
  split at h
  · split at h
    · cases h
      intro k'
      simp only [keys, List.mem_map, List.mem_filter, bne_iff_ne, ne_eq]
      constructor
      · rintro ⟨p, ⟨hp, hne⟩, rfl⟩
        exact ⟨⟨p, hp, rfl⟩, hne⟩
      · rintro ⟨⟨p, hp, rfl⟩, hne⟩
        exact ⟨p, ⟨hp, hne⟩, rfl⟩
    · cases h
  · cases h

theorem any_key_of_lookup_none {kvs : List (String × Json)} {k : String}
    (h : kvs.lookup k = none) : kvs.any (·.1 == k) = false := by
  induction kvs with
  | nil => rfl
  | cons kv kvs ih =>
    obtain ⟨k', v⟩ := kv
    by_cases hk : k = k'
    · simp [List.lookup_cons, hk] at h
    · have hne : (k == k') = false := by simpa using hk
      simp only [List.lookup_cons, hne] at h
      simp [ih h, Ne.symm hk]

end Json

theorem except_bind_eq_ok {ε α β : Type} {x : Except ε α} {f : α → Except ε β} {b : β} :
    x >>= f = .ok b ↔ ∃ a, x = .ok a ∧ f a = .ok b := by
  cases x <;> simp [bind, Except.bind]

theorem except_map_eq_ok {ε α β : Type} {x : Except ε α} {f : α → β} {b : β} :
    f <$> x = .ok b ↔ ∃ a, x = .ok a ∧ f a = b := by
  cases x <;> simp [Functor.map, Except.map]

/-- A `mapM` in which every element succeeds gives every element's result. -/
theorem mapM_eq_ok_map {ε α β : Type} {f : α → Except ε β} {g : α → β} {xs : List α}
    (h : ∀ x ∈ xs, f x = .ok (g x)) : xs.mapM f = .ok (xs.map g) := by
  induction xs with
  | nil => rfl
  | cons x xs ih =>
    simp only [List.mapM_cons, h x (List.mem_cons_self _ _),
      ih fun y hy => h y (List.mem_cons_of_mem _ hy), List.map_cons]
    rfl

/-- `os.path.join(a, b)` on POSIX: an absolute `b` replaces `a`. -/
def pathJoin (a b : String) : String :=
  if b.data.head? = some '/' then b
  else if a.data.isEmpty || a.data.getLast? = some '/' then a ++ b
  else a ++ "/" ++ b

/-- `os.path.join(host, v)` for a value read from a response: only a string joins. -/
def joinOnto (host : String) : Json → Except PyError String
  | .str s => .ok (pathJoin host s)
  | _ => .error .typeError

example : pathJoin "https://x.atlassian.net/wiki" "spaces/A" =
    "https://x.atlassian.net/wiki/spaces/A" := by decide

example : pathJoin "https://x.atlassian.net/wiki" "/rest/api/space" = "/rest/api/space" := by
  decide

end Confluence
