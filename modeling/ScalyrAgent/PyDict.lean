/-!
# Python dicts

Both monitors build and read dicts with string keys: `PostgreSQLDb` the statistics row it zips
with the column names, `ProcessMonitor` the `extra_fields` of each metric.  A dict is its items
in insertion order; `d[k] = v` replaces the value of a key already there in place and appends a
new key.  That order is only the model's: the dicts built this way are read by key and never
iterated.

The one dict the monitors iterate is a display, `_database_stats["pg_stat_database"]`, and
CPython 2.7 iterates a dict in the order of the slots of its hash table.  `PyDict.display` builds
that table as `dictobject.c` does and reads the items off it in slot order.

* `PyDict.set_of_not_mem` and `PyDict.set_append_self`: a write of a new key appends it, and a
  second write of it replaces the value in place; `PyDict.set_set`: the second write wins.
* `PyDict.update_eq_append`: `update` by keys that do not repeat appends.
* `PyDict.stringHash`, `PyDict.lookdict`, `PyDict.insertDict` and `PyDict.display`: the hash of a
  `str`, the probe for a key's slot, the insertion with its resize, and the table a display
  builds.
-/

namespace ScalyrAgent

/-- A Python dict with string keys, as its items in insertion order. -/
abbrev PyDict (β : Type) := List (String × β)

/-- `d[k] = v`: replaces the value of a key already there, else adds the item. -/
def PyDict.set {β : Type} (d : PyDict β) (k : String) (v : β) : PyDict β :=
  if d.any (·.1 == k) then d.map fun item => if item.1 == k then (k, v) else item
  else d ++ [(k, v)]

/-- `d.update(e)`. -/
def PyDict.update {β : Type} (d e : PyDict β) : PyDict β :=
  e.foldl (fun d item => d.set item.1 item.2) d

/-- The dict that `d[k] = v` for each item in turn builds from `{}`: a later value of a
repeated key wins. -/
def PyDict.ofList {β : Type} (items : List (String × β)) : PyDict β :=
  items.foldl (fun r item => r.set item.1 item.2) []

/-- `d[k] = v` on a dict without the key `k` appends the item. -/
theorem PyDict.set_of_not_mem {β : Type} {d : PyDict β} {k : String} (h : k ∉ d.map Prod.fst)
    (v : β) : d.set k v = d ++ [(k, v)] := by
  rw [PyDict.set, if_neg]
  simpa using h

/-- A second write of a key appended last replaces its value. -/
theorem PyDict.set_append_self {β : Type} {d : PyDict β} {k : String} (h : k ∉ d.map Prod.fst)
    (v v' : β) : (d ++ [(k, v)]).set k v' = d ++ [(k, v')] := by
  have hd : d.map (fun item => if item.1 = k then (k, v') else item) = d.map id :=
    List.map_congr_left fun item hi => if_neg fun he => h (List.mem_map.2 ⟨item, hi, he⟩)
  rw [List.map_id] at hd
  simp [PyDict.set, List.map_append, hd]

example : PyDict.set [("type", "user"), ("app", "iis")] "app" "web" =
    [("type", "user"), ("app", "web")] := by decide

/-- Of two writes of one key, the second wins. -/
theorem PyDict.set_set {β : Type} (d : PyDict β) (k : String) (v v' : β) :
    (d.set k v).set k v' = d.set k v' := by
  by_cases h : d.any (·.1 == k)
  · have hany : (d.map fun item => if item.1 == k then (k, v) else item).any (·.1 == k) := by
      obtain ⟨x, hx, hxk⟩ := List.any_eq_true.1 h
      exact List.any_eq_true.2 ⟨(k, v), List.mem_map.2 ⟨x, hx, if_pos hxk⟩, by simp⟩
    simp only [PyDict.set, if_pos h, if_pos hany, List.map_map]
    congr 1
    funext item
    by_cases hi : item.1 = k <;> simp [hi]
  · have hk : k ∉ d.map Prod.fst := by simpa using h
    rw [PyDict.set_of_not_mem hk, PyDict.set_of_not_mem hk, PyDict.set_append_self hk]

/-- `d.update(e)` appends `e` when no key repeats. -/
theorem PyDict.update_eq_append {β : Type} {d e : PyDict β}
    (h : (d.map Prod.fst ++ e.map Prod.fst).Nodup) : d.update e = d ++ e := by
  induction e generalizing d with
  | nil => simp [PyDict.update]
  | cons x e ih =>
    have hx : x.1 ∉ d.map Prod.fst := fun hm =>
      (List.pairwise_append.1 h).2.2 _ hm _ (List.mem_cons_self _ _) rfl
    have h' : ((d ++ [x]).map Prod.fst ++ e.map Prod.fst).Nodup := by simpa using h
    show (e.foldl _ (d.set x.1 x.2)) = _
    rw [PyDict.set_of_not_mem hx, ← PyDict.update, ih h']
    simp

/-! ## The order CPython 2.7 iterates a dict display in

`d.keys()` lists the keys in the order of their slots.  A display `{k1: v1, ...}` of `n` items
runs `BUILD_MAP n`, which makes the table with room for `n` items (`_PyDict_NewPresized`), and
one `STORE_MAP` per item in the order written.  The model follows `stringobject.c` and
`dictobject.c` of CPython 2.7 on a 64-bit build with hash randomization off, its default, where
`long` and `size_t` are 64 bits wide.  A display has no deleted slots, so the table's fill is its
number of items.
-/

namespace PyDict

/-- `string_hash` of a `str` whose bytes are the characters of `s`: `x = s[0] << 7`, then
`x = (1000003 * x) ^ c` for every byte `c`, then `x ^= len(s)`; `-1` is kept for errors and
becomes `-2`. -/
def stringHash (s : String) : UInt64 :=
  match s.data with
  | [] => 0
  | c :: _ =>
    let x := s.data.foldl (fun (x : UInt64) b => 1000003 * x ^^^ b.toNat.toUInt64)
      (c.toNat.toUInt64 <<< 7)
    let x := x ^^^ s.length.toUInt64
    if x = 0xFFFFFFFFFFFFFFFF then 0xFFFFFFFFFFFFFFFE else x

/-- A hash table: its slots, a power of two of them, each empty or holding an item. -/
abbrev Table (β : Type) := List (Option (String × β))

/-- The probe loop of `lookdict_string` from the index `i` and `perturb`: the first slot
`i & mask` along `i = (i << 2) + i + perturb + 1`, `perturb >>= 5` that is empty or holds the key
`k`.  `fuel` bounds the number of probes. -/
def probe {β : Type} (table : Table β) (k : String) : Nat → UInt64 → UInt64 → Nat
  | 0, i, _ => (i &&& (table.length - 1).toUInt64).toNat
  | fuel + 1, i, perturb =>
    let j := (i &&& (table.length - 1).toUInt64).toNat
    match table.getD j none with
    | some (k', _) =>
      if k' = k then j else probe table k fuel ((i <<< 2) + i + perturb + 1) (perturb >>> 5)
    | none => j

/-- `lookdict_string`: the slot of the key `k`, starting at `hash & mask` with `perturb = hash`. -/
def lookdict {β : Type} (table : Table β) (k : String) : Nat :=
  probe table k (table.length + 64) (stringHash k &&& (table.length - 1).toUInt64) (stringHash k)

/-- The size `dictresize` gives a table for `minused` items: the first of `8, 16, 32, ...` above
`minused`, with at most `fuel` doublings. -/
def newSize : Nat → Nat → Nat → Nat
  | 0, n, _ => n
  | fuel + 1, n, minused => if n ≤ minused then newSize fuel (2 * n) minused else n

/-- `dictresize(mp, minused)`: a new table of `newSize` slots, into which the items go again in
the order of their old slots. -/
def dictResize {β : Type} (table : Table β) (minused : Nat) : Table β :=
  (table.filterMap id).foldl (fun t item => t.set (lookdict t item.1) (some item))
    (List.replicate (newSize minused 8 minused) none)

/-- `PyDict_SetItem`: `insertdict` puts the item in the slot of its key; when the key was new and
the table is two thirds full, the table is resized for four times its items (twice past
50000). -/
def insertDict {β : Type} (table : Table β) (item : String × β) : Table β :=
  let i := lookdict table item.1
  let t := table.set i (some item)
  let used := (t.filterMap id).length
  if (table.getD i none).isNone ∧ table.length * 2 ≤ used * 3 then
    dictResize t ((if used > 50000 then 2 else 4) * used)
  else t

/-- The dict a display `{k1: v1, ...}` builds, as its items in the order `keys()` gives them:
`_PyDict_NewPresized(n)` resizes the empty table of 8 slots for `n` items when `n > 5`, and the
items are set in the order written. -/
def display {β : Type} (items : List (String × β)) : List (String × β) :=
  let empty : Table β := List.replicate 8 none
  (items.foldl insertDict
    (if items.length > 5 then dictResize empty items.length else empty)).filterMap id

end PyDict

end ScalyrAgent
