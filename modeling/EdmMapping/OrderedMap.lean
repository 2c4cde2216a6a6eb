/-!
# Ordered maps

Finite maps from names to values that remember the order in which their keys were first added.

* `OrderedMap` — the entries in order, with the fact that no key stands twice;
* `find?`, `contains`, `keys`, `values` — the view by key and by position;
* `insert` — a known key keeps its place and takes the new value, a new key goes to the end;
* `alter` — the same for a value that depends on the present one.

`find?_insert_self` and `find?_insert_of_ne` pin down the view of `insert` by key, and `keys_alter`
its view by position; `find?_eq_some_iff` says that both views hold the same entries, and
`ext_find?` that a map is known from them.
-/

set_option autoImplicit false

namespace EdmMapping

universe u

/-- Entries in the order in which their keys were added, each key once. -/
structure OrderedMap (β : Type u) where
  entries : List (String × β)
  nodup_keys : (entries.map Prod.fst).Nodup

namespace OrderedMap

variable {β : Type u}

@[ext] theorem ext {m n : OrderedMap β} (h : m.entries = n.entries) : m = n := by
  cases m; cases n; simp_all

def empty : OrderedMap β := ⟨[], by simp⟩

instance : EmptyCollection (OrderedMap β) := ⟨empty⟩

instance : Inhabited (OrderedMap β) := ⟨empty⟩

def keys (m : OrderedMap β) : List String := m.entries.map Prod.fst

/-- The values, in the order of their keys. -/
def values (m : OrderedMap β) : List β := m.entries.map Prod.snd

def size (m : OrderedMap β) : Nat := m.entries.length

def isEmpty (m : OrderedMap β) : Bool := m.entries.isEmpty

def find? (m : OrderedMap β) (key : String) : Option β := m.entries.lookup key

def contains (m : OrderedMap β) (key : String) : Bool := (m.find? key).isSome

/-- Replaces the value at the key by `f` of it; a new key goes to the end with the value
`f none`. -/
def alterEntries (key : String) (f : Option β → β) : List (String × β) → List (String × β)
  | [] => [(key, f none)]
  | (k, v) :: rest =>
    if k = key then (k, f (some v)) :: rest else (k, v) :: alterEntries key f rest

theorem map_fst_alterEntries (key : String) (f : Option β → β) (entries : List (String × β)) :
    (alterEntries key f entries).map Prod.fst =
      if key ∈ entries.map Prod.fst then entries.map Prod.fst
      else entries.map Prod.fst ++ [key] := by
  induction entries with
  | nil => simp [alterEntries]
  | cons entry rest ih =>
    obtain ⟨k, v⟩ := entry
    by_cases h : k = key
    · simp [alterEntries, h]
    · by_cases hmem : key ∈ rest.map Prod.fst
      · simp only [alterEntries, h, if_false, List.map_cons, ih, hmem, if_true]
        simp [hmem]
      · simp only [alterEntries, h, if_false, List.map_cons, ih, hmem]
        simp [Ne.symm h, hmem]

/-- Gives the key the value `f` of its present one: in place if there is one, else at the end. -/
def alter (m : OrderedMap β) (key : String) (f : Option β → β) : OrderedMap β where
  entries := alterEntries key f m.entries
  nodup_keys := by
    rw [map_fst_alterEntries]
    split
    · exact m.nodup_keys
    · rename_i h
      exact List.nodup_append.2 ⟨m.nodup_keys, by simp, by
        intro a ha b hb
        rw [List.mem_singleton.1 hb]
        exact fun e => h (e ▸ ha)⟩

/-- Gives the key the value: in place if the key is known, else at the end. -/
def insert (m : OrderedMap β) (key : String) (value : β) : OrderedMap β :=
  m.alter key fun _ => value

/-- The map that holds the entries, inserted one after the other. -/
def ofList (entries : List (String × β)) : OrderedMap β :=
  entries.foldl (fun m (key, value) => m.insert key value) empty

theorem keys_alter (m : OrderedMap β) (key : String) (f : Option β → β) :
    (m.alter key f).keys = if key ∈ m.keys then m.keys else m.keys ++ [key] :=
  map_fst_alterEntries key f m.entries

theorem lookup_alterEntries (key other : String) (f : Option β → β)
    (entries : List (String × β)) :
    (alterEntries key f entries).lookup other =
      if other = key then some (f (entries.lookup key)) else entries.lookup other := by
  induction entries with
  | nil =>
    by_cases h : other = key
    · simp [alterEntries, h]
    · have : (other == key) = false := by simpa using h
      simp [alterEntries, List.lookup_cons, this, h]
  | cons entry rest ih =>
    obtain ⟨k, v⟩ := entry
    by_cases h : k = key
    · subst h
      by_cases ho : other = k
      · simp [alterEntries, ho]
      · have : (other == k) = false := by simpa using ho
        simp [alterEntries, List.lookup_cons, this, ho]
    · have hkk : (key == k) = false := by simpa using Ne.symm h
      by_cases ho : other = k
      · have hok : other ≠ key := fun e => h (ho ▸ e)
        simp [alterEntries, h, ho]
      · have hob : (other == k) = false := by simpa using ho
        simp [alterEntries, h, List.lookup_cons, hob, hkk, ih]

@[simp] theorem find?_alter_self (m : OrderedMap β) (key : String) (f : Option β → β) :
    (m.alter key f).find? key = some (f (m.find? key)) := by
  simp [find?, alter, lookup_alterEntries]

theorem find?_alter_of_ne (m : OrderedMap β) {key other : String} (h : other ≠ key)
    (f : Option β → β) : (m.alter key f).find? other = m.find? other := by
  simp [find?, alter, lookup_alterEntries, h]

@[simp] theorem find?_insert_self (m : OrderedMap β) (key : String) (value : β) :
    (m.insert key value).find? key = some value :=
  m.find?_alter_self key _

theorem find?_insert_of_ne (m : OrderedMap β) {key other : String} (h : other ≠ key)
    (value : β) : (m.insert key value).find? other = m.find? other :=
  m.find?_alter_of_ne h _

/-- The value at a key is that of the one entry with the key. -/
theorem find?_eq_some_iff (m : OrderedMap β) {key : String} {value : β} :
    m.find? key = some value ↔ (key, value) ∈ m.entries := by
  unfold find?
  rw [List.lookup_eq_some_iff]
  constructor
  · rintro ⟨before, after, heq, -⟩
    rw [heq]
    simp
  · intro hmem
    obtain ⟨before, after, heq⟩ := List.append_of_mem hmem
    refine ⟨before, after, heq, ?_⟩
    have hnodup := m.nodup_keys
    rw [heq, List.map_append, List.nodup_append] at hnodup
    intro entry hentry
    have hne := hnodup.2.2 entry.1 (List.mem_map_of_mem hentry) key (by simp)
    simpa using hne.symm

theorem mem_keys_iff (m : OrderedMap β) {key : String} :
    key ∈ m.keys ↔ ∃ value, m.find? key = some value := by
  simp [keys, find?_eq_some_iff]

/-- The entries are the keys, each with the value at it. -/
theorem map_some_entries (m : OrderedMap β) :
    m.entries.map some = m.keys.map fun key => (m.find? key).map (key, ·) := by
  unfold keys
  rw [List.map_map]
  apply List.map_congr_left
  rintro ⟨key, value⟩ hentry
  simp [m.find?_eq_some_iff.2 hentry]

/-- A map is known from both of its views: the order of its keys, and the value at each. -/
theorem ext_find? {m n : OrderedMap β} (hkeys : m.keys = n.keys)
    (hfind : ∀ key, m.find? key = n.find? key) : m = n := by
  have hentries : m.entries.map some = n.entries.map some := by
    rw [m.map_some_entries, n.map_some_entries, hkeys]
    simp only [hfind]
  exact ext ((List.map_inj_right fun _ _ h => Option.some.inj h).1 hentries)

end OrderedMap

end EdmMapping
