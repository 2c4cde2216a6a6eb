import EdmMapping.Proofs.Toml.Table
import EdmMapping.Toml.Record

/-!
# Tables are read entry by entry

An ordered map could drop entries of a table that gives a key twice.  No proper value has such a
table, so a map has the entries of its table, in their order.

* `OrderedMap.entries_ofList` — distinct keys are kept as they are;
* `Value.IsProper.nodup_keys` — the entries of a proper value have distinct keys;
* `Value.entries_of_orderedMap?` — the map that is read from a proper value.
-/

set_option autoImplicit false

namespace EdmMapping

namespace OrderedMap

universe u

variable {β : Type u}

theorem alterEntries_of_notMem {key : String} {f : Option β → β} {entries : List (String × β)}
    (h : key ∉ entries.map Prod.fst) :
    alterEntries key f entries = entries ++ [(key, f none)] := by
  induction entries with
  | nil => rfl
  | cons entry entries ih =>
    obtain ⟨k, v⟩ := entry
    obtain ⟨hne, hrest⟩ : key ≠ k ∧ key ∉ entries.map Prod.fst := by simpa using h
    rw [alterEntries, if_neg hne.symm, ih hrest, List.cons_append]

theorem entries_insert_of_notMem {m : OrderedMap β} {key : String} (h : key ∉ m.keys) (value : β) :
    (m.insert key value).entries = m.entries ++ [(key, value)] :=
  alterEntries_of_notMem h

theorem entries_foldl_insert {m : OrderedMap β} {entries : List (String × β)}
    (h : (m.keys ++ entries.map Prod.fst).Nodup) :
    (entries.foldl (fun m (key, value) => m.insert key value) m).entries =
      m.entries ++ entries := by
  induction entries generalizing m with
  | nil => simp
  | cons entry entries ih =>
    obtain ⟨key, value⟩ := entry
    have hkey : key ∉ m.keys := fun hmem =>
      (List.nodup_append.1 h).2.2 key hmem key (by simp) rfl
    have hentries := entries_insert_of_notMem hkey value
    rw [List.foldl_cons, ih, hentries, List.append_assoc, List.singleton_append]
    unfold keys
    rw [hentries]
    simpa [keys] using h

/-- Entries with distinct keys are those of the map that is made of them. -/
theorem entries_ofList {entries : List (String × β)} (h : (entries.map Prod.fst).Nodup) :
    (ofList entries).entries = entries :=
  entries_foldl_insert h

end OrderedMap

namespace Toml.Value

variable {v : Value} {entries : List (String × Value)}

theorem IsProper.nodup_keys (h : v.IsProper) (hentries : v.entries? = some entries) :
    (entries.map Prod.fst).Nodup := by
  unfold entries? at hentries
  split at hentries
  · cases hentries
    cases h with
    | table hnodup _ => exact hnodup
  · cases hentries
    exact List.nodup_singleton _
  · cases hentries

theorem forall₂_of_mapM {α β : Type} {f : α → Option β} {l : List α} {l' : List β}
    (h : l.mapM f = some l') : List.Forall₂ (fun a b => f a = some b) l l' := by
  induction l generalizing l' with
  | nil =>
    cases h
    exact .nil
  | cons a l ih =>
    rw [List.mapM_cons] at h
    obtain ⟨b, hb, h⟩ := Option.bind_eq_some_iff.1 h
    obtain ⟨bs, hbs, h⟩ := Option.bind_eq_some_iff.1 h
    cases h
    exact .cons hb (ih hbs)

/-- **A map has an entry for each entry of its table**, in the same order. -/
theorem entries_of_orderedMap? {β : Type} {read : Value → Option β} {m : OrderedMap β}
    (h : v.IsProper) (hm : v.orderedMap? read = some m) :
    ∃ entries, v.entries? = some entries ∧
      List.Forall₂ (fun entry entry' => entry.1 = entry'.1 ∧ read entry.2 = some entry'.2)
        entries m.entries := by
  obtain ⟨entries, hentries, hm⟩ := Option.bind_eq_some_iff.1 hm
  obtain ⟨values, hvalues, hm⟩ := Option.bind_eq_some_iff.1 hm
  cases hm
  have hread : List.Forall₂ (fun entry entry' => entry.1 = entry'.1 ∧ read entry.2 = some entry'.2)
      entries values := by
    refine (forall₂_of_mapM hvalues).imp fun entry entry' heq => ?_
    obtain ⟨b, hb, rfl⟩ := Option.map_eq_some_iff.1 heq
    exact ⟨rfl, hb⟩
  have hkeys : entries.map Prod.fst = values.map Prod.fst := by
    have heq : List.Forall₂ (· = ·) (entries.map Prod.fst) (values.map Prod.fst) := by
      rw [List.forall₂_map_left_iff, List.forall₂_map_right_iff]
      exact hread.imp fun _ _ h => h.1
    rwa [List.forall₂_eq_eq_eq] at heq
  refine ⟨entries, hentries, ?_⟩
  rw [OrderedMap.entries_ofList (hkeys ▸ h.nodup_keys hentries)]
  exact hread

end Toml.Value

end EdmMapping
