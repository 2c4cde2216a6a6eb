import Mathlib.Data.List.Nodup
import EdmMapping.Proofs.Toml.DateTime
import EdmMapping.Toml.Table

/-!
# Assembled tables have distinct keys

Whatever statements a document has, no table that is put together from them gives a key twice.

* `Value.IsProper` — all tables of a value have distinct keys, and all its dates and times exist;
* `Node.IsProper`, `ProperEntries` — the same while the value is put together;
* `ProperEntries.alterEntry` — changing one entry, from which every step on the way down a key
  follows;
* `properEntries_assign`, …, `properEntries_addSection` — one statement;
* `properEntries_assignAll`, `assemble_isProper` — a whole document;
* `plainAssignments`, `assemble_plainAssignments` — assignments to distinct keys are kept as they
  stand.
-/

set_option autoImplicit false

namespace EdmMapping.Toml

/-! ## Proper values -/

/-- Every table gives each of its keys once, and every date and time exists. -/
inductive Value.IsProper : Value → Prop
  | string (text : String) : IsProper (.string text)
  | integer (n : Int) : IsProper (.integer n)
  | malformedInteger : IsProper .malformedInteger
  | float (f : FloatValue) : IsProper (.float f)
  | boolean (b : Bool) : IsProper (.boolean b)
  | dateTime {d : DateTime} (h : d.IsValid) : IsProper (.dateTime d)
  | array {items : List Value} (h : ∀ item ∈ items, item.IsProper) : IsProper (.array items)
  | table {entries : List (String × Value)} (hnodup : (entries.map Prod.fst).Nodup)
      (h : ∀ entry ∈ entries, entry.2.IsProper) : IsProper (.table entries)

/-- The same for what is being put together. -/
inductive Node.IsProper : Node → Prop
  | leaf {value : Value} (h : value.IsProper) : IsProper (.leaf value)
  | table {origin : Origin} {entries : Entries} (hnodup : (entries.map Prod.fst).Nodup)
      (h : ∀ entry ∈ entries, entry.2.IsProper) : IsProper (.table origin entries)
  | tables {earlier : List Entries} {last : Entries}
      (hnodup : ∀ entries ∈ earlier, (entries.map Prod.fst).Nodup)
      (h : ∀ entries ∈ earlier, ∀ entry ∈ entries, entry.2.IsProper)
      (hlastNodup : (last.map Prod.fst).Nodup) (hlast : ∀ entry ∈ last, entry.2.IsProper) :
      IsProper (.tables earlier last)

/-- Distinct keys, with proper nodes at them. -/
structure ProperEntries (entries : Entries) : Prop where
  nodup : (entries.map Prod.fst).Nodup
  proper : ∀ entry ∈ entries, entry.2.IsProper

theorem properEntries_nil : ProperEntries [] := ⟨List.nodup_nil, nofun⟩

namespace ProperEntries

variable {entries inner last : Entries} {key : String} {node : Node}

theorem isProper_table (h : ProperEntries entries) (origin : Origin) :
    (Node.table origin entries).IsProper :=
  .table h.nodup h.proper

theorem of_table {origin : Origin} (h : (Node.table origin entries).IsProper) :
    ProperEntries entries := by
  cases h with
  | table hnodup h => exact ⟨hnodup, h⟩

theorem isProper_tables {earlier : List Entries}
    (hearlier : ∀ entries ∈ earlier, ProperEntries entries) (hlast : ProperEntries last) :
    (Node.tables earlier last).IsProper :=
  .tables (fun entries h => (hearlier entries h).nodup)
    (fun entries h => (hearlier entries h).proper) hlast.nodup hlast.proper

theorem of_tables {earlier : List Entries} (h : (Node.tables earlier last).IsProper) :
    (∀ entries ∈ earlier, ProperEntries entries) ∧ ProperEntries last := by
  cases h with
  | tables hnodup h hlastNodup hlast =>
    exact ⟨fun entries hmem => ⟨hnodup entries hmem, h entries hmem⟩, hlastNodup, hlast⟩

theorem append (h : ProperEntries entries) (hkey : key ∉ entries.map Prod.fst)
    (hnode : node.IsProper) : ProperEntries (entries ++ [(key, node)]) where
  nodup := by
    rw [List.map_append, List.map_singleton, ← List.concat_eq_append]
    exact h.nodup.concat hkey
  proper entry hentry := by
    rcases List.mem_append.1 hentry with hentry | hentry
    · exact h.proper entry hentry
    · rw [List.mem_singleton.1 hentry]
      exact hnode

theorem filter (h : ProperEntries entries) (test : String × Node → Bool) :
    ProperEntries (entries.filter test) where
  nodup := h.nodup.sublist (List.filter_sublist.map Prod.fst)
  proper entry hentry := h.proper entry (List.mem_of_mem_filter hentry)

theorem notMem_of_lookup (h : entries.lookup key = none) : key ∉ entries.map Prod.fst := by
  intro hkey
  obtain ⟨entry, hentry, rfl⟩ := List.mem_map.1 hkey
  have hne := List.lookup_eq_none_iff.1 h entry hentry
  simp at hne

theorem of_lookup (h : ProperEntries entries) (hlookup : entries.lookup key = some node) :
    node.IsProper := by
  obtain ⟨before, after, rfl, -⟩ := List.lookup_eq_some_iff.1 hlookup
  exact h.proper (key, node) (by simp)

end ProperEntries

/-! ## One entry -/

section

variable {key : String} {f : Option Node → Option Node} {entries altered : Entries}

theorem map_fst_alterEntry (h : alterEntry key f entries = some altered) :
    altered.map Prod.fst =
      if key ∈ entries.map Prod.fst then entries.map Prod.fst
      else entries.map Prod.fst ++ [key] := by
  fun_induction alterEntry key f entries generalizing altered with
  | case1 =>
    obtain ⟨node, -, rfl⟩ := Option.map_eq_some_iff.1 h
    rfl
  | case2 node rest =>
    obtain ⟨node', -, rfl⟩ := Option.map_eq_some_iff.1 h
    simp
  | case3 k node rest hk ih =>
    obtain ⟨rest', hrest, rfl⟩ := Option.map_eq_some_iff.1 h
    rw [List.map_cons, ih hrest]
    by_cases hmem : key ∈ rest.map Prod.fst
    · rw [if_pos hmem, if_pos (by exact List.mem_cons_of_mem k hmem)]
      rfl
    · rw [if_neg hmem, if_neg (by simpa [Ne.symm hk] using hmem)]
      rfl

/-- What stands at a key afterwards was there, or comes from the change. -/
theorem mem_alterEntry (h : alterEntry key f entries = some altered) {entry : String × Node}
    (hentry : entry ∈ altered) :
    entry ∈ entries ∨ f none = some entry.2 ∨
      ∃ node, (key, node) ∈ entries ∧ f (some node) = some entry.2 := by
  fun_induction alterEntry key f entries generalizing altered with
  | case1 =>
    obtain ⟨node, hnode, rfl⟩ := Option.map_eq_some_iff.1 h
    obtain rfl := List.mem_singleton.1 hentry
    exact .inr (.inl hnode)
  | case2 node rest =>
    obtain ⟨node', hnode, rfl⟩ := Option.map_eq_some_iff.1 h
    rcases List.mem_cons.1 hentry with rfl | hentry
    · exact .inr (.inr ⟨node, List.mem_cons_self, hnode⟩)
    · exact .inl (List.mem_cons_of_mem _ hentry)
  | case3 k node rest hk ih =>
    obtain ⟨rest', hrest, rfl⟩ := Option.map_eq_some_iff.1 h
    rcases List.mem_cons.1 hentry with rfl | hentry
    · exact .inl List.mem_cons_self
    · rcases ih hrest hentry with h | h | ⟨node', hnode', h⟩
      · exact .inl (List.mem_cons_of_mem _ h)
      · exact .inr (.inl h)
      · exact .inr (.inr ⟨node', List.mem_cons_of_mem _ hnode', h⟩)

/-- A change of one entry by a function that makes proper nodes of what is there, and of nothing. -/
theorem ProperEntries.alterEntry (h : ProperEntries entries)
    (hnone : ∀ node, f none = some node → node.IsProper)
    (hsome : ∀ node node', node.IsProper → f (some node) = some node' → node'.IsProper)
    (halter : alterEntry key f entries = some altered) : ProperEntries altered where
  nodup := by
    rw [map_fst_alterEntry halter]
    split
    · exact h.nodup
    · rename_i hkey
      rw [← List.concat_eq_append]
      exact h.nodup.concat hkey
  proper entry hentry := by
    rcases mem_alterEntry halter hentry with hmem | hnew | ⟨node, hmem, hnew⟩
    · exact h.proper entry hmem
    · exact hnone entry.2 hnew
    · exact hsome node entry.2 (h.proper (key, node) hmem) hnew

end

/-! ## One statement -/

variable {entries altered : Entries}

/-- An assignment keeps keys distinct, at every table on its way. -/
theorem properEntries_assign {key : String} {value : Value} (hvalue : value.IsProper)
    {path : List String} (h : ProperEntries entries)
    (hassign : assign key value path entries = some altered) : ProperEntries altered := by
  induction path generalizing entries altered with
  | nil =>
    rw [assign] at hassign
    split at hassign
    · cases hassign
    · rename_i hkey
      cases hassign
      refine h.append ?_ (.leaf hvalue)
      simpa [List.lookup_isSome_iff] using hkey
  | cons k path ih =>
    rw [assign] at hassign
    refine h.alterEntry ?_ ?_ hassign
    · intro node hnode
      obtain ⟨inner, hinner, rfl⟩ := Option.map_eq_some_iff.1 hnode
      exact (ih properEntries_nil hinner).isProper_table .dotted
    · intro node node' hproper hnode
      cases node with
      | leaf _ => cases hnode
      | table origin inner =>
        dsimp only at hnode
        split at hnode
        · obtain ⟨inner', hinner, rfl⟩ := Option.map_eq_some_iff.1 hnode
          exact (ih (.of_table hproper) hinner).isProper_table origin
        · cases hnode
      | tables earlier last =>
        dsimp only at hnode
        split at hnode
        · cases hnode
        · obtain ⟨last', hlast, rfl⟩ := Option.map_eq_some_iff.1 hnode
          obtain ⟨hearlier, hproper⟩ := ProperEntries.of_tables hproper
          exact ProperEntries.isProper_tables hearlier (ih hproper hlast)

/-- What every step keeps is kept by all of them. -/
theorem properEntries_foldlM {α : Type} {step : Entries → α → Option Entries} {as : List α}
    (hstep : ∀ a ∈ as, ∀ entries next, ProperEntries entries → step entries a = some next →
      ProperEntries next)
    (h : ProperEntries entries) (hfold : as.foldlM step entries = some altered) :
    ProperEntries altered := by
  induction as generalizing entries with
  | nil =>
    cases hfold
    exact h
  | cons a as ih =>
    obtain ⟨next, hnext, hrest⟩ := Option.bind_eq_some_iff.1 hfold
    obtain ⟨ha, hstep⟩ := List.forall_mem_cons.1 hstep
    exact ih hstep (ha entries next h hnext) hrest

theorem properEntries_assignAll {assignments : List Assignment}
    (hvalues : ∀ a ∈ assignments, a.value.IsProper) (h : ProperEntries entries)
    (hassign : assignAll assignments entries = some altered) : ProperEntries altered :=
  properEntries_foldlM (fun a ha _ _ => properEntries_assign (hvalues a ha)) h hassign

/-- The tables on the way of a header stay proper if the one that it leads to does. -/
theorem properEntries_descend {f : Entries → Option Entries}
    (hf : ∀ inner inner', ProperEntries inner → f inner = some inner' → ProperEntries inner')
    {path : List String} (h : ProperEntries entries)
    (hdescend : descend f path entries = some altered) : ProperEntries altered := by
  induction path generalizing entries altered with
  | nil => exact hf entries altered h hdescend
  | cons k path ih =>
    rw [descend] at hdescend
    refine h.alterEntry ?_ ?_ hdescend
    · intro node hnode
      obtain ⟨inner, hinner, rfl⟩ := Option.map_eq_some_iff.1 hnode
      exact (ih properEntries_nil hinner).isProper_table .passed
    · intro node node' hproper hnode
      cases node with
      | leaf _ => cases hnode
      | table origin inner =>
        obtain ⟨inner', hinner, rfl⟩ := Option.map_eq_some_iff.1 hnode
        exact (ih (.of_table hproper) hinner).isProper_table origin
      | tables earlier last =>
        obtain ⟨last', hlast, rfl⟩ := Option.map_eq_some_iff.1 hnode
        obtain ⟨hearlier, hproper⟩ := ProperEntries.of_tables hproper
        exact ProperEntries.isProper_tables hearlier (ih hproper hlast)

theorem properEntries_openTable {key : String} {body : List Assignment}
    (hbody : ∀ a ∈ body, a.value.IsProper) (h : ProperEntries entries)
    (hopen : openTable key body entries = some altered) : ProperEntries altered := by
  unfold openTable at hopen
  split at hopen
  · rename_i hlookup
    obtain ⟨inner, hinner, rfl⟩ := Option.map_eq_some_iff.1 hopen
    have hnew := properEntries_assignAll hbody properEntries_nil hinner
    exact h.append (ProperEntries.notMem_of_lookup hlookup) (hnew.isProper_table .header)
  · rename_i inner hlookup
    obtain ⟨inner', hinner, rfl⟩ := Option.map_eq_some_iff.1 hopen
    have hproper : ProperEntries inner := .of_table (h.of_lookup hlookup)
    have hnew := properEntries_assignAll hbody hproper hinner
    exact (h.filter _).append (by simp) (hnew.isProper_table .header)
  · cases hopen

theorem properEntries_openElement {key : String} {body : List Assignment}
    (hbody : ∀ a ∈ body, a.value.IsProper) (h : ProperEntries entries)
    (hopen : openElement key body entries = some altered) : ProperEntries altered := by
  have hnew : ∀ inner, assignAll body [] = some inner → ProperEntries inner :=
    fun inner hinner => properEntries_assignAll hbody properEntries_nil hinner
  refine h.alterEntry ?_ ?_ hopen
  · intro node hnode
    obtain ⟨inner, hinner, rfl⟩ := Option.map_eq_some_iff.1 hnode
    exact ProperEntries.isProper_tables nofun (hnew inner hinner)
  · intro node node' hproper hnode
    cases node with
    | leaf _ => cases hnode
    | table _ _ => cases hnode
    | tables earlier last =>
      obtain ⟨inner, hinner, rfl⟩ := Option.map_eq_some_iff.1 hnode
      obtain ⟨hearlier, hlast⟩ := ProperEntries.of_tables hproper
      refine ProperEntries.isProper_tables (fun entries hmem => ?_) (hnew inner hinner)
      rcases List.mem_append.1 hmem with hmem | hmem
      · exact hearlier entries hmem
      · rw [List.mem_singleton.1 hmem]
        exact hlast

theorem properEntries_addSection {s : Section} (hbody : ∀ a ∈ s.body, a.value.IsProper)
    (h : ProperEntries entries) (hadd : addSection entries s = some altered) :
    ProperEntries altered := by
  unfold addSection at hadd
  split at hadd
  · exact properEntries_descend (fun _ _ => properEntries_openTable hbody) h hadd
  · exact properEntries_descend (fun _ _ => properEntries_openElement hbody) h hadd

/-! ## Documents -/

theorem entriesToValues_eq (entries : Entries) :
    Node.entriesToValues entries = entries.map fun entry => (entry.1, entry.2.toValue) := by
  induction entries with
  | nil => rfl
  | cons entry entries ih => rw [Node.entriesToValues, ih, List.map_cons]

theorem tablesToValues_eq (tables : List Entries) :
    Node.tablesToValues tables =
      tables.map fun entries => .table (Node.entriesToValues entries) := by
  induction tables with
  | nil => rfl
  | cons entries tables ih => rw [Node.tablesToValues, ih, List.map_cons]

theorem isProper_entriesToValues {entries : Entries} (hnodup : (entries.map Prod.fst).Nodup)
    (h : ∀ entry ∈ entries, entry.2.toValue.IsProper) :
    (Value.table (Node.entriesToValues entries)).IsProper := by
  rw [entriesToValues_eq]
  refine .table ?_ ?_
  · rw [List.map_map]
    exact hnodup
  · intro entry hentry
    obtain ⟨entry, hmem, rfl⟩ := List.mem_map.1 hentry
    exact h entry hmem

theorem Node.IsProper.toValue {node : Node} (h : node.IsProper) : node.toValue.IsProper := by
  induction h with
  | leaf h => exact h
  | table hnodup _ ih => exact isProper_entriesToValues hnodup ih
  | tables hnodup _ hlastNodup _ ih ihlast =>
    rw [Node.toValue, tablesToValues_eq]
    refine .array fun item hitem => ?_
    rcases List.mem_append.1 hitem with hitem | hitem
    · obtain ⟨entries, hmem, rfl⟩ := List.mem_map.1 hitem
      exact isProper_entriesToValues (hnodup entries hmem) (ih entries hmem)
    · rw [List.mem_singleton.1 hitem]
      exact isProper_entriesToValues hlastNodup ihlast

/-- **An assembled document gives no key twice**, whatever its statements are. -/
theorem assemble_isProper {top : List Assignment} {sections : List Section}
    (htop : ∀ a ∈ top, a.value.IsProper)
    (hsections : ∀ s ∈ sections, ∀ a ∈ s.body, a.value.IsProper)
    {values : List (String × Value)} (h : assemble top sections = some values) :
    (Value.table values).IsProper := by
  obtain ⟨entries, hentries, h⟩ := Option.bind_eq_some_iff.1 h
  obtain ⟨final, hfinal, h⟩ := Option.bind_eq_some_iff.1 h
  cases h
  have hproper : ProperEntries final :=
    properEntries_foldlM (fun s hs _ _ => properEntries_addSection (hsections s hs))
      (properEntries_assignAll htop properEntries_nil hentries) hfinal
  exact (hproper.isProper_table .header).toValue

theorem assembleInline_isProper {assignments : List Assignment}
    (h : ∀ a ∈ assignments, a.value.IsProper) {values : List (String × Value)}
    (hvalues : assembleInline assignments = some values) : (Value.table values).IsProper :=
  assemble_isProper h (fun _ hs => absurd hs List.not_mem_nil) hvalues

/-! ## Plain assignments -/

/-- The assignments of a table to its keys. -/
def plainAssignments (values : List (String × Value)) : List Assignment :=
  values.map fun entry => ⟨[], entry.1, entry.2⟩

@[simp]
theorem plainAssignments_cons (entry : String × Value) (values : List (String × Value)) :
    plainAssignments (entry :: values) = ⟨[], entry.1, entry.2⟩ :: plainAssignments values := rfl

theorem assignAll_plainAssignments {values : List (String × Value)} (entries : Entries)
    (hnodup : (entries.map Prod.fst ++ values.map Prod.fst).Nodup) :
    assignAll (plainAssignments values) entries =
      some (entries ++ values.map fun entry => (entry.1, .leaf entry.2)) := by
  induction values generalizing entries with
  | nil =>
    rw [List.map_nil, List.append_nil]
    rfl
  | cons entry values ih =>
    obtain ⟨key, value⟩ := entry
    have hkey : entries.lookup key = none := by
      refine List.lookup_eq_none_iff.2 fun entry hentry => ?_
      have hmem : entry.1 ∈ entries.map Prod.fst := List.mem_map_of_mem hentry
      have hne := (List.nodup_append.1 hnodup).2.2 entry.1 hmem key (by simp)
      simpa using hne.symm
    have hassign : assign key value [] entries = some (entries ++ [(key, .leaf value)]) := by
      rw [assign, hkey]
      rfl
    have hrest := ih (entries ++ [(key, .leaf value)])
      (by simpa [List.append_assoc] using hnodup)
    rw [List.append_assoc] at hrest
    unfold assignAll at hrest ⊢
    rw [plainAssignments_cons, List.foldlM_cons, hassign]
    exact hrest

theorem entriesToValues_leaves (values : List (String × Value)) :
    Node.entriesToValues (values.map fun entry => (entry.1, .leaf entry.2)) = values := by
  rw [entriesToValues_eq, List.map_map]
  exact List.map_id' values

/-- **Assignments to distinct keys are kept in their order.** -/
theorem assemble_plainAssignments {values : List (String × Value)}
    (hnodup : (values.map Prod.fst).Nodup) :
    assemble (plainAssignments values) [] = some values := by
  have hassign := assignAll_plainAssignments [] hnodup
  unfold assemble
  rw [hassign, List.nil_append]
  exact congrArg some (entriesToValues_leaves values)

end EdmMapping.Toml
