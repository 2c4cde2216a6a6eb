import EdmMapping.Proofs.Toml.Number
import EdmMapping.Proofs.Toml.Quoted
import EdmMapping.Proofs.Toml.Reader
import EdmMapping.Proofs.Toml.Table
import EdmMapping.Toml.Document

/-!
# Documents are read, and what is read is proper

* `parse?_isProper` — what a text is read as gives no key twice, and all its dates and times exist;
* `Value.spelling`, `documentSpelling` — a value, and a table line by line;
* `Value.NestsWithin` — how deep arrays and tables are nested in a value;
* `Reader.readsBack_value` — values are read from their spelling;
* `parse?_documentSpelling` — and so is every proper table that is not nested too deep;
* `isProper_iff_exists_parse?` — the proper tables are those that some text is read as.
-/

set_option autoImplicit false

namespace EdmMapping.Toml

/-! ## What is read is proper -/

theorem isProper_of_scalar? {word : List Char} {v : Value} (h : scalar? word = some v) :
    v.IsProper := by
  unfold scalar? at h
  split at h
  · cases h
    exact .boolean true
  · split at h
    · cases h
      exact .boolean false
    · simp only [Option.orElse_eq_some, Option.map_eq_some_iff] at h
      rcases h with ⟨n, -, rfl⟩ | ⟨-, h | ⟨-, ⟨f, -, rfl⟩ | ⟨-, d, hd, rfl⟩⟩⟩
      · exact .integer n
      · split at h
        · cases h
          exact .malformedInteger
        · cases h
      · exact .float f
      · exact .dateTime (DateTime.isValid_of_ofChars? hd)

namespace Reader

theorem yields_plainValue : Yields plainValue Value.IsProper := by
  unfold plainValue
  refine yields_bind fun c => ?_
  split
  · exact yields_bind fun text => yields_pure (.string text)
  · exact yields_bind fun text => yields_pure (.string text)
  · exact yields_bind fun word => yields_liftM fun v => isProper_of_scalar?

theorem yields_assignment (skip : Reader Unit) {value : Reader Value}
    (h : Yields value Value.IsProper) :
    Yields (assignment skip value) fun a => a.value.IsProper := by
  unfold assignment
  refine yields_bind fun key => yields_bind fun _ => yields_bind fun _ => yields_bind fun _ => ?_
  exact h.bind fun v hv => yields_pure hv

/-- Arrays and inline tables are proper if what they hold is. -/
theorem yields_value (depth : Nat) : Yields (value depth) Value.IsProper := by
  induction depth with
  | zero => exact yields_plainValue
  | succ depth ih =>
    unfold value
    refine yields_bind fun c => ?_
    split
    · refine yields_bind fun _ => (yields_itemsTo ih ']').bind fun items hitems => ?_
      exact yields_pure (.array hitems)
    · refine yields_bind fun _ =>
        (yields_itemsTo (yields_assignment gaps ih) '\x7d').bind fun as has => ?_
      refine (yields_liftM fun entries => assembleInline_isProper has).bind fun entries h => ?_
      exact yields_pure h
    · exact yields_plainValue

theorem yields_assignments (lines : Nat) :
    Yields (assignments lines) fun as => ∀ a ∈ as, a.value.IsProper := by
  induction lines with
  | zero => exact yields_pure nofun
  | succ lines ih =>
    unfold assignments
    refine yields_bind fun _ => yields_bind fun c => ?_
    split
    · exact yields_pure nofun
    · exact yields_pure nofun
    · exact yields_bind fun _ => ih
    · exact yields_bind fun _ => ih
    · exact yields_bind fun _ => ih
    · refine (yields_assignment blanks (yields_value maxDepth)).bind fun first hfirst => ?_
      refine yields_bind fun _ => ih.bind fun as has => ?_
      exact yields_pure (List.forall_mem_cons.2 ⟨hfirst, has⟩)

theorem yields_sections (lines bound : Nat) :
    Yields (sections lines bound) fun ss => ∀ s ∈ ss, ∀ a ∈ s.body, a.value.IsProper := by
  induction bound with
  | zero => exact yields_failure
  | succ bound ih =>
    have hsection : Yields (headedSection lines) fun s => ∀ a ∈ s.body, a.value.IsProper := by
      unfold headedSection
      refine yields_bind fun _ => yields_bind fun _ => ?_
      exact (yields_assignments lines).bind fun as has => yields_pure has
    unfold sections
    refine yields_bind fun c => ?_
    split
    · exact yields_pure nofun
    · refine hsection.bind fun first hfirst => ih.bind fun rest hrest => ?_
      exact yields_pure (List.forall_mem_cons.2 ⟨hfirst, hrest⟩)

theorem yields_document : Yields document fun entries => (Value.table entries).IsProper := by
  unfold document
  refine yields_bind fun cs => (yields_assignments _).bind fun top htop => ?_
  refine (yields_sections _ _).bind fun ss hss => ?_
  exact yields_liftM fun entries => assemble_isProper htop hss

end Reader

/-- **What a text is read as gives no key twice**, at any place, and all its dates and times
exist. -/
theorem parse?_isProper {text : String} {entries : List (String × Value)}
    (h : parse? text = some entries) : (Value.table entries).IsProper := by
  obtain ⟨⟨entries', rest⟩, hrun, heq⟩ := Option.map_eq_some_iff.1 h
  cases heq
  exact Reader.yields_document _ _ _ hrun

/-! ## Words -/

/-- The characters that stand in no word without quotes. -/
def wordEnds : List Char :=
  ['\n', '\r', ',', '=', '#', '[', ']', '\x7b', '\x7d', ' ', '\t', '"', '\'']

/-- Characters that stay together when a word is taken from the front of a text. -/
structure IsWord (cs : List Char) : Prop where
  ne_nil : cs ≠ []
  notMem : ∀ c ∈ cs, c ∉ wordEnds

theorem isWord_of_all {cs : List Char} (hne : cs ≠ [])
    (h : cs.all (fun c => !wordEnds.contains c) = true) : IsWord cs :=
  ⟨hne, fun c hc => by simpa using List.all_eq_true.1 h c hc⟩

theorem IsPlainWord.isWord {cs : List Char} (h : IsPlainWord cs) (hne : cs ≠ []) : IsWord cs :=
  ⟨hne, fun _ hc => h.notMem wordEnds (by decide) hc⟩

/-- What follows a value: the comma after an item, or the end of a line. -/
def Ends (rest : List Char) : Prop := ∃ c cs, rest = c :: cs ∧ (c = ',' ∨ c = '\n')

theorem leadingWord_append {cs rest : List Char} (h : ∀ c ∈ cs, c ∉ wordEnds) (hrest : Ends rest) :
    leadingWord (cs ++ rest) = cs := by
  induction cs with
  | nil =>
    obtain ⟨c, cs, rfl, rfl | rfl⟩ := hrest <;> rfl
  | cons c cs ih =>
    obtain ⟨hc, hcs⟩ := List.forall_mem_cons.1 h
    simp only [wordEnds, List.mem_cons, List.not_mem_nil, or_false, not_or] at hc
    have hends : endsWord c = false := by simp [endsWord, hc]
    have hblank : isBlank c = false := by simp [isBlank, hc]
    simp [leadingWord, hends, hblank, ih hcs]

namespace Reader

theorem run_word {cs rest : List Char} (h : IsWord cs) (hrest : Ends rest) :
    word.run (cs ++ rest) = some (cs, rest) := by
  simp [word, leadingWord_append h.notMem hrest]

/-- A word is read as the scalar that it is, at any depth. -/
theorem run_value_of_isWord {cs rest : List Char} (h : IsWord cs) (hrest : Ends rest) {v : Value}
    (hv : scalar? cs = some v) (depth : Nat) : (value depth).run (cs ++ rest) = some (v, rest) := by
  have hword := run_word h hrest
  obtain ⟨c, cs', rfl⟩ := List.exists_cons_of_ne_nil h.ne_nil
  have hc := h.notMem c List.mem_cons_self
  simp only [wordEnds, List.mem_cons, List.not_mem_nil, or_false, not_or] at hc
  rw [List.cons_append] at hword ⊢
  have hplain : plainValue.run (c :: (cs' ++ rest)) = some (v, rest) := by
    simp [plainValue, hc, hword, hv]
  cases depth with
  | zero => exact hplain
  | succ depth => simp [value, hc, hplain]

theorem run_value_quote (text : String) {rest : List Char} (hrest : Ends rest) (depth : Nat) :
    (value depth).run (quote text ++ rest) = some (.string text, rest) := by
  have hhead : rest.head? ≠ some '"' := by
    obtain ⟨c, cs, rfl, rfl | rfl⟩ := hrest <;> simp
  have hread := quotedLines_quote text hhead
  rw [quote_append] at hread ⊢
  have hplain : plainValue.run ('"' :: (text.toList.flatMap escapeChar ++ '"' :: rest)) =
      some (.string text, rest) := by
    simp [plainValue, hread]
  cases depth with
  | zero => exact hplain
  | succ depth => exact hplain

end Reader

/-! ## Spellings -/

mutual

/-- A value on one line, with a comma behind every item and every entry. -/
def Value.spelling : Value → List Char
  | .string text => quote text
  | .integer n => n.repr.toList
  | .malformedInteger => ['0', 'x']
  | .float f => f.spelling
  | .boolean b => (toString b).toList
  | .dateTime d => d.text.toList
  | .array items => '[' :: itemsSpelling items
  | .table entries => '\x7b' :: entriesSpelling entries

def Value.itemsSpelling : List Value → List Char
  | [] => [']']
  | item :: rest => item.spelling ++ ',' :: itemsSpelling rest

def Value.entriesSpelling : List (String × Value) → List Char
  | [] => ['\x7d']
  | (key, value) :: rest => quote key ++ '=' :: (value.spelling ++ ',' :: entriesSpelling rest)

end

namespace Value

theorem itemsSpelling_eq (items : List Value) :
    itemsSpelling items = items.flatMap (fun item => item.spelling ++ [',']) ++ [']'] := by
  induction items with
  | nil => rfl
  | cons item items ih => simp [itemsSpelling, ih]

end Value

/-- An assignment without dots in its key. -/
def Assignment.spelling (a : Assignment) : List Char := quote a.key ++ '=' :: a.value.spelling

theorem Value.entriesSpelling_eq (entries : List (String × Value)) :
    entriesSpelling entries =
      (plainAssignments entries).flatMap (fun a => a.spelling ++ [',']) ++ ['\x7d'] := by
  induction entries with
  | nil => rfl
  | cons entry entries ih => simp [entriesSpelling, ih, Assignment.spelling]

/-- How deep arrays and tables may be nested in the value. -/
def Value.NestsWithin : Nat → Value → Prop
  | 0, .array _ | 0, .table _ => False
  | depth + 1, .array items => ∀ item ∈ items, item.NestsWithin depth
  | depth + 1, .table entries => ∀ entry ∈ entries, entry.2.NestsWithin depth
  | _, _ => True

/-- A table line by line. -/
def documentSpelling (entries : List (String × Value)) : List Char :=
  (plainAssignments entries).flatMap fun a => a.spelling ++ ['\n']

theorem FloatValue.isWord_spelling (f : FloatValue) : IsWord f.spelling := by
  cases f with
  | decimal negative mantissa exponent =>
    refine (isPlainWord_decimal negative mantissa exponent).isWord ?_
    simp [FloatValue.spelling]
  | infinity negative => cases negative <;> exact isWord_of_all nofun (by decide)
  | notANumber => exact isWord_of_all nofun (by decide)

/-- A value is a string, holds others, or is written as a word. -/
theorem spelling_cases {v : Value} (hproper : v.IsProper) :
    (∃ text, v = .string text) ∨ (∃ items, v = .array items) ∨ (∃ entries, v = .table entries) ∨
      IsWord v.spelling ∧ scalar? v.spelling = some v := by
  cases hproper with
  | string text => exact .inl ⟨text, rfl⟩
  | array => exact .inr (.inl ⟨_, rfl⟩)
  | table => exact .inr (.inr (.inl ⟨_, rfl⟩))
  | integer n =>
    refine .inr (.inr (.inr ⟨?_, scalar?_integer n⟩))
    refine (isPlainWord_repr n).isWord ?_
    simp [toList_repr]
  | malformedInteger => exact .inr (.inr (.inr ⟨isWord_of_all nofun (by decide), rfl⟩))
  | float f => exact .inr (.inr (.inr ⟨FloatValue.isWord_spelling f, scalar?_float f⟩))
  | boolean b =>
    refine .inr (.inr (.inr ⟨?_, scalar?_boolean b⟩))
    cases b <;> exact isWord_of_all (by decide) (by decide)
  | @dateTime d h =>
    refine .inr (.inr (.inr ⟨?_, scalar?_dateTime h⟩))
    refine (isPlainWord_text d).isWord ?_
    obtain ⟨digits, mark, rest, htext, -⟩ := d.exists_text_eq
    simp [htext]

/-- A value starts neither like a gap nor with a closing bracket or brace. -/
theorem exists_spelling_eq {v : Value} (hproper : v.IsProper) :
    ∃ c cs, v.spelling = c :: cs ∧ c ∉ ']' :: '\x7d' :: Reader.gapMarks := by
  rcases spelling_cases hproper with ⟨text, rfl⟩ | ⟨items, rfl⟩ | ⟨entries, rfl⟩ | ⟨hword, -⟩
  · exact ⟨'"', _, by rw [Value.spelling, quote], by decide⟩
  · exact ⟨'[', _, by rw [Value.spelling], by decide⟩
  · exact ⟨'\x7b', _, by rw [Value.spelling], by decide⟩
  · obtain ⟨c, cs, hspelling⟩ := List.exists_cons_of_ne_nil hword.ne_nil
    have hsubset : ']' :: '\x7d' :: Reader.gapMarks ⊆ wordEnds := by decide
    have hc : c ∉ wordEnds := hword.notMem c (by simp [hspelling])
    exact ⟨c, cs, hspelling, fun hmem => hc (hsubset hmem)⟩

namespace Reader

theorem run_dottedKey_quote (key : String) (rest : List Char) :
    dottedKey.run (quote key ++ '=' :: rest) = some (([], key), '=' :: rest) := by
  have hread := quoted_quote key ('=' :: rest)
  have hequals : '=' ∉ gapMarks := by decide
  rw [quote_append] at hread ⊢
  have hkey : simpleKey.run ('"' :: (key.toList.flatMap escapeChar ++ '"' :: '=' :: rest)) =
      some (key, '=' :: rest) := by
    simp [simpleKey, hread]
  have hparts : ∀ bound, (keyParts (bound + 1)).run
      ('"' :: (key.toList.flatMap escapeChar ++ '"' :: '=' :: rest)) =
        some ([key], '=' :: rest) := by
    intro bound
    rw [keyParts]
    simp [hkey, run_blanks _ hequals, run_tryChar_of_ne]
  have hparts : (keyParts maxKeyParts).run
      ('"' :: (key.toList.flatMap escapeChar ++ '"' :: '=' :: rest)) =
        some ([key], '=' :: rest) := hparts 79
  simp [dottedKey, hparts]

/-- The reader reads the value from its spelling, if an end follows. -/
def ReadsBack (value : Reader Value) (v : Value) : Prop :=
  ∀ rest, Ends rest → value.run (v.spelling ++ rest) = some (v, rest)

section

variable {nested : Reader Value}

theorem run_assignment {skip : Reader Unit}
    (hskip : ∀ c cs, c ∉ gapMarks → skip.run (c :: cs) = some ((), c :: cs)) (key : String)
    {v : Value} (hproper : v.IsProper) (hread : ReadsBack nested v) {rest : List Char}
    (hrest : Ends rest) :
    (assignment skip nested).run ((⟨[], key, v⟩ : Assignment).spelling ++ rest) =
      some (⟨[], key, v⟩, rest) := by
  obtain ⟨c, cs, hspelling, hc⟩ := exists_spelling_eq hproper
  have hgap : c ∉ gapMarks := fun hmem => hc (by simp [hmem])
  have hequals : '=' ∉ gapMarks := by decide
  have hvalue := hread rest hrest
  rw [hspelling, List.cons_append] at hvalue
  simp [assignment, Assignment.spelling, hspelling, run_dottedKey_quote, hskip _ _ hequals,
    hskip _ _ hgap, hvalue]

theorem ends_comma (cs : List Char) : Ends (',' :: cs) := ⟨',', cs, rfl, .inl rfl⟩

theorem ends_newline (cs : List Char) : Ends ('\n' :: cs) := ⟨'\n', cs, rfl, .inr rfl⟩

theorem run_itemsSpelling {items : List Value} (hproper : ∀ item ∈ items, item.IsProper)
    (hread : ∀ item ∈ items, ReadsBack nested item) (rest : List Char) :
    (itemsTo nested ']').run (Value.itemsSpelling items ++ rest) = some (items, rest) := by
  rw [Value.itemsSpelling_eq, List.append_assoc]
  refine run_itemsTo (by decide) ?_ ?_ rest
  · exact fun item hitem cs => hread item hitem _ (ends_comma cs)
  · intro item hitem
    obtain ⟨c, cs, hspelling, hc⟩ := exists_spelling_eq (hproper item hitem)
    refine ⟨c, cs, hspelling, fun hmem => hc ?_⟩
    have hsubset : ']' :: gapMarks ⊆ ']' :: '\x7d' :: gapMarks := by decide
    exact hsubset hmem

theorem run_entriesSpelling {entries : List (String × Value)}
    (hproper : ∀ entry ∈ entries, entry.2.IsProper)
    (hread : ∀ entry ∈ entries, ReadsBack nested entry.2) (rest : List Char) :
    (itemsTo (assignment gaps nested) '\x7d').run (Value.entriesSpelling entries ++ rest) =
      some (plainAssignments entries, rest) := by
  rw [Value.entriesSpelling_eq, List.append_assoc]
  refine run_itemsTo (by decide) ?_ ?_ rest
  · intro a ha cs
    obtain ⟨entry, hentry, rfl⟩ := List.mem_map.1 ha
    exact run_assignment (fun c cs => run_gaps cs) entry.1 (hproper entry hentry)
      (hread entry hentry) (ends_comma cs)
  · exact fun a _ => ⟨'"', _, rfl, by decide⟩

end

/-- **Values are read from their spelling**, up to the depth to which they are nested. -/
theorem readsBack_value {depth : Nat} {v : Value} (hproper : v.IsProper)
    (hnests : v.NestsWithin depth) : ReadsBack (value depth) v := by
  induction depth generalizing v with
  | zero =>
    intro rest hrest
    rcases spelling_cases hproper with ⟨text, rfl⟩ | ⟨items, rfl⟩ | ⟨entries, rfl⟩ | ⟨hword, hv⟩
    · rw [Value.spelling]
      exact run_value_quote text hrest 0
    · cases hnests
    · cases hnests
    · exact run_value_of_isWord hword hrest hv 0
  | succ depth ih =>
    intro rest hrest
    rcases spelling_cases hproper with ⟨text, rfl⟩ | ⟨items, rfl⟩ | ⟨entries, rfl⟩ | ⟨hword, hv⟩
    · rw [Value.spelling]
      exact run_value_quote text hrest _
    · cases hproper with
      | array hitems =>
        have hread := run_itemsSpelling hitems
          (fun item hitem => ih (hitems item hitem) (hnests item hitem)) rest
        simp [value, Value.spelling, hread]
    · cases hproper with
      | table hnodup hentries =>
        have hread := run_entriesSpelling hentries
          (fun entry hentry => ih (hentries entry hentry) (hnests entry hentry)) rest
        simp [value, Value.spelling, hread, assembleInline, assemble_plainAssignments hnodup]
    · exact run_value_of_isWord hword hrest hv _

end Reader

/-! ## Documents -/

theorem documentSpelling_cons (entry : String × Value) (entries : List (String × Value)) :
    documentSpelling (entry :: entries) =
      (⟨[], entry.1, entry.2⟩ : Assignment).spelling ++ '\n' :: documentSpelling entries := by
  simp [documentSpelling]

theorem exists_documentSpelling_eq (entry : String × Value) (entries : List (String × Value)) :
    ∃ cs, documentSpelling (entry :: entries) = '"' :: cs := by
  rw [documentSpelling_cons]
  exact ⟨_, rfl⟩

theorem length_le_length_documentSpelling (entries : List (String × Value)) :
    entries.length ≤ (documentSpelling entries).length := by
  have hlength : (plainAssignments entries).length ≤ (documentSpelling entries).length :=
    Reader.length_le_length_flatMap '\n' (plainAssignments entries)
  rwa [plainAssignments, List.length_map] at hlength

namespace Reader

theorem run_restOfLine (rest : List Char) : restOfLine.run ('\n' :: rest) = some ((), rest) := by
  simp [restOfLine, blanks, comment, skipComment, lineEnd, StateT.run_modify, isBlank]

theorem run_assignments {entries : List (String × Value)}
    (hproper : ∀ entry ∈ entries, entry.2.IsProper)
    (hnests : ∀ entry ∈ entries, entry.2.NestsWithin maxDepth) {lines : Nat}
    (hlines : entries.length ≤ lines) :
    (assignments lines).run (documentSpelling entries) = some (plainAssignments entries, []) := by
  induction entries generalizing lines with
  | nil =>
    cases lines with
    | zero => rfl
    | succ lines => rfl
  | cons entry entries ih =>
    obtain ⟨lines, rfl⟩ : ∃ n, lines = n + 1 := ⟨lines - 1, by simp at hlines; omega⟩
    obtain ⟨hentry, hproper⟩ := List.forall_mem_cons.1 hproper
    obtain ⟨hnest, hnests⟩ := List.forall_mem_cons.1 hnests
    have hrest := ih hproper hnests (Nat.le_of_succ_le_succ hlines)
    have hfirst := run_assignment (fun c cs => run_blanks cs) entry.1 hentry
      (readsBack_value hentry hnest) (ends_newline (documentSpelling entries))
    have hquote : '"' ∉ gapMarks := by decide
    obtain ⟨cs, hcs⟩ := exists_documentSpelling_eq entry entries
    rw [← documentSpelling_cons, hcs] at hfirst
    rw [hcs]
    simp [assignments, run_blanks _ hquote, hfirst, run_restOfLine, hrest]

end Reader

/-- **A proper table is read from its lines**, unless it is nested too deep. -/
theorem parse?_documentSpelling {entries : List (String × Value)}
    (hproper : (Value.table entries).IsProper)
    (hnests : ∀ entry ∈ entries, entry.2.NestsWithin maxDepth) :
    parse? (String.ofList (documentSpelling entries)) = some entries := by
  have hmark : dropByteOrderMark (documentSpelling entries) = documentSpelling entries := by
    cases entries with
    | nil => rfl
    | cons entry entries =>
      obtain ⟨cs, hcs⟩ := exists_documentSpelling_eq entry entries
      rw [hcs]
      rfl
  obtain ⟨hnodup, hvalues⟩ : (entries.map Prod.fst).Nodup ∧
      ∀ entry ∈ entries, entry.2.IsProper := by
    cases hproper with
    | table hnodup h => exact ⟨hnodup, h⟩
  have htop := Reader.run_assignments hvalues hnests
    (Nat.le_succ_of_le (length_le_length_documentSpelling entries))
  have hsections : ∀ lines bound, (Reader.sections lines (bound + 1)).run [] = some ([], []) :=
    fun _ _ => rfl
  unfold parse?
  rw [String.toList_ofList, hmark]
  simp [Reader.document, htop, hsections, assemble_plainAssignments hnodup]

/-- Among the tables that are not nested too deep, the proper ones are those that some text is read
as. -/
theorem isProper_iff_exists_parse? {entries : List (String × Value)}
    (hnests : ∀ entry ∈ entries, entry.2.NestsWithin maxDepth) :
    (Value.table entries).IsProper ↔ ∃ text, parse? text = some entries :=
  ⟨fun h => ⟨_, parse?_documentSpelling h hnests⟩, fun ⟨_, h⟩ => parse?_isProper h⟩

end EdmMapping.Toml
