import EdmMapping.Text.Dotted

/-!
# Names and namespaces

The grammar behind the tests on names: a name is a non-empty text without dots and white space, and
a namespace is one name or several, joined by dots.

* `isSimpleName_iff`, `isDottedName_iff` — the tests accept exactly the names and the namespaces;
* `splitQualified_eq_some_iff`, `splitQualified_eq_none_iff` — a qualified name is cut into what
  stands before a dot and a text without dots, in the one way there is;
* `append_dot_inj` — what stands before the first dot of a text is told from what stands behind it.
-/

set_option autoImplicit false

namespace EdmMapping

/-- A text that can stand between dots. -/
def IsName (name : String) : Prop :=
  name ≠ "" ∧ ∀ c ∈ name.toList, c ≠ '.' ∧ Unicode.isWhiteSpace c = false

/-- Names joined by dots. -/
def IsNamespace (ns : String) : Prop :=
  ∃ names : List String, names ≠ [] ∧ (∀ name ∈ names, IsName name) ∧ ns = ".".intercalate names

theorem IsName.dot_notMem {name : String} (h : IsName name) : '.' ∉ name.toList :=
  fun hdot => (h.2 '.' hdot).1 rfl

theorem IsNamespace.ne_empty {ns : String} (h : IsNamespace ns) : ns ≠ "" := by
  obtain ⟨names, hne, hnames, rfl⟩ := h
  obtain ⟨name, rest, rfl⟩ := List.exists_cons_of_ne_nil hne
  have hname : name ≠ "" := (hnames name (by simp)).1
  intro hempty
  have hchars := congrArg String.toList hempty
  cases rest <;> simp [String.toList_intercalate, hname] at hchars

theorem isSimpleNameChars_iff {cs : List Char} :
    isSimpleNameChars cs = true ↔ IsName (String.ofList cs) := by
  unfold isSimpleNameChars IsName
  rw [Bool.and_eq_true, List.all_eq_true, String.toList_ofList]
  refine and_congr ?_ (by simp)
  cases cs <;> simp [← String.toList_inj]

theorem isSimpleName_iff {name : String} : isSimpleName name = true ↔ IsName name := by
  unfold isSimpleName
  rw [isSimpleNameChars_iff, String.ofList_toList]

theorem isDottedName_iff {ns : String} : isDottedName ns = true ↔ IsNamespace ns := by
  unfold isDottedName
  rw [List.all_eq_true]
  constructor
  · intro h
    refine ⟨(ns.toList.splitOn '.').map String.ofList, ?_, ?_, ?_⟩
    · simp
    · intro name hmem
      obtain ⟨piece, hpiece, rfl⟩ := List.mem_map.1 hmem
      exact isSimpleNameChars_iff.1 (h piece hpiece)
    · rw [← String.toList_inj, String.toList_intercalate, List.map_map]
      have hid : String.toList ∘ String.ofList = id := by
        funext cs
        exact String.toList_ofList
      rw [hid, List.map_id]
      exact (List.intercalate_splitOn '.').symm
  · rintro ⟨names, hne, hnames, rfl⟩ piece hpiece
    rw [String.toList_intercalate, show (".".toList) = ['.'] from rfl,
      List.splitOn_intercalate '.' ?_ (by simpa using hne)] at hpiece
    · obtain ⟨name, hmem, rfl⟩ := List.mem_map.1 hpiece
      rw [isSimpleNameChars_iff, String.ofList_toList]
      exact hnames name hmem
    · intro cs hcs
      obtain ⟨name, hmem, rfl⟩ := List.mem_map.1 hcs
      exact (hnames name hmem).dot_notMem

theorem splitQualified_eq_some_iff {text ns name : String} :
    splitQualified text = some (ns, name) ↔ text = ns ++ "." ++ name ∧ '.' ∉ name.toList := by
  unfold splitQualified
  rw [Option.map_eq_some_iff]
  constructor
  · rintro ⟨⟨before, after⟩, hsplit, hparts⟩
    obtain ⟨htext, hdot⟩ := splitAtLastDot_eq_some_iff.1 hsplit
    obtain ⟨rfl, rfl⟩ := Prod.mk.inj hparts
    refine ⟨?_, by simpa using hdot⟩
    rw [← String.toList_inj]
    simp [htext]
  · rintro ⟨rfl, hdot⟩
    refine ⟨(ns.toList, name.toList), ?_, by simp⟩
    rw [splitAtLastDot_eq_some_iff]
    exact ⟨by simp, hdot⟩

theorem splitQualified_eq_none_iff {text : String} :
    splitQualified text = none ↔ '.' ∉ text.toList := by
  unfold splitQualified
  rw [Option.map_eq_none_iff, splitAtLastDot_eq_none_iff]

/-- What stands before the first dot of a text, and what stands behind it, is known. -/
theorem append_dot_inj {a b x y : String} (ha : '.' ∉ a.toList) (hb : '.' ∉ b.toList)
    (h : a ++ "." ++ x = b ++ "." ++ y) : a = b ∧ x = y := by
  have hchars : a.toList ++ '.' :: x.toList = b.toList ++ '.' :: y.toList := by
    simpa using congrArg String.toList h
  have hsame : a.toList = b.toList := by
    rcases List.append_eq_append_iff.1 hchars with ⟨between, hb', hx⟩ | ⟨between, ha', hy⟩
    · cases between with
      | nil => simpa using hb'.symm
      | cons c between =>
        obtain ⟨rfl, -⟩ := List.cons.inj hx
        exact absurd (by simp [hb']) hb
    · cases between with
      | nil => simpa using ha'
      | cons c between =>
        obtain ⟨rfl, -⟩ := List.cons.inj hy
        exact absurd (by simp [ha']) ha
  rw [hsame, List.append_cancel_left_eq, List.cons.injEq] at hchars
  exact ⟨String.toList_inj.1 hsame, String.toList_inj.1 hchars.2⟩

end EdmMapping
