import EdmMapping.Imports.Path
import EdmMapping.Proofs.Text.Names
import EdmMapping.Proofs.Unicode.Lowercase

/-!
# Import paths

An import path is a qualified name with its namespace in lowercase.  The name behind the last dot
stays as it is, every dot stays where it was between the parts, and the path is its own import path.

* `lowercasedImportPath_eq_ok_iff`, `lowercasedImportPath_eq_error_iff` — which names have a path,
  and what it consists of;
* `count_dot_importPath` — a path has the dots of its name;
* `importPath_stable` — a path is its own path;
* `importPath_keeps_type_segment` — all of it, for every text.
-/

set_option autoImplicit false

namespace EdmMapping

open Unicode

/-- A path is put together from the parts of the name, of which the namespace is in lowercase. -/
theorem lowercasedImportPath_eq_ok_iff {q path : String} :
    lowercasedImportPath q = .ok path ↔
      ∃ ns name, q = ns ++ "." ++ name ∧ '.' ∉ name.toList ∧
        path = lowercaseText ns ++ "." ++ name := by
  unfold lowercasedImportPath
  constructor
  · intro h
    cases hsplit : splitQualified q with
    | none =>
      rw [hsplit] at h
      cases h
    | some parts =>
      obtain ⟨ns, name⟩ := parts
      rw [hsplit, Except.ok.injEq] at h
      obtain ⟨hq, hdot⟩ := splitQualified_eq_some_iff.1 hsplit
      exact ⟨ns, name, hq, hdot, h.symm⟩
  · rintro ⟨ns, name, hq, hdot, rfl⟩
    rw [splitQualified_eq_some_iff.2 ⟨hq, hdot⟩]

/-- Only a text without dots has no path, and the error names the text. -/
theorem lowercasedImportPath_eq_error_iff {q : String} {e : ImportError} :
    lowercasedImportPath q = .error e ↔ '.' ∉ q.toList ∧ e = .unqualified q := by
  unfold lowercasedImportPath
  rw [← splitQualified_eq_none_iff]
  cases splitQualified q with
  | none => simp [eq_comm]
  | some parts => simp

theorem count_dot_lowercaseText (ns : String) :
    (lowercaseText ns).toList.count '.' = ns.toList.count '.' :=
  count_lowercaseText lowercase_isolated_dot (by decide) ns

theorem count_dot_importPath {q path : String} (h : lowercasedImportPath q = .ok path) :
    path.toList.count '.' = q.toList.count '.' := by
  obtain ⟨ns, name, rfl, -, rfl⟩ := lowercasedImportPath_eq_ok_iff.1 h
  simp only [String.toList_append, List.count_append, count_dot_lowercaseText]

theorem importPath_stable {q path : String} (h : lowercasedImportPath q = .ok path) :
    lowercasedImportPath path = .ok path := by
  obtain ⟨ns, name, -, hdot, rfl⟩ := lowercasedImportPath_eq_ok_iff.1 h
  rw [lowercasedImportPath_eq_ok_iff]
  exact ⟨lowercaseText ns, name, rfl, hdot, by rw [lowercaseText_lowercaseText]⟩

/-- **Import paths keep the name of the type and are stable.**  Exactly the texts without dots have
no path.  Any other path has as many dots as the text; behind its last dot stands what stands behind
the last dot of the text, and before it the lowercase of what stands before that; and the path is
its own path. -/
theorem importPath_keeps_type_segment (q : String) :
    ((∃ e, lowercasedImportPath q = .error e) ↔ '.' ∉ q.toList) ∧
    ('.' ∈ q.toList →
      ∃ path ns name, lowercasedImportPath q = .ok path ∧
        path.toList.count '.' = q.toList.count '.' ∧
        q = ns ++ "." ++ name ∧ '.' ∉ name.toList ∧
        path = lowercaseText ns ++ "." ++ name ∧
        lowercasedImportPath path = .ok path) := by
  constructor
  · constructor
    · rintro ⟨e, h⟩
      exact (lowercasedImportPath_eq_error_iff.1 h).1
    · intro hdot
      exact ⟨.unqualified q, lowercasedImportPath_eq_error_iff.2 ⟨hdot, rfl⟩⟩
  · intro hmem
    cases hpath : lowercasedImportPath q with
    | error e => exact absurd hmem (lowercasedImportPath_eq_error_iff.1 hpath).1
    | ok path =>
      obtain ⟨ns, name, hq, hdot, hparts⟩ := lowercasedImportPath_eq_ok_iff.1 hpath
      exact ⟨path, ns, name, rfl, count_dot_importPath hpath, hq, hdot, hparts,
        importPath_stable hpath⟩

/-- The sigma at the end of the namespace is final although a letter stands behind the dot, the
capital I with a dot becomes two characters, and the empty parts stay. -/
theorem importPath_keeps_type_segment_greek :
    '.' ∈ ".İ..ΟΔΟΣ.Σ".toList ∧
    ∃ path, lowercasedImportPath ".İ..ΟΔΟΣ.Σ" = .ok path ∧ path = ".i̇..οδος.Σ" ∧
      path.toList.count '.' = 4 ∧ lowercasedImportPath path = .ok path := by
  have hdot : '.' ∈ ".İ..ΟΔΟΣ.Σ".toList := by decide
  have hlower : lowercaseText ".İ..ΟΔΟΣ" = ".i̇..οδος" := by decide +kernel
  obtain ⟨path, ns, name, hpath, hcount, hq, hname, hparts, hstable⟩ :=
    (importPath_keeps_type_segment ".İ..ΟΔΟΣ.Σ").2 hdot
  have hrun : lowercasedImportPath ".İ..ΟΔΟΣ.Σ" = .ok ".i̇..οδος.Σ" :=
    lowercasedImportPath_eq_ok_iff.2 ⟨".İ..ΟΔΟΣ", "Σ", by decide, by decide, by rw [hlower]; decide⟩
  rw [hpath, Except.ok.injEq] at hrun
  exact ⟨hdot, path, hpath, hrun, by rw [hcount]; decide, hstable⟩

end EdmMapping
