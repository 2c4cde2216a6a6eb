import EdmMapping.Proofs.Unicode.Lowercase
import EdmMapping.Unicode.WhiteSpace

/-!
# Capitalised names are stable

Only the first character of a name is written anew, possibly as several characters, and writing it
anew a second time changes nothing.  What names are cut at, and what is removed from them, is
neither made nor lost on the way: dots, `@` and white space.

* `CodeRange.untouched` — a range that a case mapping neither moves nor leads to; it can be
  evaluated;
* `isolated_of_untouched` — its characters come from themselves alone;
* `isSeparator`, `separators` — the characters that names are cut at or cleaned of;
* `filter_mapFirst` — a property of isolated characters finds the same ones in a mapped name;
* `capitalisation_stable` — both case mappings of names settle at once, change the first character
  only, and keep the separators.
-/

set_option autoImplicit false

namespace EdmMapping.Unicode

/-! ## Ranges that case mappings leave alone -/

/-- No code point of the range is moved by the tables, and none is reached by them. -/
def CodeRange.untouched (expansions : List CaseExpansion) (runs : List CaseRun) (g : CodeRange) :
    Bool :=
  (expansions.all fun e => !g.contains e.source && e.image.all fun c => !g.contains c) &&
    runs.all fun r => r.hitsCharacters && (r.last.blt g.first || g.last.blt r.first) &&
      (r.lastImage.blt g.first || g.last.blt r.target)

section Tables

variable {expansions : List CaseExpansion} {runs : List CaseRun} {g : CodeRange} {c : Char}

theorem CodeRange.contains_iff : g.contains c = true ↔ g.first ≤ c.toNat ∧ c.toNat ≤ g.last := by
  simp [contains]

theorem isolated_of_untouched (h : g.untouched expansions runs = true)
    (hc : g.contains c = true) : isolated expansions runs c = true := by
  simp only [CodeRange.untouched, Bool.and_eq_true, Bool.or_eq_true, List.all_eq_true,
    Bool.not_eq_true', Nat.blt_eq] at h
  obtain ⟨hexpansions, hruns⟩ := h
  obtain ⟨hfirst, hlast⟩ := CodeRange.contains_iff.1 hc
  have hself : mapCase expansions runs c = [c] := by
    refine mapCase_of_notMem ?_ ?_
    · rintro e he rfl
      exact Bool.false_ne_true ((hexpansions e he).1.symm.trans hc)
    · intro r hr
      obtain ⟨⟨-, hbeside⟩, -⟩ := hruns r hr
      rw [← Bool.not_eq_true, CaseRun.contains_iff]
      omega
  simp only [isolated, Bool.and_eq_true, decide_eq_true_eq, List.all_eq_true]
  refine ⟨⟨hself, fun e he => ?_⟩, fun r hr => ?_⟩
  · rw [Bool.not_eq_true', ← Bool.not_eq_true, List.contains_iff_mem]
    intro hmem
    exact Bool.false_ne_true (((hexpansions e he).2 c hmem).symm.trans hc)
  · obtain ⟨⟨hchars, -⟩, hbeside⟩ := hruns r hr
    refine ⟨hchars, ?_⟩
    simp only [CaseRun.misses, CaseRun.single, Bool.or_eq_true, Nat.blt_eq]
    omega

end Tables

end EdmMapping.Unicode

namespace EdmMapping

open Unicode

/-! ## Separators -/

/-- What names are cut at or cleaned of: a dot, an `@` or white space. -/
def isSeparator (c : Char) : Bool := c = '.' || c = '@' || isWhiteSpace c

/-- The separators in a name, in their order. -/
def separators (name : String) : List Char := name.toList.filter isSeparator

theorem uppercase_untouched_whiteSpace :
    whiteSpaceRanges.all (·.untouched uppercaseExpansions uppercaseRuns) = true := by
  decide +kernel

theorem lowercase_untouched_whiteSpace :
    whiteSpaceRanges.all (·.untouched lowercaseExpansions lowercaseRuns) = true := by
  decide +kernel

theorem lowercase_isolated_at : isolated lowercaseExpansions lowercaseRuns '@' = true := by
  decide +kernel

theorem isolated_of_isSeparator {expansions : List CaseExpansion} {runs : List CaseRun}
    (hdot : isolated expansions runs '.' = true) (hat : isolated expansions runs '@' = true)
    (hspace : whiteSpaceRanges.all (·.untouched expansions runs) = true) {c : Char}
    (hc : isSeparator c = true) : isolated expansions runs c = true := by
  simp only [isSeparator, Bool.or_eq_true, decide_eq_true_eq] at hc
  rcases hc with (rfl | rfl) | hc
  · exact hdot
  · exact hat
  · obtain ⟨g, hg, hcontains⟩ := List.any_eq_true.1 hc
    exact isolated_of_untouched (List.all_eq_true.1 hspace g hg) hcontains

/-! ## Names -/

theorem filter_mapFirst {f : Char → List Char} {p : Char → Bool}
    (h : ∀ c, (f c).filter p = [c].filter p) (cs : List Char) :
    (mapFirst f cs).filter p = cs.filter p := by
  cases cs with
  | nil => rfl
  | cons c rest => rw [mapFirst, List.filter_append, h, ← List.filter_append, List.singleton_append]

theorem separators_upperFirst (name : String) : separators (upperFirst name) = separators name := by
  unfold separators
  rw [toList_upperFirst, upperFirstChars_eq_mapFirst]
  refine filter_mapFirst (filter_mapCase fun c hc => ?_) name.toList
  exact isolated_of_isSeparator uppercase_isolated_dot uppercase_isolated_at
    uppercase_untouched_whiteSpace hc

theorem separators_lowerFirst (name : String) : separators (lowerFirst name) = separators name := by
  unfold separators
  rw [toList_lowerFirst, lowerFirstChars_eq_mapFirst]
  refine filter_mapFirst (filter_mapCase fun c hc => ?_) name.toList
  exact isolated_of_isSeparator lowercase_isolated_dot lowercase_isolated_at
    lowercase_untouched_whiteSpace hc

/-- What becomes of a character in lowercase starts with a character in lowercase. -/
theorem lowercase_stable (c : Char) : ∃ d rest, lowercase c = d :: rest ∧ lowercase d = [d] :=
  mapCase_stable (Bool.and_eq_true_iff.1 lowercase_settledTables).1 c

@[simp] theorem lowerFirst_lowerFirst (name : String) :
    lowerFirst (lowerFirst name) = lowerFirst name := by
  rw [← String.toList_inj, toList_lowerFirst, toList_lowerFirst, lowerFirstChars_eq_mapFirst]
  exact mapFirst_mapFirst lowercase_stable name.toList

theorem upperFirst_cons (c : Char) (rest : String) :
    upperFirst (String.singleton c ++ rest) = String.ofList (uppercase c) ++ rest := by
  rw [← String.toList_inj]
  simp [upperFirstChars]

theorem lowerFirst_cons (c : Char) (rest : String) :
    lowerFirst (String.singleton c ++ rest) = String.ofList (lowercase c) ++ rest := by
  rw [← String.toList_inj]
  simp [lowerFirstChars]

/-- **The case of a name is stable.**  A capitalised name is its own capitalisation, and a
decapitalised one its own decapitalisation; what stands behind the first character stays as it is;
and the dots, the `@` and the white space of a name are those of the mapped name, so a name without
them never comes to have one. -/
theorem capitalisation_stable :
    (∀ name, upperFirst (upperFirst name) = upperFirst name ∧
      lowerFirst (lowerFirst name) = lowerFirst name) ∧
    (∀ (c : Char) (rest : String),
      upperFirst (String.singleton c ++ rest) = String.ofList (uppercase c) ++ rest ∧
      lowerFirst (String.singleton c ++ rest) = String.ofList (lowercase c) ++ rest) ∧
    ∀ name, separators (upperFirst name) = separators name ∧
      separators (lowerFirst name) = separators name :=
  ⟨fun name => ⟨upperFirst_upperFirst name, lowerFirst_lowerFirst name⟩,
    fun c rest => ⟨upperFirst_cons c rest, lowerFirst_cons c rest⟩,
    fun name => ⟨separators_upperFirst name, separators_lowerFirst name⟩⟩

/-- A first character that becomes two: only the first of the two has to stay. -/
example : upperFirst "\u0149.a" = "\u02BCN.a" ∧ upperFirst "\u02BCN.a" = "\u02BCN.a" ∧
    lowerFirst "\u0130@B" = "i\u0307@B" ∧ separators "\u0149.a" = ['.'] := by
  decide +kernel

end EdmMapping
