import EdmMapping.Proofs.Unicode.CaseStability

/-!
# Characters that case mappings leave alone

Capitalising a name writes new characters, but never a dot or an `@`: what a name is cut at, and
what is removed from it, is there afterwards exactly if it was there before.

* `isolated` — a character that stays, and that no other one becomes; it can be evaluated;
* `mem_mapCase_iff` — an isolated character comes from itself alone;
* `filter_mapCase` — a property of isolated characters finds the same ones in an image;
* `mem_upperFirst_iff` — it stands in a capitalised name exactly if it stands in the name.
-/

set_option autoImplicit false

namespace EdmMapping.Unicode

/-- The character stays, and no image of the tables holds it. -/
def isolated (expansions : List CaseExpansion) (runs : List CaseRun) (c : Char) : Bool :=
  decide (mapCase expansions runs c = [c]) && (expansions.all fun e => !e.image.contains c) &&
    runs.all fun r => r.hitsCharacters && r.misses (.single c.toNat)

theorem uppercase_isolated_dot : isolated uppercaseExpansions uppercaseRuns '.' = true := by
  decide +kernel

theorem uppercase_isolated_at : isolated uppercaseExpansions uppercaseRuns '@' = true := by
  decide +kernel

variable {expansions : List CaseExpansion} {runs : List CaseRun} {c d : Char}

theorem mapCase_of_isolated (h : isolated expansions runs c = true) :
    mapCase expansions runs c = [c] := by
  simp only [isolated, Bool.and_eq_true, decide_eq_true_eq] at h
  exact h.1.1

theorem mem_mapCase_iff (h : isolated expansions runs c = true) :
    c ∈ mapCase expansions runs d ↔ d = c := by
  constructor
  · intro hmem
    simp only [isolated, Bool.and_eq_true, List.all_eq_true] at h
    obtain ⟨⟨-, hexpansions⟩, hruns⟩ := h
    rcases mapCase_cases expansions runs d with ⟨e, he, -, himage⟩ | ⟨r, hr, hd, himage⟩ | hself
    · have hnot := hexpansions e he
      rw [himage] at hmem
      simp [hmem] at hnot
    · obtain ⟨hchars, hmiss⟩ := hruns r hr
      have hbeside := CaseRun.contains_image_of_misses hmiss hchars hd
      rw [himage, List.mem_singleton] at hmem
      rw [← hmem, ← Bool.not_eq_true, CaseRun.contains_iff] at hbeside
      exact absurd (by simp [CaseRun.single]) hbeside
    · rw [hself, List.mem_singleton] at hmem
      exact hmem.symm
  · rintro rfl
    rw [mapCase_of_isolated h]
    exact List.mem_singleton_self d

/-- A case mapping that isolates the characters with a property finds them where they were. -/
theorem filter_mapCase {p : Char → Bool} (h : ∀ c, p c = true → isolated expansions runs c = true)
    (d : Char) : (mapCase expansions runs d).filter p = [d].filter p := by
  by_cases hd : p d = true
  · rw [mapCase_of_isolated (h d hd)]
  · have hnone : ∀ c ∈ mapCase expansions runs d, ¬ p c = true := by
      intro c hc hpc
      have hdc : d = c := (mem_mapCase_iff (h c hpc)).1 hc
      exact hd (hdc ▸ hpc)
    rw [List.filter_eq_nil_iff.2 hnone, List.filter_cons_of_neg hd, List.filter_nil]

end EdmMapping.Unicode

namespace EdmMapping

open Unicode

variable {c : Char}

theorem mem_upperFirst_iff (h : isolated uppercaseExpansions uppercaseRuns c = true)
    (name : String) : c ∈ (upperFirst name).toList ↔ c ∈ name.toList := by
  rw [toList_upperFirst]
  cases name.toList with
  | nil => rfl
  | cons d rest =>
    have hfirst : c ∈ uppercase d ↔ d = c := mem_mapCase_iff h
    rw [upperFirstChars, List.mem_append, List.mem_cons, hfirst, eq_comm]

end EdmMapping
