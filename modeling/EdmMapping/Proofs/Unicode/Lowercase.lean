import EdmMapping.Proofs.Unicode.Isolated

/-!
# Lowercase texts

A text in lowercase consists of characters that are their own lowercase, so making it lowercase
again changes nothing; the final sigma is no exception, although it depends on the letters around
it.  Dots are neither made nor lost on the way.

* `settledTables` — no character of an image of the tables is moved by them again; it can be
  evaluated;
* `lowercase_of_mem_lowercase` — what becomes of a character stays;
* `lowercaseText_eq_self_iff` — the texts that are in lowercase;
* `lowercaseText_lowercaseText` — a text in lowercase is one of them;
* `count_lowercaseText` — an isolated character stands in the lowercase as often as in the text.
-/

set_option autoImplicit false

namespace EdmMapping.Unicode

/-! ## Characters -/

/-- No character of an image of the tables is moved by them. -/
def settledTables (expansions : List CaseExpansion) (runs : List CaseRun) : Bool :=
  stableTables expansions runs &&
    expansions.all fun e => e.image.all fun c => decide (mapCase expansions runs c = [c])

theorem lowercase_settledTables : settledTables lowercaseExpansions lowercaseRuns = true := by
  decide +kernel

theorem lowercase_isolated_dot : isolated lowercaseExpansions lowercaseRuns '.' = true := by
  decide +kernel

section Tables

variable {expansions : List CaseExpansion} {runs : List CaseRun} {c d : Char}

/-- What becomes of a character stays. -/
theorem mapCase_of_mem_mapCase (h : settledTables expansions runs = true)
    (hd : d ∈ mapCase expansions runs c) : mapCase expansions runs d = [d] := by
  simp only [settledTables, Bool.and_eq_true, List.all_eq_true, decide_eq_true_eq] at h
  obtain ⟨hstable, hexpansions⟩ := h
  -- the one character of an image that is no expansion is also its first one
  obtain ⟨first, rest, hfirst, hstays⟩ := mapCase_stable hstable c
  rcases mapCase_cases expansions runs c with ⟨e, he, -, himage⟩ | ⟨r, -, -, himage⟩ | hself
  · rw [himage] at hd
    exact hexpansions e he d hd
  · rw [himage, List.cons.injEq] at hfirst
    rw [himage, List.mem_singleton] at hd
    rw [hd, hfirst.1]
    exact hstays
  · rw [hself, List.mem_singleton] at hd
    rw [hd]
    exact hself

/-- An isolated character stands in its own image once, and in no other one. -/
theorem count_mapCase (h : isolated expansions runs c = true) :
    (mapCase expansions runs d).count c = [d].count c := by
  rw [List.count_eq_length_filter, List.count_eq_length_filter, filter_mapCase]
  intro x hx
  rwa [beq_iff_eq.1 hx]

end Tables

theorem lowercase_of_mem_lowercase {c d : Char} (h : d ∈ lowercase c) : lowercase d = [d] :=
  mapCase_of_mem_mapCase lowercase_settledTables h

/-! ## Texts -/

theorem lowercaseSigma_cases (before after : List Char) :
    lowercaseSigma before after = 'ς' ∨ lowercaseSigma before after = 'σ' := by
  unfold lowercaseSigma
  split
  · exact .inl rfl
  · exact .inr rfl

theorem lowercase_lowercaseSigma (before after : List Char) :
    lowercase (lowercaseSigma before after) = [lowercaseSigma before after] := by
  rcases lowercaseSigma_cases before after with h | h
  · rw [h]
    decide +kernel
  · rw [h]
    decide +kernel

theorem lowercase_of_mem_lowercaseAfter {d : Char} {before cs : List Char}
    (h : d ∈ lowercaseAfter before cs) : lowercase d = [d] := by
  induction cs generalizing before with
  | nil => cases h
  | cons c cs ih =>
    rw [lowercaseAfter, List.mem_append] at h
    rcases h with h | h
    · by_cases hsigma : c = 'Σ'
      · rw [if_pos hsigma, List.mem_singleton] at h
        rw [h]
        exact lowercase_lowercaseSigma before cs
      · rw [if_neg hsigma] at h
        exact lowercase_of_mem_lowercase h
    · exact ih h

/-- The capital sigma is not its own lowercase, so nothing depends on the letters around. -/
theorem lowercaseAfter_eq_self {before cs : List Char} (h : ∀ c ∈ cs, lowercase c = [c]) :
    lowercaseAfter before cs = cs := by
  induction cs generalizing before with
  | nil => rfl
  | cons c cs ih =>
    have hc : lowercase c = [c] := h c (by simp)
    have hsigma : c ≠ 'Σ' := by
      rintro rfl
      revert hc
      decide +kernel
    rw [lowercaseAfter, if_neg hsigma, hc, ih fun d hd => h d (List.mem_cons_of_mem c hd)]
    rfl

theorem lowercaseText_eq_self_iff {text : String} :
    lowercaseText text = text ↔ ∀ c ∈ text.toList, lowercase c = [c] := by
  rw [← String.toList_inj, toList_lowercaseText]
  constructor
  · intro h c hc
    rw [← h] at hc
    exact lowercase_of_mem_lowercaseAfter hc
  · exact lowercaseAfter_eq_self

/-- **Lowercase is stable**: a text in lowercase is its own lowercase. -/
@[simp] theorem lowercaseText_lowercaseText (text : String) :
    lowercaseText (lowercaseText text) = lowercaseText text := by
  rw [lowercaseText_eq_self_iff, toList_lowercaseText]
  intro c hc
  exact lowercase_of_mem_lowercaseAfter hc

/-- An isolated character comes from itself alone.  The final sigma has to be left out: no table
leads to it. -/
theorem count_lowercaseAfter {c : Char} (h : isolated lowercaseExpansions lowercaseRuns c = true)
    (hfinal : c ≠ 'ς') (before cs : List Char) :
    (lowercaseAfter before cs).count c = cs.count c := by
  have hlower (d : Char) : (lowercase d).count c = [d].count c := count_mapCase h
  -- the small sigma is the image of the capital one, so it is not isolated
  have hsigma : c ≠ 'Σ' ∧ c ≠ 'σ' := by
    constructor
    · rintro rfl
      revert h
      decide +kernel
    · rintro rfl
      revert h
      decide +kernel
  induction cs generalizing before with
  | nil => rfl
  | cons d cs ih =>
    have hcons : (d :: cs).count c = [d].count c + cs.count c := by
      rw [← List.count_append, List.singleton_append]
    rw [lowercaseAfter, List.count_append, ih, hcons]
    by_cases hd : d = 'Σ'
    · have hnone : [lowercaseSigma before cs].count c = 0 := by
        rw [List.count_eq_zero, List.mem_singleton]
        rcases lowercaseSigma_cases before cs with hs | hs
        · rwa [hs]
        · rw [hs]
          exact hsigma.2
      have hcapital : [d].count c = 0 := by
        rw [List.count_eq_zero, List.mem_singleton, hd]
        exact hsigma.1
      rw [if_pos hd, hnone, hcapital]
    · rw [if_neg hd, hlower]

theorem count_lowercaseText {c : Char} (h : isolated lowercaseExpansions lowercaseRuns c = true)
    (hfinal : c ≠ 'ς') (text : String) :
    (lowercaseText text).toList.count c = text.toList.count c := by
  rw [toList_lowercaseText]
  exact count_lowercaseAfter h hfinal [] text.toList

end EdmMapping.Unicode
