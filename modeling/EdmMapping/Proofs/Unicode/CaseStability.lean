import EdmMapping.Text.Capital

/-!
# Case mappings are stable

What a case mapping makes of a character starts with a character that it leaves alone: capitalising
a capitalised name changes nothing.  The tables are compared run by run instead of character by
character.

* `CaseRun.misses` — the images of a run lie beside the code points of another one;
* `mapCase_cases` — what a case mapping can make of a character;
* `stableTables` — no image of the tables is moved by them again; it can be evaluated;
* `mapCase_stable` — the first character of an image stays; `uppercase_stable` — for capitals;
* `mapFirst` — a name with its first character mapped, by whichever mapping;
* `upperFirst_upperFirst` — capitalising twice is capitalising once.
-/

set_option autoImplicit false

namespace EdmMapping.Unicode

/-! ## Runs that miss each other -/

namespace CaseRun

/-- The last code point that the run sends another one to. -/
def lastImage (r : CaseRun) : Nat := r.target + (r.last - r.first)

/-- The run of a single code point, which stays in its place. -/
def single (n : Nat) : CaseRun := ⟨n, n, 1, n⟩

/-- All code points of the run are even, or all are odd. -/
def oneParity (r : CaseRun) : Bool := r.step == 2 || r.first == r.last

/-- The images of `r` lie before `q`, behind it, or in its gaps. -/
def misses (r q : CaseRun) : Bool :=
  r.lastImage.blt q.first || q.last.blt r.target ||
    (r.oneParity && q.oneParity && r.target % 2 != q.first % 2)

def hitsCharacters (r : CaseRun) : Bool :=
  r.lastImage.blt 0xD800 || (Nat.blt 0xDFFF r.target && r.lastImage.blt 0x110000)

theorem contains_iff {r : CaseRun} {c : Char} :
    r.contains c = true ↔
      r.first ≤ c.toNat ∧ c.toNat ≤ r.last ∧ (c.toNat - r.first) % r.step = 0 := by
  simp [contains, and_assoc]

theorem toNat_image {r : CaseRun} {c : Char} (h : r.hitsCharacters = true)
    (hc : r.contains c = true) : (r.image c).toNat = r.target + (c.toNat - r.first) := by
  obtain ⟨hfirst, hlast, -⟩ := contains_iff.1 hc
  have hvalid : (r.target + (c.toNat - r.first)).isValidChar := by
    simp only [hitsCharacters, lastImage, Bool.or_eq_true, Bool.and_eq_true, Nat.blt_eq] at h
    unfold Nat.isValidChar
    omega
  unfold image Char.ofNat
  rw [dif_pos hvalid]
  rfl

theorem contains_image_of_misses {r q : CaseRun} (h : r.misses q = true)
    (hr : r.hitsCharacters = true) {c : Char} (hc : r.contains c = true) :
    q.contains (r.image c) = false := by
  rw [← Bool.not_eq_true, contains_iff, toNat_image hr hc]
  rintro ⟨hge, hle, hstep⟩
  obtain ⟨hfirst, hlast, hmod⟩ := contains_iff.1 hc
  simp only [misses, lastImage, oneParity, Bool.or_eq_true, Bool.and_eq_true, Nat.blt_eq,
    beq_iff_eq, bne_iff_ne] at h
  rcases h with (h | h) | ⟨⟨hr2, hq2⟩, hparity⟩
  · omega
  · omega
  · have heven : (c.toNat - r.first) % 2 = 0 := by
      rcases hr2 with h2 | h2
      · rwa [h2] at hmod
      · omega
    have hgap : (r.target + (c.toNat - r.first) - q.first) % 2 = 0 := by
      rcases hq2 with h2 | h2
      · rwa [h2] at hstep
      · omega
    omega

end CaseRun

/-! ## Stable tables -/

/-- What becomes of a character: its expansion, its image in a run, or the character itself. -/
theorem mapCase_cases (expansions : List CaseExpansion) (runs : List CaseRun) (c : Char) :
    (∃ e ∈ expansions, e.source = c ∧ mapCase expansions runs c = e.image) ∨
    (∃ r ∈ runs, r.contains c = true ∧ mapCase expansions runs c = [r.image c]) ∨
    mapCase expansions runs c = [c] := by
  unfold mapCase
  cases hexpansion : expansions.find? (·.source = c) with
  | some e =>
    have hsource : e.source = c := by simpa using List.find?_some hexpansion
    exact .inl ⟨e, List.mem_of_find?_eq_some hexpansion, hsource, rfl⟩
  | none =>
    cases hrun : runs.find? (·.contains c) with
    | some r =>
      have hcontains : r.contains c = true := by simpa using List.find?_some hrun
      exact .inr (.inl ⟨r, List.mem_of_find?_eq_some hrun, hcontains, rfl⟩)
    | none => exact .inr (.inr rfl)

/-- No image of the tables, and no first character of one, is moved by them. -/
def stableTables (expansions : List CaseExpansion) (runs : List CaseRun) : Bool :=
  (expansions.all fun e => e.image.head?.any fun c => mapCase expansions runs c = [c]) &&
    (runs.all fun r => r.hitsCharacters && (runs.all fun q => r.misses q) &&
      expansions.all fun e => r.misses (.single e.source.toNat))

theorem uppercase_stableTables : stableTables uppercaseExpansions uppercaseRuns = true := by
  decide +kernel

variable {expansions : List CaseExpansion} {runs : List CaseRun}

/-- A character in neither list stays. -/
theorem mapCase_of_notMem {c : Char} (he : ∀ e ∈ expansions, e.source ≠ c)
    (hr : ∀ r ∈ runs, r.contains c = false) : mapCase expansions runs c = [c] := by
  have hexpansion : expansions.find? (·.source = c) = none := by
    simpa using he
  have hrun : runs.find? (·.contains c) = none := by
    simpa using hr
  simp only [mapCase, hexpansion, hrun]

/-- What becomes of a character starts with a character that stays. -/
theorem mapCase_stable (h : stableTables expansions runs = true) (c : Char) :
    ∃ d rest, mapCase expansions runs c = d :: rest ∧ mapCase expansions runs d = [d] := by
  simp only [stableTables, Bool.and_eq_true, List.all_eq_true] at h
  obtain ⟨hheads, hruns⟩ := h
  rcases mapCase_cases expansions runs c with ⟨e, he, -, himage⟩ | ⟨r, hr, hc, himage⟩ | hself
  · have hhead := hheads e he
    cases hchars : e.image with
    | nil => simp [hchars] at hhead
    | cons d rest => exact ⟨d, rest, himage.trans hchars, by simpa [hchars] using hhead⟩
  · obtain ⟨⟨hchars, hapart⟩, hsources⟩ := hruns r hr
    refine ⟨r.image c, [], himage, mapCase_of_notMem ?_ ?_⟩
    · intro e he hsource
      have hmiss := CaseRun.contains_image_of_misses (hsources e he) hchars hc
      rw [← hsource, ← Bool.not_eq_true, CaseRun.contains_iff] at hmiss
      exact hmiss (by simp [CaseRun.single])
    · intro q hq
      exact CaseRun.contains_image_of_misses (hapart q hq) hchars hc
  · exact ⟨c, [], hself, hself⟩

theorem uppercase_stable (c : Char) : ∃ d rest, uppercase c = d :: rest ∧ uppercase d = [d] :=
  mapCase_stable uppercase_stableTables c

end EdmMapping.Unicode

namespace EdmMapping

open Unicode

/-! ## Names with their first character mapped -/

/-- The name with its first character mapped. -/
def mapFirst (f : Char → List Char) : List Char → List Char
  | [] => []
  | c :: rest => f c ++ rest

theorem upperFirstChars_eq_mapFirst : upperFirstChars = mapFirst uppercase := by
  funext cs
  cases cs <;> rfl

theorem lowerFirstChars_eq_mapFirst : lowerFirstChars = mapFirst lowercase := by
  funext cs
  cases cs <;> rfl

/-- Mapping the first character twice is mapping it once, if images start with a character that
stays. -/
theorem mapFirst_mapFirst {f : Char → List Char} (h : ∀ c, ∃ d rest, f c = d :: rest ∧ f d = [d])
    (cs : List Char) : mapFirst f (mapFirst f cs) = mapFirst f cs := by
  cases cs with
  | nil => rfl
  | cons c cs =>
    obtain ⟨d, rest, hc, hd⟩ := h c
    simp only [mapFirst, hc, hd, List.cons_append, List.nil_append]

@[simp] theorem upperFirst_upperFirst (name : String) :
    upperFirst (upperFirst name) = upperFirst name := by
  rw [upperFirst_eq_iff, toList_upperFirst, upperFirstChars_eq_mapFirst]
  exact mapFirst_mapFirst uppercase_stable name.toList

end EdmMapping
