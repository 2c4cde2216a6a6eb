import EdmMapping.Toml.Reader

/-!
# What readers return

* `Yields` — whatever a reader returns has a property; the laws follow the ways in which readers are
  put together, so a property of a document follows from that of its parts;
* `run_peek`, …, `run_gaps` — the building blocks on the characters that they look for;
* `yields_itemsTo`, `run_itemsTo` — both for items up to a closing character.
-/

set_option autoImplicit false

namespace EdmMapping.Toml.Reader

variable {α β : Type}

/-! ## Properties of what is returned -/

/-- Whatever the reader returns has the property. -/
def Yields (r : Reader α) (P : α → Prop) : Prop :=
  ∀ cs a rest, r.run cs = some (a, rest) → P a

variable {P : α → Prop} {Q : β → Prop} {r : Reader β} {f : β → Reader α}

theorem yields_pure {a : α} (h : P a) : Yields (pure a) P := by
  intro cs b rest hrun
  cases hrun
  exact h

theorem yields_failure : Yields failure P := by
  intro cs a rest hrun
  cases hrun

theorem Yields.bind (hr : Yields r Q) (hf : ∀ b, Q b → Yields (f b) P) : Yields (r >>= f) P := by
  intro cs a rest hrun
  obtain ⟨⟨b, cs'⟩, hb, ha⟩ := Option.bind_eq_some_iff.1 hrun
  exact hf b (hr cs b cs' hb) cs' a rest ha

/-- The property comes from the last step, whatever is read before. -/
theorem yields_bind (hf : ∀ b, Yields (f b) P) : Yields (r >>= f) P :=
  Yields.bind (Q := fun _ => True) (fun _ _ _ _ => trivial) fun b _ => hf b

theorem yields_liftM {o : Option α} (h : ∀ a, o = some a → P a) :
    Yields (liftM o : Reader α) P := by
  intro cs a rest hrun
  obtain ⟨b, hb, heq⟩ := Option.bind_eq_some_iff.1 hrun
  cases heq
  exact h _ hb

theorem yields_items {item : Reader α} (h : Yields item P) (close : Char) (bound : Nat) :
    Yields (items item close bound) fun as => ∀ a ∈ as, P a := by
  induction bound with
  | zero => exact yields_failure
  | succ bound ih =>
    refine yields_bind fun _ => yields_bind fun closed => ?_
    cases closed with
    | true => exact yields_pure nofun
    | false =>
      refine h.bind fun first hfirst => yields_bind fun _ => yields_bind fun more => ?_
      cases more with
      | true => exact ih.bind fun as has => yields_pure (List.forall_mem_cons.2 ⟨hfirst, has⟩)
      | false => exact yields_bind fun _ => yields_pure (List.forall_mem_singleton.2 hfirst)

theorem yields_itemsTo {item : Reader α} (h : Yields item P) (close : Char) :
    Yields (itemsTo item close) fun as => ∀ a ∈ as, P a :=
  yields_bind fun _ => yields_items h close _

/-! ## Characters -/

section

variable (c : Char) (cs rest : List Char)

@[simp] theorem run_peek : peek.run cs = some (cs.head?, cs) := rfl

@[simp] theorem run_char : (char c).run (c :: cs) = some ((), cs) := by
  simp [char]

@[simp] theorem run_tryChar : (tryChar c).run (c :: cs) = some (true, cs) := by
  simp [tryChar]

theorem run_tryChar_of_ne {c d : Char} (h : c ≠ d) :
    (tryChar c).run (d :: cs) = some (false, d :: cs) := by
  simp [tryChar, h]

/-- The characters with which something starts that may stand between the parts of a document. -/
def gapMarks : List Char := [' ', '\t', '\n', '\r', '#']

variable {c}

theorem run_blanks (h : c ∉ gapMarks) : blanks.run (c :: cs) = some ((), c :: cs) := by
  have hc : isBlank c = false := by
    simp only [gapMarks, List.mem_cons, not_or] at h
    simp [isBlank, h]
  simp [blanks, StateT.run_modify, hc]

theorem run_gaps (h : c ∉ gapMarks) : gaps.run (c :: cs) = some ((), c :: cs) := by
  have hskip : skipGaps (c :: cs) = c :: cs := by
    simp only [gapMarks, List.mem_cons, not_or] at h
    rw [skipGaps]
    all_goals simp_all
  simp [gaps, StateT.run_modify, hskip]

end

/-! ## Items -/

section

variable {item : Reader α} {spelling : α → List Char} {close : Char} {as : List α}

/-- Items are read one after the other, if each is read from its spelling, which starts neither with
a gap nor with the closing character, and a comma follows it. -/
theorem run_items (hclose : close ∉ gapMarks)
    (hitem : ∀ a ∈ as, ∀ rest, item.run (spelling a ++ ',' :: rest) = some (a, ',' :: rest))
    (hfirst : ∀ a ∈ as, ∃ c cs, spelling a = c :: cs ∧ c ∉ close :: gapMarks)
    {bound : Nat} (hbound : as.length < bound) (rest : List Char) :
    (items item close bound).run (as.flatMap (fun a => spelling a ++ [',']) ++ close :: rest) =
      some (as, rest) := by
  induction as generalizing bound with
  | nil =>
    obtain ⟨bound, rfl⟩ := Nat.exists_eq_add_of_lt hbound
    simp [items, run_gaps _ hclose]
  | cons a as ih =>
    obtain ⟨bound, rfl⟩ : ∃ n, bound = n + 1 := ⟨bound - 1, by omega⟩
    obtain ⟨ha, hitem⟩ := List.forall_mem_cons.1 hitem
    obtain ⟨⟨c, cs, hspelling, hc⟩, hfirst⟩ := List.forall_mem_cons.1 hfirst
    obtain ⟨hne, hgap⟩ : c ≠ close ∧ c ∉ gapMarks := by simpa using hc
    have hrest := ih hitem hfirst (Nat.lt_of_succ_lt_succ hbound)
    have hread := ha (as.flatMap (fun a => spelling a ++ [',']) ++ close :: rest)
    rw [hspelling, List.cons_append] at hread
    have hcomma : ',' ∉ gapMarks := by decide
    simp [items, hspelling, run_gaps _ hgap, run_tryChar_of_ne _ (Ne.symm hne), hread,
      run_gaps _ hcomma, hrest]

theorem length_le_length_flatMap (mark : Char) (as : List α) :
    as.length ≤ (as.flatMap fun a => spelling a ++ [mark]).length := by
  induction as with
  | nil => exact Nat.le_refl _
  | cons a as ih =>
    simp only [List.flatMap_cons, List.length_append, List.length_cons, List.length_nil]
    omega

/-- **Items with commas behind them are read as they are**, however many they are. -/
theorem run_itemsTo (hclose : close ∉ gapMarks)
    (hitem : ∀ a ∈ as, ∀ rest, item.run (spelling a ++ ',' :: rest) = some (a, ',' :: rest))
    (hfirst : ∀ a ∈ as, ∃ c cs, spelling a = c :: cs ∧ c ∉ close :: gapMarks)
    (rest : List Char) :
    (itemsTo item close).run (as.flatMap (fun a => spelling a ++ [',']) ++ close :: rest) =
      some (as, rest) := by
  have hlength : as.length ≤ (as.flatMap fun a => spelling a ++ [',']).length :=
    length_le_length_flatMap ',' as
  simp only [itemsTo, StateT.run_bind, StateT.run_get, pure_bind]
  refine run_items hclose hitem hfirst ?_ rest
  rw [List.length_append, List.length_cons]
  omega

end

end EdmMapping.Toml.Reader
