import EdmMapping.Proofs.Toml.DateTime
import EdmMapping.Toml.Number

/-!
# Numbers and other words are read from their spelling

* `IsGrouped`, `groupedDigits?_eq_some_iff` — digits with underscores between them, and what is left
  when these are dropped;
* `integer?_repr`, `exponent?_repr` — integers are read from their decimal spelling;
* `FloatValue.spelling`, `float?_decimal` — and numbers with an exponent from theirs;
* `scalar?_integer`, …, `scalar?_dateTime` — no word of one kind is taken for one of another.
-/

set_option autoImplicit false

namespace EdmMapping.Toml

/-! ## Groups of digits -/

/-- Digits, of which two may have an underscore between them. -/
inductive IsGrouped (isDigit : Char → Bool) : List Char → Prop
  | last {c : Char} (hc : isDigit c = true) : IsGrouped isDigit [c]
  | digit {c : Char} {cs : List Char} (hc : isDigit c = true) (hcs : IsGrouped isDigit cs) :
      IsGrouped isDigit (c :: cs)
  | underscore {c : Char} {cs : List Char} (hc : isDigit c = true) (hcs : IsGrouped isDigit cs) :
      IsGrouped isDigit (c :: '_' :: cs)

section

variable {isDigit : Char → Bool} {cs ds : List Char}

theorem IsGrouped.mem (h : IsGrouped isDigit cs) :
    ∀ c ∈ cs, isDigit c = true ∨ c = '_' := by
  induction h with
  | last hc => simpa using .inl hc
  | digit hc _ ih => exact List.forall_mem_cons.2 ⟨.inl hc, ih⟩
  | underscore hc _ ih =>
    exact List.forall_mem_cons.2 ⟨.inl hc, List.forall_mem_cons.2 ⟨.inr rfl, ih⟩⟩

theorem IsGrouped.of_forall (hne : cs ≠ []) (h : ∀ c ∈ cs, isDigit c = true) :
    IsGrouped isDigit cs := by
  induction cs with
  | nil => exact absurd rfl hne
  | cons c cs ih =>
    obtain ⟨hc, hcs⟩ := List.forall_mem_cons.1 h
    cases cs with
    | nil => exact .last hc
    | cons d cs => exact .digit hc (ih (List.cons_ne_nil d cs) hcs)

theorem IsGrouped.ne_nil (h : IsGrouped isDigit cs) : cs ≠ [] := by
  cases h <;> exact List.cons_ne_nil _ _

/-- No group starts with an underscore. -/
theorem IsGrouped.isDigit_head {c : Char} (h : IsGrouped isDigit (c :: cs)) : isDigit c = true := by
  cases h <;> assumption

/-- **Grouped digits are read without their underscores**, and nothing else is. -/
theorem groupedDigits?_eq_some_iff (hunderscore : isDigit '_' = false) :
    groupedDigits? isDigit cs = some ds ↔
      IsGrouped isDigit cs ∧ ds = cs.filter (· ≠ '_') := by
  have hne : ∀ {c}, isDigit c = true → c ≠ '_' := by
    rintro c hc rfl
    rw [hunderscore] at hc
    cases hc
  constructor
  · intro h
    fun_induction groupedDigits? isDigit cs generalizing ds with
    | case1 => cases h
    | case2 c hc =>
      cases h
      exact ⟨.last hc, by simp [hne hc]⟩
    | case3 => cases h
    | case4 c rest hc ih =>
      obtain ⟨digits, hdigits, rfl⟩ := Option.map_eq_some_iff.1 h
      obtain ⟨hgrouped, rfl⟩ := ih hdigits
      exact ⟨.underscore hc hgrouped, by simp [hne hc]⟩
    | case5 => cases h
    | case6 c rest hrest hnot hc ih =>
      obtain ⟨digits, hdigits, rfl⟩ := Option.map_eq_some_iff.1 h
      obtain ⟨hgrouped, rfl⟩ := ih hdigits
      exact ⟨.digit hc hgrouped, by simp [hne hc]⟩
    | case7 => cases h
  · rintro ⟨h, rfl⟩
    induction h with
    | @last c hc => simp [groupedDigits?, hc, hne hc]
    | @digit c cs hc hcs ih =>
      cases cs with
      | nil => exact absurd rfl hcs.ne_nil
      | cons d cs =>
        have hd := hne hcs.isDigit_head
        rw [groupedDigits?, if_pos hc, ih]
        · simp [hne hc]
        · exact List.cons_ne_nil d cs
        · exact fun rest heq => hd (List.cons.inj heq).1
    | @underscore c cs hc hcs ih =>
      rw [groupedDigits?, if_pos hc, ih]
      simp [hne hc]

/-- Digits without underscores are read as they are. -/
theorem groupedDigits?_of_forall (hunderscore : isDigit '_' = false) (hne : cs ≠ [])
    (h : ∀ c ∈ cs, isDigit c = true) : groupedDigits? isDigit cs = some cs := by
  refine (groupedDigits?_eq_some_iff hunderscore).2 ⟨.of_forall hne h, ?_⟩
  refine (List.filter_eq_self.2 fun c hc => ?_).symm
  have hc : c ≠ '_' := by
    rintro rfl
    rw [h _ hc] at hunderscore
    cases hunderscore
  simpa using hc

theorem groupedDigits?_eq_none (hunderscore : isDigit '_' = false) {c : Char} (hmem : c ∈ cs)
    (hdigit : isDigit c = false) (hc : c ≠ '_') : groupedDigits? isDigit cs = none := by
  refine Option.eq_none_iff_forall_ne_some.2 fun ds hds => ?_
  rcases ((groupedDigits?_eq_some_iff hunderscore).1 hds).1.mem c hmem with h | h
  · rw [hdigit] at h
    cases h
  · exact hc h

end

/-! ## Decimal digits -/

theorem ofDigits_eq_ofDigitChars {cs : List Char} (h : ∀ c ∈ cs, c.isDigit = true) :
    ofDigits 10 cs = Nat.ofDigitChars 10 cs 0 := by
  rw [Nat.ofDigitChars_eq_foldl, ofDigits]
  refine List.foldl_ext _ _ 0 fun n c hc => ?_
  rw [digitValue, if_pos (h c hc)]

theorem isDigit_of_mem_toDigits {n : Nat} : ∀ c ∈ Nat.toDigits 10 n, c.isDigit = true :=
  fun _ hc => Nat.isDigit_of_mem_toDigits (by decide) (by decide) hc

theorem ofDigits_toDigits (n : Nat) : ofDigits 10 (Nat.toDigits 10 n) = n := by
  rw [ofDigits_eq_ofDigitChars isDigit_of_mem_toDigits, Nat.ofDigitChars_ten_toDigits]

/-- A number with several digits does not start with a zero: it would be too small. -/
theorem toDigits_ne_zero_cons {n : Nat} {c : Char} {cs : List Char} :
    Nat.toDigits 10 n ≠ '0' :: c :: cs := by
  intro h
  have hdigits : ∀ c ∈ Nat.toDigits 10 n, c.isDigit = true := isDigit_of_mem_toDigits
  have hvalue : Nat.ofDigitChars 10 (Nat.toDigits 10 n) 0 = n := Nat.ofDigitChars_ten_toDigits
  rw [h] at hdigits hvalue
  have hlt := ofDigitChars_lt (List.forall_mem_cons.1 hdigits).2
  have hzero : Nat.ofDigitChars 10 ('0' :: c :: cs) 0 = Nat.ofDigitChars 10 (c :: cs) 0 :=
    Nat.ofDigitChars_cons
  rw [← hzero, hvalue] at hlt
  have hlength := (Nat.length_toDigits_le_iff (by decide) (Nat.succ_pos cs.length)).2 hlt
  rw [h, List.length_cons, List.length_cons] at hlength
  omega

theorem wholeDigits?_toDigits (n : Nat) :
    wholeDigits? (Nat.toDigits 10 n) = some (Nat.toDigits 10 n) := by
  unfold wholeDigits?
  rw [groupedDigits?_of_forall rfl Nat.toDigits_ne_nil isDigit_of_mem_toDigits]
  split
  · rename_i c cs heq
    exact absurd (Option.some.inj heq) toDigits_ne_zero_cons
  · rfl

theorem wholeDigits?_eq_none {cs : List Char} {c : Char} (hmem : c ∈ cs)
    (hdigit : c.isDigit = false) (hc : c ≠ '_') : wholeDigits? cs = none := by
  unfold wholeDigits?
  rw [groupedDigits?_eq_none rfl hmem hdigit hc]

/-! ## Signs -/

/-- What starts with a digit has no sign. -/
theorem splitSign_of_isDigit {c : Char} {cs : List Char} (h : c.isDigit = true) :
    splitSign (c :: cs) = (false, c :: cs) := by
  unfold splitSign
  split
  · rename_i heq
    obtain ⟨rfl, -⟩ := List.cons.inj heq
    exact absurd h (by decide)
  · rename_i heq
    obtain ⟨rfl, -⟩ := List.cons.inj heq
    exact absurd h (by decide)
  · rfl

theorem mem_of_mem_splitSign {c : Char} {cs : List Char} (h : c ∈ (splitSign cs).2) : c ∈ cs := by
  unfold splitSign at h
  split at h
  · exact List.mem_cons_of_mem _ h
  · exact List.mem_cons_of_mem _ h
  · exact h

theorem splitSign_toDigits (n : Nat) (rest : List Char) :
    splitSign (Nat.toDigits 10 n ++ rest) = (false, Nat.toDigits 10 n ++ rest) := by
  have hdigits : ∀ c ∈ Nat.toDigits 10 n, c.isDigit = true := isDigit_of_mem_toDigits
  cases hcs : Nat.toDigits 10 n with
  | nil => exact absurd hcs Nat.toDigits_ne_nil
  | cons c cs =>
    rw [hcs] at hdigits
    exact splitSign_of_isDigit (hdigits c (by simp))

/-- The sign of a number, before its digits. -/
def signSpelling (negative : Bool) : List Char := if negative then ['-'] else []

theorem splitSign_signSpelling (negative : Bool) (n : Nat) (rest : List Char) :
    splitSign (signSpelling negative ++ (Nat.toDigits 10 n ++ rest)) =
      (negative, Nat.toDigits 10 n ++ rest) := by
  cases negative with
  | true => rfl
  | false => exact splitSign_toDigits n rest

theorem toList_repr (n : Int) :
    n.repr.toList = signSpelling (n < 0) ++ Nat.toDigits 10 n.natAbs := by
  rw [Int.repr_eq_if]
  by_cases h : 0 ≤ n
  · have hsign : ¬ n < 0 := by omega
    have habs : n.toNat = n.natAbs := by omega
    rw [if_pos h, habs, Nat.repr_eq_ofList_toDigits, String.toList_ofList]
    simp [signSpelling, hsign]
  · have hsign : n < 0 := by omega
    have habs : (-n).toNat = n.natAbs := by omega
    rw [if_neg h, habs, Nat.repr_eq_ofList_toDigits, String.toList_append, String.toList_ofList]
    simp [signSpelling, hsign]

theorem splitSign_repr (n : Int) :
    splitSign n.repr.toList = (decide (n < 0), Nat.toDigits 10 n.natAbs) := by
  have hsplit := splitSign_signSpelling (n < 0) n.natAbs []
  rwa [List.append_nil, ← toList_repr] at hsplit

/-- The digits after a sign make up the number. -/
theorem negate_natAbs (n : Int) :
    (if decide (n < 0) = true then -(n.natAbs : Int) else n.natAbs) = n := by
  by_cases h : n < 0
  · rw [if_pos (by simpa using h)]
    omega
  · rw [if_neg (by simpa using h)]
    omega

/-! ## Words -/

/-- The characters beside digits in the spelling of a number, a date or a time. -/
def wordMarks : List Char := 'e' :: DateTime.marks

/-- Made of digits and marks, as numbers, dates and times are. -/
def IsPlainWord (cs : List Char) : Prop := ∀ c ∈ cs, c.isDigit = true ∨ c ∈ wordMarks

theorem IsPlainWord.notMem {cs : List Char} (h : IsPlainWord cs) (others : List Char)
    (hothers : others.all (fun o => !o.isDigit && !wordMarks.contains o) = true) {c : Char}
    (hc : c ∈ cs) : c ∉ others := by
  intro hmem
  have hother := List.all_eq_true.1 hothers c hmem
  simp only [Bool.and_eq_true, Bool.not_eq_true', List.contains_eq_mem, decide_eq_false_iff_not]
    at hother
  rcases h c hc with h | h
  · rw [hother.1] at h
    cases h
  · exact hother.2 h

theorem isPlainWord_toDigits (n : Nat) : IsPlainWord (Nat.toDigits 10 n) :=
  fun c hc => .inl (isDigit_of_mem_toDigits c hc)

theorem IsPlainWord.append {cs ds : List Char} (hcs : IsPlainWord cs) (hds : IsPlainWord ds) :
    IsPlainWord (cs ++ ds) :=
  fun c hc => (List.mem_append.1 hc).elim (hcs c) (hds c)

theorem isPlainWord_signSpelling (negative : Bool) : IsPlainWord (signSpelling negative) := by
  cases negative with
  | true => exact List.forall_mem_singleton.2 (.inr (by decide))
  | false => exact fun c hc => nomatch hc

theorem isPlainWord_repr (n : Int) : IsPlainWord n.repr.toList := by
  rw [toList_repr]
  exact (isPlainWord_signSpelling _).append (isPlainWord_toDigits _)

theorem isPlainWord_text (d : DateTime) : IsPlainWord d.text.toList :=
  fun _ hc => (DateTime.mem_text hc).imp_right (List.mem_cons_of_mem _)

/-! ## Integers -/

/-- A word without the letters that mark a base is an integer if it is a decimal one. -/
theorem integer?_eq {cs : List Char} (h : ∀ c ∈ cs, c ∉ ['x', 'o', 'b']) :
    integer? cs = (wholeDigits? (splitSign cs).2).map fun digits =>
      if (splitSign cs).1 then -(ofDigits 10 digits : Int) else ofDigits 10 digits := by
  unfold integer?
  split
  · exact absurd (h 'x' (by simp)) (by decide)
  · exact absurd (h 'o' (by simp)) (by decide)
  · exact absurd (h 'b' (by simp)) (by decide)
  · rw [Option.map_eq_bind]
    rfl

theorem integer?_eq_of_isPlainWord {cs : List Char} (h : IsPlainWord cs) :
    integer? cs = (wholeDigits? (splitSign cs).2).map fun digits =>
      if (splitSign cs).1 then -(ofDigits 10 digits : Int) else ofDigits 10 digits :=
  integer?_eq fun _ hc => h.notMem _ (by decide) hc

/-- **Integers are read from their decimal spelling.** -/
theorem integer?_repr (n : Int) : integer? n.repr.toList = some n := by
  rw [integer?_eq_of_isPlainWord (isPlainWord_repr n), splitSign_repr,
    wholeDigits?_toDigits, Option.map_some, ofDigits_toDigits]
  exact congrArg some (negate_natAbs n)

theorem exponent?_repr (n : Int) : exponent? n.repr.toList = some n := by
  unfold exponent?
  rw [splitSign_repr]
  simp only [groupedDigits?_of_forall rfl Nat.toDigits_ne_nil isDigit_of_mem_toDigits]
  refine congrArg some ?_
  rw [ofDigits_toDigits]
  exact negate_natAbs n

/-- A word without underscores is no integer that lacks digits, unless it is only a mark. -/
theorem isMalformedInteger_eq_false {cs : List Char} (h : IsPlainWord cs) :
    isMalformedInteger cs = false := by
  have hunderscore : '_' ∉ (splitSign cs).2 := by
    intro hmem
    exact h.notMem ['_'] (by decide) (mem_of_mem_splitSign hmem) (by simp)
  have hmarks : ∀ c ∈ cs, c ∉ ['x', 'o', 'b'] := fun _ hc => h.notMem _ (by decide) hc
  unfold isMalformedInteger
  split
  · exact absurd (hmarks 'x' (by simp)) (by decide)
  · exact absurd (hmarks 'o' (by simp)) (by decide)
  · exact absurd (hmarks 'b' (by simp)) (by decide)
  · have hhead : ((splitSign cs).2.dropWhile Char.isDigit).head? ≠ some '_' := by
      intro hhead
      exact hunderscore ((List.dropWhile_sublist _).subset (List.mem_of_mem_head? hhead))
    simp [hhead]

/-! ## Scalars -/

/-- A plain word is a number, a date or a time. -/
theorem scalar?_eq {cs : List Char} (h : IsPlainWord cs) :
    scalar? cs = ((integer? cs).map .integer <|> (float? cs).map .float
      <|> (DateTime.ofChars? cs).map .dateTime) := by
  have htrue : cs ≠ ['t', 'r', 'u', 'e'] := by
    rintro rfl
    exact absurd (h 't' (by simp)) (by decide)
  have hfalse : cs ≠ ['f', 'a', 'l', 's', 'e'] := by
    rintro rfl
    exact absurd (h 'f' (by simp)) (by decide)
  unfold scalar?
  rw [if_neg htrue, if_neg hfalse, isMalformedInteger_eq_false h]
  cases integer? cs <;> rfl

/-- A plain word with a mark behind its sign is no integer. -/
theorem integer?_eq_none {cs : List Char} (h : IsPlainWord cs) (mark : Char)
    (hmem : mark ∈ (splitSign cs).2) (hmark : mark.isDigit = false) : integer? cs = none := by
  have hunderscore : mark ≠ '_' := by
    rintro rfl
    exact h.notMem ['_'] (by decide) (mem_of_mem_splitSign hmem) (by simp)
  rw [integer?_eq_of_isPlainWord h, wholeDigits?_eq_none hmem hmark hunderscore, Option.map_none]

theorem scalar?_boolean (b : Bool) : scalar? (toString b).toList = some (.boolean b) := by
  cases b <;> rfl

theorem scalar?_integer (n : Int) : scalar? n.repr.toList = some (.integer n) := by
  rw [scalar?_eq (isPlainWord_repr n), integer?_repr]
  rfl

/-- The digits and the exponent of a number, or one of the words that stand for the others. -/
def FloatValue.spelling : FloatValue → List Char
  | decimal negative mantissa exponent =>
    signSpelling negative ++ (Nat.toDigits 10 mantissa ++ 'e' :: exponent.repr.toList)
  | infinity negative => signSpelling negative ++ ['i', 'n', 'f']
  | notANumber => ['n', 'a', 'n']

theorem isPlainWord_decimal (negative : Bool) (mantissa : Nat) (exponent : Int) :
    IsPlainWord (FloatValue.decimal negative mantissa exponent).spelling := by
  have hexponent : IsPlainWord ('e' :: exponent.repr.toList) :=
    List.forall_mem_cons.2 ⟨.inr (by decide), isPlainWord_repr exponent⟩
  exact (isPlainWord_signSpelling _).append ((isPlainWord_toDigits _).append hexponent)

theorem not_startsExponent_of_isDigit {c : Char} (h : c.isDigit = true) :
    (!startsExponent c) = true := by
  simp [startsExponent, ne_of_isDigit h (show 'e'.isDigit = false from rfl),
    ne_of_isDigit h (show 'E'.isDigit = false from rfl)]

theorem ne_point_of_isDigit {c : Char} (h : c.isDigit = true) : decide (c ≠ '.') = true :=
  decide_eq_true (ne_of_isDigit h rfl)

/-- What starts with a digit is none of the words without digits. -/
theorem ne_of_isDigit_head {c d : Char} {cs ds : List Char} (hc : c.isDigit = true)
    (hd : d.isDigit = false) : c :: cs ≠ d :: ds :=
  fun h => ne_of_isDigit hc hd (List.cons.inj h).1

/-- A number with an exponent is read from its digits and those of the exponent. -/
theorem float?_decimal (negative : Bool) (mantissa : Nat) (exponent : Int) :
    float? (FloatValue.decimal negative mantissa exponent).spelling =
      some (.decimal negative mantissa exponent) := by
  have hdigits : ∀ c ∈ Nat.toDigits 10 mantissa, c.isDigit = true := isDigit_of_mem_toDigits
  have hsignificand : ∀ c ∈ Nat.toDigits 10 mantissa, (!startsExponent c) = true :=
    fun c hc => not_startsExponent_of_isDigit (hdigits c hc)
  have hpoint : ∀ c ∈ Nat.toDigits 10 mantissa, decide (c ≠ '.') = true :=
    fun c hc => ne_point_of_isDigit (hdigits c hc)
  have hne : Nat.toDigits 10 mantissa ≠ [] := Nat.toDigits_ne_nil
  obtain ⟨c, cs, hcs⟩ := List.exists_cons_of_ne_nil hne
  have hc : c.isDigit = true := hdigits c (by simp [hcs])
  unfold float? FloatValue.spelling
  rw [splitSign_signSpelling]
  dsimp only
  rw [if_neg (by rw [hcs]; exact ne_of_isDigit_head hc rfl),
    if_neg (by rw [hcs]; exact ne_of_isDigit_head hc rfl),
    List.takeWhile_append_of_pos hsignificand, List.dropWhile_append_of_pos hsignificand,
    List.takeWhile_cons_of_neg (by decide), List.dropWhile_cons_of_neg (by decide),
    List.append_nil, List.takeWhile_eq_self_iff.2 hpoint, List.dropWhile_eq_nil_iff.2 hpoint]
  simp [exponent?_repr, wholeDigits?_toDigits, ofDigits_toDigits]

/-- A date or a time starts with a digit, so it has no sign. -/
theorem splitSign_text (d : DateTime) : splitSign d.text.toList = (false, d.text.toList) := by
  obtain ⟨digits, mark, rest, htext, hne, hdigits, -⟩ := d.exists_text_eq
  obtain ⟨c, cs, rfl⟩ := List.exists_cons_of_ne_nil hne
  rw [htext]
  exact splitSign_of_isDigit (hdigits c (by simp))

/-- No date and no time is a number: a mark stands behind its first digits. -/
theorem float?_text_eq_none (d : DateTime) : float? d.text.toList = none := by
  obtain ⟨digits, mark, rest, htext, hne, hdigits, hmark⟩ := d.exists_text_eq
  obtain ⟨c, cs, rfl⟩ := List.exists_cons_of_ne_nil hne
  have hc : c.isDigit = true := hdigits c (by simp)
  have hexponent : ∀ x ∈ d.text.toList, (!startsExponent x) = true := by
    intro x hx
    rcases DateTime.mem_text hx with h | h
    · exact not_startsExponent_of_isDigit h
    · have hmarks : DateTime.marks.all (!startsExponent ·) = true := by decide
      exact List.all_eq_true.1 hmarks x h
  have hmem : mark ∈ d.text.toList.takeWhile (· ≠ '.') := by
    have hpoint : ∀ x ∈ c :: cs, decide (x ≠ '.') = true :=
      fun x hx => ne_point_of_isDigit (hdigits x hx)
    rw [htext, List.takeWhile_append_of_pos hpoint,
      List.takeWhile_cons_of_pos (by rcases hmark with rfl | rfl <;> rfl)]
    simp
  have hnone : wholeDigits? (d.text.toList.takeWhile (· ≠ '.')) = none :=
    wholeDigits?_eq_none hmem (by rcases hmark with rfl | rfl <;> rfl)
      (by rcases hmark with rfl | rfl <;> decide)
  unfold float?
  rw [splitSign_text]
  dsimp only
  rw [if_neg (by rw [htext]; exact ne_of_isDigit_head hc rfl),
    if_neg (by rw [htext]; exact ne_of_isDigit_head hc rfl),
    List.takeWhile_eq_self_iff.2 hexponent, List.dropWhile_eq_nil_iff.2 hexponent, hnone]
  rfl

theorem scalar?_float (f : FloatValue) : scalar? f.spelling = some (.float f) := by
  cases f with
  | decimal negative mantissa exponent =>
    have hplain := isPlainWord_decimal negative mantissa exponent
    have hinteger : integer? (FloatValue.decimal negative mantissa exponent).spelling = none := by
      apply integer?_eq_none hplain 'e'
      · unfold FloatValue.spelling
        rw [splitSign_signSpelling]
        simp
      · rfl
    rw [scalar?_eq hplain, hinteger, float?_decimal]
    rfl
  | infinity negative => cases negative <;> rfl
  | notANumber => rfl

theorem scalar?_dateTime {d : DateTime} (h : d.IsValid) :
    scalar? d.text.toList = some (.dateTime d) := by
  obtain ⟨digits, mark, rest, htext, -, -, hmark⟩ := d.exists_text_eq
  have hinteger : integer? d.text.toList = none := by
    apply integer?_eq_none (isPlainWord_text d) mark
    · rw [splitSign_text, htext]
      simp
    · rcases hmark with rfl | rfl <;> rfl
  rw [scalar?_eq (isPlainWord_text d), hinteger, float?_text_eq_none, DateTime.ofChars?_text h]
  rfl

end EdmMapping.Toml
