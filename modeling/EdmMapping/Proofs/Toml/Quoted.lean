import EdmMapping.Toml.Quoted

/-!
# Quoted texts

What can stand between quotes, and which text it is.

* `literalBody?_eq_some_iff` — a literal string is taken as it stands;
* `IsEscape`, `BasicBody`, `basicBody?_eq_some_iff` — a basic string is taken character by
  character, where an escape stands for one;
* `escapeChar`, `quote` — the spelling of a text as a basic string, for every text;
* `literalLines?_append`, `basicLines?_append` — texts over several lines, up to three quotes;
* `Reader.quoted_quote`, `Reader.quotedLines_quote` — the spelling is read back, whatever follows.
-/

set_option autoImplicit false

namespace EdmMapping.Toml

variable {cs text rest : List Char}

theorem ne_of_isTextChar {c mark : Char} (h : isTextChar c = true)
    (hmark : isTextChar mark = false) : c ≠ mark := by
  rintro rfl
  rw [h] at hmark
  cases hmark

/-! ## Literal strings -/

/-- **A literal string is the text up to the next quote**, which holds no control character. -/
theorem literalBody?_eq_some_iff :
    literalBody? cs = some (text, rest) ↔
      cs = text ++ '\'' :: rest ∧ ∀ c ∈ text, c ≠ '\'' ∧ isTextChar c = true := by
  constructor
  · intro h
    fun_induction literalBody? cs generalizing text with
    | case1 => cases h
    | case2 cs =>
      cases h
      exact ⟨rfl, nofun⟩
    | case3 c cs hquote hc ih =>
      obtain ⟨⟨body, rest'⟩, hbody, heq⟩ := Option.map_eq_some_iff.1 h
      cases heq
      obtain ⟨rfl, hforall⟩ := ih hbody
      exact ⟨rfl, List.forall_mem_cons.2 ⟨⟨hquote, hc⟩, hforall⟩⟩
    | case4 => cases h
  · rintro ⟨rfl, htext⟩
    induction text with
    | nil => rfl
    | cons c text ih =>
      obtain ⟨⟨hquote, hc⟩, htext⟩ := List.forall_mem_cons.1 htext
      rw [List.cons_append, literalBody?, if_pos hc, ih htext]
      · rfl
      · exact hquote

/-! ## Escapes -/

theorem hexEscape?_eq_some {count n : Nat} {c : Char} (h : hexEscape? count cs = some (c, n)) :
    n = count + 1 ∧ count ≤ cs.length ∧
      ∀ ds : List Char, ds.take count = cs.take count → hexEscape? count ds = some (c, n) := by
  refine ⟨?_, ?_, fun ds hds => by rw [← h, hexEscape?, hexEscape?, hds]⟩
  all_goals
    dsimp only [hexEscape?] at h
    split at h
    · rename_i hcode
      cases h
      simp only [Bool.and_eq_true, decide_eq_true_eq, List.length_take] at hcode
      omega
    · cases h

/-- An escape is known from the characters that it takes, and they are there. -/
theorem escape?_eq_some {n : Nat} {c : Char} (h : escape? cs = some (c, n)) :
    n ≤ cs.length ∧ ∀ ds : List Char, ds.take n = cs.take n → escape? ds = some (c, n) := by
  have hletter : ∀ {d : Char} {cs ds : List Char} {m : Nat},
      ds.take (m + 1) = (d :: cs).take (m + 1) → ∃ es, ds = d :: es ∧ es.take m = cs.take m := by
    intro d cs ds m hds
    cases ds with
    | nil => cases hds
    | cons e es =>
      obtain ⟨rfl, hes⟩ := List.cons.inj hds
      exact ⟨es, rfl, hes⟩
  unfold escape? at h
  split at h
  case h_9 | h_10 | h_11 =>
    obtain ⟨rfl, hlength, hsame⟩ := hexEscape?_eq_some h
    refine ⟨Nat.succ_le_succ hlength, fun ds hds => ?_⟩
    obtain ⟨es, rfl, hes⟩ := hletter hds
    exact hsame es hes
  case h_12 => cases h
  all_goals
    cases h
    refine ⟨Nat.succ_le_succ (Nat.zero_le _), fun ds hds => ?_⟩
    obtain ⟨es, rfl, -⟩ := hletter hds
    rfl

/-- What stands behind a backslash, and the character that it stands for. -/
def IsEscape (code : List Char) (c : Char) : Prop := escape? code = some (c, code.length)

instance (code : List Char) (c : Char) : Decidable (IsEscape code c) :=
  inferInstanceAs (Decidable (_ = _))

theorem IsEscape.escape?_append {code : List Char} {c : Char} (h : IsEscape code c)
    (rest : List Char) : escape? (code ++ rest) = some (c, code.length) := by
  refine (escape?_eq_some h).2 _ ?_
  rw [List.take_left', List.take_length]
  rfl

theorem isEscape_take {n : Nat} {c : Char} (h : escape? cs = some (c, n)) :
    IsEscape (cs.take n) c := by
  obtain ⟨hlength, hsame⟩ := escape?_eq_some h
  have hn : (cs.take n).length = n := List.length_take_of_le hlength
  unfold IsEscape
  rw [hn]
  exact hsame _ (List.take_take.trans (by rw [Nat.min_self]))

/-! ## Basic strings -/

/-- The characters of a basic string between its quotes, and the text that they are. -/
inductive BasicBody : List Char → List Char → Prop
  | nil : BasicBody [] []
  | char {c : Char} {body text : List Char} (hquote : c ≠ '"') (hescape : c ≠ '\\')
      (hc : isTextChar c = true) (h : BasicBody body text) : BasicBody (c :: body) (c :: text)
  | escape {code : List Char} {c : Char} {body text : List Char} (hcode : IsEscape code c)
      (h : BasicBody body text) : BasicBody ('\\' :: (code ++ body)) (c :: text)

theorem basicBody?_cons {c : Char} (hquote : c ≠ '"') (hescape : c ≠ '\\')
    (hc : isTextChar c = true) :
    basicBody? (c :: cs) = (basicBody? cs).map (·.prepend [c]) := by
  rw [basicBody?, if_pos hc]
  · exact hquote
  · exact hescape

theorem basicBody?_escape {code : List Char} {c : Char} (hcode : IsEscape code c) :
    basicBody? ('\\' :: (code ++ cs)) = (basicBody? cs).map (·.prepend [c]) := by
  rw [basicBody?, hcode.escape?_append]
  dsimp only
  rw [List.drop_left]

/-- **A basic string is the text of the characters up to the next quote without a backslash.** -/
theorem basicBody?_eq_some_iff :
    basicBody? cs = some (text, rest) ↔ ∃ body, BasicBody body text ∧ cs = body ++ '"' :: rest := by
  constructor
  · intro h
    fun_induction basicBody? cs generalizing text with
    | case1 => cases h
    | case2 cs =>
      cases h
      exact ⟨[], .nil, rfl⟩
    | case3 cs c n hescape ih =>
      obtain ⟨⟨text', rest'⟩, hread, heq⟩ := Option.map_eq_some_iff.1 h
      cases heq
      obtain ⟨body, hbody, hcs⟩ := ih hread
      refine ⟨'\\' :: (cs.take n ++ body), .escape (isEscape_take hescape) hbody, ?_⟩
      rw [List.cons_append, List.append_assoc, ← hcs, List.take_append_drop]
    | case4 => cases h
    | case5 c cs hquote hescape hc ih =>
      obtain ⟨⟨text', rest'⟩, hread, heq⟩ := Option.map_eq_some_iff.1 h
      cases heq
      obtain ⟨body, hbody, rfl⟩ := ih hread
      exact ⟨c :: body, .char hquote hescape hc hbody, rfl⟩
    | case6 => cases h
  · rintro ⟨body, hbody, rfl⟩
    induction hbody with
    | nil => rw [List.nil_append, basicBody?]
    | char hquote hescape hc _ ih =>
      rw [List.cons_append, basicBody?_cons hquote hescape hc, ih]
      rfl
    | escape hcode _ ih =>
      rw [List.cons_append, List.append_assoc, basicBody?_escape hcode, ih]
      rfl

/-! ## Every text has a spelling -/

/-- A character between the quotes of a basic string. -/
def escapeChar (c : Char) : List Char :=
  if c = '"' ∨ c = '\\' then ['\\', c]
  else if isTextChar c then [c]
  else ['\\', 'x', Nat.digitChar (c.toNat / 16), Nat.digitChar (c.toNat % 16)]

theorem isEscape_hex : ∀ n < 128,
    IsEscape ['x', Nat.digitChar (n / 16), Nat.digitChar (n % 16)] (Char.ofNat n) := by
  decide +kernel

theorem toNat_lt_of_not_isTextChar {c : Char} (h : isTextChar c ≠ true) : c.toNat < 128 := by
  refine Nat.lt_of_not_le fun hlarge => h ?_
  have h32 : 32 ≤ c.toNat := by omega
  have h127 : c.toNat ≠ 127 := by omega
  simp [isTextChar, h32, h127]

/-- The spelling of a character is a part of a basic string. -/
theorem BasicBody.escapeChar_append {body : List Char} (h : BasicBody body text) (c : Char) :
    BasicBody (escapeChar c ++ body) (c :: text) := by
  unfold escapeChar
  split
  · rename_i hc
    have hcode : IsEscape [c] c := by rcases hc with rfl | rfl <;> decide
    exact .escape hcode h
  · rename_i hc
    obtain ⟨hquote, hescape⟩ := not_or.1 hc
    split
    · rename_i htext
      exact .char hquote hescape htext h
    · rename_i htext
      have hcode := isEscape_hex c.toNat (toNat_lt_of_not_isTextChar htext)
      rw [Char.ofNat_toNat] at hcode
      exact .escape hcode h

theorem basicBody_flatMap (text : List Char) : BasicBody (text.flatMap escapeChar) text := by
  induction text with
  | nil => exact .nil
  | cons c text ih => exact ih.escapeChar_append c

/-- A text as a basic string. -/
def quote (text : String) : List Char := '"' :: (text.toList.flatMap escapeChar ++ ['"'])

theorem quote_append (text : String) (rest : List Char) :
    quote text ++ rest = '"' :: (text.toList.flatMap escapeChar ++ '"' :: rest) := by
  rw [quote, List.cons_append, List.append_assoc, List.singleton_append]

/-- No quote stands behind the opening one, unless the text is empty. -/
theorem exists_flatMap_escapeChar_eq (c : Char) (text : List Char) :
    ∃ d ds, (c :: text).flatMap escapeChar = d :: ds ∧ d ≠ '"' := by
  rw [List.flatMap_cons]
  unfold escapeChar
  split
  · exact ⟨'\\', _, rfl, by decide⟩
  · rename_i hc
    split
    · exact ⟨c, _, rfl, (not_or.1 hc).1⟩
    · exact ⟨'\\', _, rfl, by decide⟩

/-! ## Texts over several lines -/

theorem closingQuotes_of_head?_ne {quote : Char} (h : rest.head? ≠ some quote) :
    closingQuotes quote rest = ([], rest) := by
  match rest, h with
  | [], _ => rfl
  | [c], h =>
    have hc : c ≠ quote := by simpa using h
    rw [closingQuotes, if_neg hc]
  | c :: d :: rest, h =>
    have hc : c ≠ quote := by simpa using h
    rw [closingQuotes, if_neg hc]

/-- Lines without quotes are taken as they stand, up to three quotes. -/
theorem literalLines?_append (h : ∀ c ∈ text, c ≠ '\'' ∧ (c = '\n' ∨ isTextChar c = true))
    (hrest : rest.head? ≠ some '\'') :
    literalLines? (text ++ '\'' :: '\'' :: '\'' :: rest) = some (text, rest) := by
  induction text with
  | nil => rw [List.nil_append, literalLines?, closingQuotes_of_head?_ne hrest]
  | cons c text ih =>
    obtain ⟨⟨hquote, hc⟩, htext⟩ := List.forall_mem_cons.1 h
    rw [List.cons_append]
    rcases hc with rfl | hc
    · rw [literalLines?, ih htext]
      rfl
    · rw [literalLines?, if_pos hc, ih htext]
      · rfl
      · exact fun _ heq => absurd heq hquote
      · exact fun _ heq => absurd heq (ne_of_isTextChar hc rfl)
      · exact ne_of_isTextChar hc rfl

/-- An escape does not end its line. -/
theorem IsEscape.breaksLine_eq_false {code : List Char} {c : Char} (h : IsEscape code c)
    (rest : List Char) : breaksLine (code ++ rest) = false := by
  unfold IsEscape escape? at h
  split at h
  case h_12 => cases h
  all_goals rfl

/-- What stands between the quotes of a basic string may as well stand between three of them. -/
theorem basicLines?_append {body : List Char} (h : BasicBody body text)
    (hrest : rest.head? ≠ some '"') :
    basicLines? (body ++ '"' :: '"' :: '"' :: rest) = some (text, rest) := by
  induction h with
  | nil => rw [List.nil_append, basicLines?, closingQuotes_of_head?_ne hrest]
  | char hquote hescape hc _ ih =>
    rw [List.cons_append, basicLines?, if_pos hc, ih]
    · rfl
    · exact fun _ heq => absurd heq hquote
    · exact hescape
    · exact fun _ heq => absurd heq (ne_of_isTextChar hc rfl)
    · exact ne_of_isTextChar hc rfl
  | escape hcode _ ih =>
    rw [List.cons_append, List.append_assoc, basicLines?, hcode.breaksLine_eq_false,
      hcode.escape?_append]
    simp only [List.drop_left, ih]
    rfl

namespace Reader

/-- **Every text is read back from its spelling as a basic string**, whatever follows it. -/
theorem quoted_quote (text : String) (rest : List Char) :
    quoted.run (quote text ++ rest) = some (text, rest) := by
  have hbody : basicBody? (text.toList.flatMap escapeChar ++ '"' :: rest) =
      some (text.toList, rest) := basicBody?_eq_some_iff.2 ⟨_, basicBody_flatMap text.toList, rfl⟩
  rw [quote_append]
  simp [quoted, hbody, ofQuoted]

theorem quotedLines_cons (h : ∀ after, cs ≠ '"' :: '"' :: after) :
    quotedLines.run ('"' :: cs) = quoted.run ('"' :: cs) := by
  simp only [quotedLines, StateT.run_bind, StateT.run_get, pure_bind]
  split
  · rename_i heq
    exact absurd (List.cons.inj heq).2 (h _)
  · rename_i heq
    cases heq
  · rfl

/-- On one line, the spelling is not taken for that of a text over several lines. -/
theorem quotedLines_quote (text : String) {rest : List Char} (h : rest.head? ≠ some '"') :
    quotedLines.run (quote text ++ rest) = some (text, rest) := by
  have hread := quoted_quote text rest
  rw [quote_append] at hread ⊢
  -- a third quote would be that of the rest, or of the text
  have hnone : ∀ after, text.toList.flatMap escapeChar ++ '"' :: rest ≠ '"' :: '"' :: after := by
    intro after heq
    cases htext : text.toList with
    | nil =>
      rw [htext] at heq
      obtain ⟨-, hrest⟩ := List.cons.inj heq
      rw [hrest] at h
      exact h rfl
    | cons c cs =>
      obtain ⟨d, ds, hspelling, hd⟩ := exists_flatMap_escapeChar_eq c cs
      rw [htext, hspelling] at heq
      exact hd (List.cons.inj heq).1
  rw [quotedLines_cons hnone, hread]

end Reader

end EdmMapping.Toml
