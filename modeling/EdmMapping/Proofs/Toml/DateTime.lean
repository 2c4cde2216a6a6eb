import Mathlib.Algebra.Group.Nat.Defs
import Mathlib.Data.List.DropRight
import Mathlib.Data.Option.Basic
import EdmMapping.Toml.DateTime

/-!
# Dates and times are read from their normal spelling

What can be read as a date, a time, or both is one that exists, and every one that exists is read
from its normal spelling.

* `ofDigitChars_lt`, `eq_of_ofDigitChars_eq` — numbers of a fixed number of digits;
* `fixedDigits?_eq_some_iff` — they are read from the padded spelling, and from nothing else;
* `Date.IsValid`, `Time.IsValid`, `Offset.IsValid`, `DateTime.IsValid` — what exists;
* `Date.ofChars?_eq_some_iff` — a date has one spelling;
* `Time.ofChars?_text`, `Offset.ofChars?_text`, `DateTime.ofChars?_text` — normal spellings are
  read;
* `DateTime.isValid_iff` — what exists is exactly what is read from some spelling.
-/

set_option autoImplicit false

namespace EdmMapping.Toml

/-! ## Numbers of fixed width -/

theorem ne_of_isDigit {c mark : Char} (h : c.isDigit = true) (hmark : mark.isDigit = false) :
    c ≠ mark := by
  rintro rfl
  rw [h] at hmark
  cases hmark

theorem toNat_sub_lt_of_isDigit {c : Char} (h : c.isDigit = true) :
    c.toNat - '0'.toNat < 10 := by
  have hle := (Char.isDigit_iff_toNat.1 h).2
  have hzero : '0'.toNat = 48 := rfl
  have hnine : '9'.toNat = 57 := rfl
  omega

/-- Digits write a number below the power of ten for their number. -/
theorem ofDigitChars_lt {cs : List Char} (h : ∀ c ∈ cs, c.isDigit = true) :
    Nat.ofDigitChars 10 cs 0 < 10 ^ cs.length := by
  induction cs with
  | nil => exact Nat.one_pos
  | cons c cs ih =>
    have hc := toNat_sub_lt_of_isDigit (h c (by simp))
    have hcs := ih fun d hd => h d (List.mem_cons_of_mem c hd)
    rw [Nat.ofDigitChars_cons, Nat.ofDigitChars_eq_ofDigitChars_zero, List.length_cons,
      Nat.pow_succ]
    have hle : 10 ^ cs.length * (10 * 0 + (c.toNat - '0'.toNat)) ≤ 10 ^ cs.length * 9 :=
      Nat.mul_le_mul_left _ (by omega)
    omega

/-- Of the texts with a given number of digits, each writes another number. -/
theorem eq_of_ofDigitChars_eq {cs ds : List Char} (hlength : cs.length = ds.length)
    (hcs : ∀ c ∈ cs, c.isDigit = true) (hds : ∀ d ∈ ds, d.isDigit = true)
    (h : Nat.ofDigitChars 10 cs 0 = Nat.ofDigitChars 10 ds 0) : cs = ds := by
  induction cs generalizing ds with
  | nil => exact (List.eq_nil_of_length_eq_zero hlength.symm).symm
  | cons c cs ih =>
    cases ds with
    | nil => cases hlength
    | cons d ds =>
      have hlength' : cs.length = ds.length := Nat.succ.inj hlength
      rw [Nat.ofDigitChars_cons, Nat.ofDigitChars_cons, Nat.ofDigitChars_eq_ofDigitChars_zero,
        Nat.ofDigitChars_eq_ofDigitChars_zero (l := ds), hlength', Nat.mul_zero, Nat.zero_add,
        Nat.zero_add] at h
      have hlow := ofDigitChars_lt fun x hx => hcs x (List.mem_cons_of_mem c hx)
      have hlow' := ofDigitChars_lt fun x hx => hds x (List.mem_cons_of_mem d hx)
      rw [hlength'] at hlow
      -- the first digits are the quotients, the others write the remainders
      obtain ⟨hfirst, hrest⟩ : c.toNat - '0'.toNat = d.toNat - '0'.toNat ∧
          Nat.ofDigitChars 10 cs 0 = Nat.ofDigitChars 10 ds 0 := by
        have hdiv := congrArg (· / 10 ^ ds.length) h
        have hmod := congrArg (· % 10 ^ ds.length) h
        simp only [Nat.mul_add_div (Nat.pow_pos (Nat.succ_pos 9)), Nat.div_eq_of_lt hlow,
          Nat.div_eq_of_lt hlow', Nat.mul_add_mod, Nat.mod_eq_of_lt hlow,
          Nat.mod_eq_of_lt hlow'] at hdiv hmod
        exact ⟨hdiv, hmod⟩
      have hc := Char.isDigit_iff_toNat.1 (hcs c (by simp))
      have hd := Char.isDigit_iff_toNat.1 (hds d (by simp))
      have hchar : c = d := by
        apply Char.toNat_inj.1
        have hzero : '0'.toNat = 48 := rfl
        omega
      rw [hchar, ih hlength' (fun x hx => hcs x (List.mem_cons_of_mem c hx))
        (fun x hx => hds x (List.mem_cons_of_mem d hx)) hrest]

theorem toList_padded (width n : Nat) :
    (padded width n).toList =
      List.replicate (width - (Nat.toDigits 10 n).length) '0' ++ Nat.toDigits 10 n :=
  String.toList_ofList

theorem length_padded {width n : Nat} (hwidth : 0 < width) (h : n < 10 ^ width) :
    (padded width n).toList.length = width := by
  have hle : (Nat.toDigits 10 n).length ≤ width :=
    (Nat.length_toDigits_le_iff (by decide) hwidth).2 h
  rw [toList_padded, List.length_append, List.length_replicate]
  omega

theorem isDigit_of_mem_padded {width n : Nat} :
    ∀ c ∈ (padded width n).toList, c.isDigit = true := by
  intro c hc
  rw [toList_padded, List.mem_append] at hc
  rcases hc with hc | hc
  · rw [List.eq_of_mem_replicate hc]
    rfl
  · exact Nat.isDigit_of_mem_toDigits (by decide) (by decide) hc

theorem ofDigitChars_padded (width n : Nat) :
    Nat.ofDigitChars 10 (padded width n).toList 0 = n := by
  rw [toList_padded, Nat.ofDigitChars_append, Nat.ofDigitChars_replicate_zero, Nat.mul_zero,
    Nat.ofDigitChars_ten_toDigits]

theorem fixedDigits?_eq_some {width : Nat} {cs : List Char} {n : Nat} :
    fixedDigits? width cs = some n ↔
      cs.length = width ∧ (∀ c ∈ cs, c.isDigit = true) ∧ Nat.ofDigitChars 10 cs 0 = n := by
  unfold fixedDigits?
  rw [Nat.ofDigitChars_eq_foldl]
  simp [and_assoc]

/-- A number of fixed width has one spelling. -/
theorem fixedDigits?_eq_some_iff {width : Nat} (hwidth : 0 < width) {cs : List Char} {n : Nat} :
    fixedDigits? width cs = some n ↔ n < 10 ^ width ∧ cs = (padded width n).toList := by
  rw [fixedDigits?_eq_some]
  constructor
  · rintro ⟨hlength, hdigits, rfl⟩
    have hlt := ofDigitChars_lt hdigits
    rw [hlength] at hlt
    refine ⟨hlt, eq_of_ofDigitChars_eq ?_ hdigits isDigit_of_mem_padded ?_⟩
    · rw [hlength, length_padded hwidth hlt]
    · rw [ofDigitChars_padded]
  · rintro ⟨hlt, rfl⟩
    exact ⟨length_padded hwidth hlt, isDigit_of_mem_padded, ofDigitChars_padded width n⟩

theorem fixedDigits?_padded {width n : Nat} (hwidth : 0 < width) (h : n < 10 ^ width) :
    fixedDigits? width (padded width n).toList = some n :=
  (fixedDigits?_eq_some_iff hwidth).2 ⟨h, rfl⟩

/-- Two digits, as they stand in all parts of a date or a time but the year and the fraction. -/
theorem padded_two {n : Nat} (h : n < 100) :
    ∃ a b, (padded 2 n).toList = [a, b] ∧ a.isDigit = true ∧ b.isDigit = true := by
  have hdigits : ∀ c ∈ (padded 2 n).toList, c.isDigit = true := isDigit_of_mem_padded
  obtain ⟨a, b, heq⟩ := List.length_eq_two.1 (length_padded (Nat.succ_pos 1) h)
  rw [heq] at hdigits
  exact ⟨a, b, heq, hdigits a (by simp), hdigits b (by simp)⟩

theorem padded_four {n : Nat} (h : n < 10000) :
    ∃ a b c d, (padded 4 n).toList = [a, b, c, d] := by
  have hlength := length_padded (Nat.succ_pos 3) h
  match hlist : (padded 4 n).toList, hlength with
  | [a, b, c, d], _ => exact ⟨a, b, c, d, rfl⟩

/-! ## Dates -/

namespace Date

variable {d : Date} {cs : List Char}

/-- A day of a calendar whose years have four digits. -/
structure IsValid (d : Date) : Prop where
  year : d.year < 10000
  month : 1 ≤ d.month ∧ d.month ≤ 12
  day : 1 ≤ d.day ∧ d.day ≤ daysInMonth d.year d.month

theorem daysInMonth_le (year month : Nat) : daysInMonth year month ≤ 31 := by
  unfold daysInMonth
  split
  · split <;> omega
  · split <;> omega

theorem toList_text (d : Date) :
    d.text.toList = (padded 4 d.year).toList ++ '-' :: (padded 2 d.month).toList ++
      '-' :: (padded 2 d.day).toList := by
  simp [text]

/-- **A date has one spelling**, and is read from it if there is such a day. -/
theorem ofChars?_eq_some_iff : ofChars? cs = some d ↔ d.IsValid ∧ cs = d.text.toList := by
  constructor
  · intro h
    unfold ofChars? at h
    split at h
    · rename_i y₁ y₂ y₃ y₄ m₁ m₂ d₁ d₂
      obtain ⟨year, hyear, h⟩ := Option.bind_eq_some_iff.1 h
      obtain ⟨month, hmonth, h⟩ := Option.bind_eq_some_iff.1 h
      obtain ⟨day, hday, h⟩ := Option.bind_eq_some_iff.1 h
      obtain ⟨⟨⟩, hmonths, h⟩ := Option.bind_eq_some_iff.1 h
      obtain ⟨⟨⟩, hdays, h⟩ := Option.bind_eq_some_iff.1 h
      cases h
      rw [Option.guard_eq_some'] at hmonths hdays
      rw [fixedDigits?_eq_some_iff (by decide)] at hyear hmonth hday
      refine ⟨⟨hyear.1, hmonths, hdays⟩, ?_⟩
      rw [toList_text, ← hyear.2, ← hmonth.2, ← hday.2]
      rfl
    · cases h
  · rintro ⟨⟨hyear, hmonth, hday⟩, rfl⟩
    have hdays := daysInMonth_le d.year d.month
    have hyears := fixedDigits?_padded (Nat.succ_pos 3) (show d.year < 10 ^ 4 from hyear)
    have hmonths := fixedDigits?_padded (Nat.succ_pos 1) (show d.month < 10 ^ 2 by omega)
    have hdays := fixedDigits?_padded (Nat.succ_pos 1) (show d.day < 10 ^ 2 by omega)
    obtain ⟨y₁, y₂, y₃, y₄, hy⟩ := padded_four hyear
    obtain ⟨m₁, m₂, hm, -⟩ := padded_two (show d.month < 100 by omega)
    obtain ⟨d₁, d₂, hd, -⟩ := padded_two (show d.day < 100 by omega)
    rw [hy] at hyears
    rw [hm] at hmonths
    rw [hd] at hdays
    rw [toList_text, hy, hm, hd]
    simp [ofChars?, hyears, hmonths, hdays, hmonth, hday]

theorem length_text (h : d.IsValid) : d.text.toList.length = 10 := by
  have hdays := daysInMonth_le d.year d.month
  have hmonth := h.month
  have hday := h.day
  rw [toList_text]
  simp only [List.length_append, List.length_cons]
  rw [length_padded (Nat.succ_pos 3) h.year,
    length_padded (Nat.succ_pos 1) (show d.month < 10 ^ 2 by omega),
    length_padded (Nat.succ_pos 1) (show d.day < 10 ^ 2 by omega)]

theorem mem_text {c : Char} (h : c ∈ d.text.toList) : c.isDigit = true ∨ c = '-' := by
  rw [toList_text] at h
  simp only [List.mem_append, List.mem_cons] at h
  rcases h with (h | h | h) | h | h
  · exact .inl (isDigit_of_mem_padded c h)
  · exact .inr h
  · exact .inl (isDigit_of_mem_padded c h)
  · exact .inr h
  · exact .inl (isDigit_of_mem_padded c h)

end Date

/-! ## Times -/

namespace Time

variable {t : Time} {cs : List Char}

/-- A time of the day; a minute may have a second too many. -/
structure IsValid (t : Time) : Prop where
  hour : t.hour ≤ 23
  minute : t.minute ≤ 59
  second : t.second ≤ 60
  nanosecond : t.nanosecond < 10 ^ 9

theorem nanoseconds_eq (digits : List Char) :
    nanoseconds digits = Nat.ofDigitChars 10 ((digits ++ List.replicate 9 '0').take 9) 0 := by
  rw [nanoseconds, Nat.ofDigitChars_eq_foldl]

theorem nanoseconds_lt {digits : List Char} (h : ∀ c ∈ digits, c.isDigit = true) :
    nanoseconds digits < 10 ^ 9 := by
  have hdigits : ∀ c ∈ (digits ++ List.replicate 9 '0').take 9, c.isDigit = true := by
    intro c hc
    rcases List.mem_append.1 (List.mem_of_mem_take hc) with hc | hc
    · exact h c hc
    · rw [List.eq_of_mem_replicate hc]
      rfl
  have hlength : ((digits ++ List.replicate 9 '0').take 9).length = 9 := by
    simp
  have hlt := ofDigitChars_lt hdigits
  rwa [hlength, ← nanoseconds_eq] at hlt

/-- Zeros at the end of nine digits can be left out. -/
theorem nanoseconds_rdropWhile {digits : List Char} (h : digits.length = 9) :
    nanoseconds (digits.rdropWhile (· = '0')) = Nat.ofDigitChars 10 digits 0 := by
  have hsplit : digits.rdropWhile (· = '0') ++ digits.rtakeWhile (· = '0') = digits :=
    List.rdropWhile_append_rtakeWhile
  have hzeros : digits.rtakeWhile (· = '0') =
      List.replicate (9 - (digits.rdropWhile (· = '0')).length) '0' := by
    refine List.eq_replicate_iff.2 ⟨?_, fun c hc => by simpa using List.mem_rtakeWhile_imp hc⟩
    have hlength := congrArg List.length hsplit
    rw [List.length_append, h] at hlength
    omega
  have hle := (List.rdropWhile_prefix (fun c => decide (c = '0')) digits).length_le
  rw [nanoseconds_eq, List.take_append, List.take_of_length_le (by omega), List.take_replicate,
    Nat.min_eq_left (by omega), ← hzeros, hsplit]

theorem fractionText_eq {nanosecond : Nat} (h : nanosecond ≠ 0) :
    (fractionText nanosecond).toList =
      '.' :: (padded 9 nanosecond).toList.rdropWhile (· = '0') := by
  simp [fractionText, h, List.rdropWhile]

theorem toList_text (t : Time) :
    t.text.toList = (padded 2 t.hour).toList ++ ':' :: (padded 2 t.minute).toList ++
      ':' :: (padded 2 t.second).toList ++ (fractionText t.nanosecond).toList := by
  simp [text]

theorem mem_fractionText {nanosecond : Nat} {c : Char} (h : c ∈ (fractionText nanosecond).toList) :
    c.isDigit = true ∨ c = '.' := by
  by_cases hzero : nanosecond = 0
  · simp [fractionText, hzero] at h
  · rw [fractionText_eq hzero] at h
    rcases List.mem_cons.1 h with h | h
    · exact .inr h
    · exact .inl (isDigit_of_mem_padded c ((List.rdropWhile_prefix _ _).subset h))

theorem mem_text {c : Char} (h : c ∈ t.text.toList) : c.isDigit = true ∨ c = ':' ∨ c = '.' := by
  rw [toList_text] at h
  simp only [List.mem_append, List.mem_cons] at h
  rcases h with ((h | h | h) | h | h) | h
  · exact .inl (isDigit_of_mem_padded c h)
  · exact .inr (.inl h)
  · exact .inl (isDigit_of_mem_padded c h)
  · exact .inr (.inl h)
  · exact .inl (isDigit_of_mem_padded c h)
  · exact (mem_fractionText h).imp_right .inr

theorem hourAndMinute?_eq_some {h₁ h₂ m₁ m₂ : Char} {hour minute : Nat} :
    hourAndMinute? h₁ h₂ m₁ m₂ = some (hour, minute) ↔
      fixedDigits? 2 [h₁, h₂] = some hour ∧ fixedDigits? 2 [m₁, m₂] = some minute ∧
        hour ≤ 23 ∧ minute ≤ 59 := by
  unfold hourAndMinute?
  simp only [Option.bind_eq_bind, Option.bind_eq_some_iff, Option.guard_eq_some', Option.pure_def,
    Option.some.injEq, Prod.mk.injEq]
  constructor
  · rintro ⟨hour, hhour, minute, hminute, ⟨⟩, hle, rfl, rfl⟩
    exact ⟨hhour, hminute, hle⟩
  · rintro ⟨hhour, hminute, hle⟩
    exact ⟨hour, hhour, minute, hminute, (), hle, rfl, rfl⟩

theorem isValid_of_secondsOfChars? {second nanosecond : Nat}
    (h : secondsOfChars? cs = some (second, nanosecond)) :
    second ≤ 60 ∧ nanosecond < 10 ^ 9 := by
  unfold secondsOfChars? at h
  split at h
  · cases h
    decide
  · obtain ⟨second, -, h⟩ := Option.bind_eq_some_iff.1 h
    obtain ⟨⟨⟩, hle, h⟩ := Option.bind_eq_some_iff.1 h
    rw [Option.guard_eq_some'] at hle
    split at h
    · cases h
      exact ⟨hle, by decide⟩
    · obtain ⟨⟨⟩, hdigits, h⟩ := Option.bind_eq_some_iff.1 h
      rw [Option.guard_eq_some', List.all_eq_true] at hdigits
      cases h
      exact ⟨hle, nanoseconds_lt hdigits.2⟩
    · cases h
  · cases h

theorem isValid_of_ofChars? (h : ofChars? cs = some t) : t.IsValid := by
  unfold ofChars? at h
  split at h
  · obtain ⟨⟨hour, minute⟩, hhour, h⟩ := Option.bind_eq_some_iff.1 h
    obtain ⟨⟨second, nanosecond⟩, hsecond, h⟩ := Option.bind_eq_some_iff.1 h
    cases h
    obtain ⟨-, -, hhour, hminute⟩ := hourAndMinute?_eq_some.1 hhour
    obtain ⟨hsecond, hnanosecond⟩ := isValid_of_secondsOfChars? hsecond
    exact ⟨hhour, hminute, hsecond, hnanosecond⟩
  · cases h

/-- Seconds with or without a fraction are read from their normal spelling. -/
theorem secondsOfChars?_text {second nanosecond : Nat} (hsecond : second ≤ 60)
    (hnanosecond : nanosecond < 10 ^ 9) :
    secondsOfChars? (':' :: (padded 2 second).toList ++ (fractionText nanosecond).toList) =
      some (second, nanosecond) := by
  have hseconds := fixedDigits?_padded (Nat.succ_pos 1) (show second < 10 ^ 2 by omega)
  obtain ⟨s₁, s₂, hs, -⟩ := padded_two (show second < 100 by omega)
  rw [hs] at hseconds
  rw [hs]
  by_cases hzero : nanosecond = 0
  · subst hzero
    simp [secondsOfChars?, fractionText, hseconds, hsecond]
  · have hnine := length_padded (Nat.succ_pos 8) hnanosecond
    have hvalue := nanoseconds_rdropWhile hnine
    rw [ofDigitChars_padded] at hvalue
    -- no fraction is empty, since a number other than zero has another digit than zero
    have hne : (padded 9 nanosecond).toList.rdropWhile (· = '0') ≠ [] := by
      intro hnil
      rw [hnil] at hvalue
      exact hzero hvalue.symm
    have hdigits : ((padded 9 nanosecond).toList.rdropWhile (· = '0')).all Char.isDigit = true :=
      List.all_eq_true.2 fun c hc =>
        isDigit_of_mem_padded c ((List.rdropWhile_prefix _ _).subset hc)
    rw [fractionText_eq hzero]
    simp [secondsOfChars?, hseconds, hsecond, hne, hdigits, hvalue, -List.all_eq_true]

/-- A time of the day is read from its normal spelling. -/
theorem ofChars?_text (h : t.IsValid) : ofChars? t.text.toList = some t := by
  have hhour := h.hour
  have hminute := h.minute
  have hhours := fixedDigits?_padded (Nat.succ_pos 1) (show t.hour < 10 ^ 2 by omega)
  have hminutes := fixedDigits?_padded (Nat.succ_pos 1) (show t.minute < 10 ^ 2 by omega)
  obtain ⟨h₁, h₂, hh, -⟩ := padded_two (show t.hour < 100 by omega)
  obtain ⟨m₁, m₂, hm, -⟩ := padded_two (show t.minute < 100 by omega)
  rw [hh] at hhours
  rw [hm] at hminutes
  have hfirst := hourAndMinute?_eq_some.2 ⟨hhours, hminutes, hhour, hminute⟩
  have hseconds := secondsOfChars?_text h.second h.nanosecond
  rw [toList_text, hh, hm]
  simp only [List.cons_append, List.nil_append] at hseconds ⊢
  simp [ofChars?, hfirst, hseconds]

end Time

/-! ## Offsets -/

namespace Offset

variable {o : Offset} {cs : List Char}

/-- A distance of less than a day. -/
def IsValid : Offset → Prop
  | universal => True
  | minutes count => count.natAbs < 24 * 60

theorem isValid_of_ofChars? (h : ofChars? cs = some o) : o.IsValid := by
  unfold ofChars? at h
  split at h
  · cases h
    trivial
  · cases h
    trivial
  · obtain ⟨⟨hours, mins⟩, hhours, h⟩ := Option.bind_eq_some_iff.1 h
    obtain ⟨-, -, hhour, hminute⟩ := Time.hourAndMinute?_eq_some.1 hhours
    dsimp only at h
    split at h
    · cases h
      simp only [IsValid]
      omega
    · split at h
      · cases h
        simp only [IsValid]
        omega
      · cases h
  · cases h

theorem toList_text_minutes (count : Int) :
    (minutes count).text.toList = (if count < 0 then '-' else '+') ::
      (padded 2 (count.natAbs / 60)).toList ++ ':' :: (padded 2 (count.natAbs % 60)).toList := by
  simp only [text]
  split <;> simp

theorem ofChars?_signed (sign : Char) {h₁ h₂ m₁ m₂ : Char} {hours mins : Nat}
    (h : Time.hourAndMinute? h₁ h₂ m₁ m₂ = some (hours, mins)) :
    ofChars? [sign, h₁, h₂, ':', m₁, m₂] =
      if sign = '+' then some (minutes (hours * 60 + mins : Nat))
      else if sign = '-' then some (minutes (-(hours * 60 + mins : Nat)))
      else none := by
  rw [ofChars?, h]
  rfl

/-- A distance of less than a day is read from its normal spelling. -/
theorem ofChars?_text (h : o.IsValid) : ofChars? o.text.toList = some o := by
  cases o with
  | universal => rfl
  | minutes count =>
    have hcount : count.natAbs < 24 * 60 := h
    have hhours := fixedDigits?_padded (Nat.succ_pos 1) (show count.natAbs / 60 < 10 ^ 2 by omega)
    have hminutes := fixedDigits?_padded (Nat.succ_pos 1) (show count.natAbs % 60 < 10 ^ 2 by omega)
    obtain ⟨h₁, h₂, hh, -⟩ := padded_two (show count.natAbs / 60 < 100 by omega)
    obtain ⟨m₁, m₂, hm, -⟩ := padded_two (show count.natAbs % 60 < 100 by omega)
    rw [hh] at hhours
    rw [hm] at hminutes
    have hfirst := Time.hourAndMinute?_eq_some.2 ⟨hhours, hminutes, by omega, by omega⟩
    rw [toList_text_minutes, hh, hm]
    by_cases hneg : count < 0
    · have hsign : -((count.natAbs / 60 * 60 + count.natAbs % 60 : Nat) : Int) = count := by omega
      rw [if_pos hneg]
      refine (ofChars?_signed '-' hfirst).trans ?_
      rw [if_neg (by decide), if_pos rfl, hsign]
    · have hsign : ((count.natAbs / 60 * 60 + count.natAbs % 60 : Nat) : Int) = count := by omega
      rw [if_neg hneg]
      refine (ofChars?_signed '+' hfirst).trans ?_
      rw [if_pos rfl, hsign]

theorem startsOffset_of_mem_head? {c : Char} (h : c ∈ o.text.toList.head?) :
    DateTime.startsOffset c = true := by
  cases o with
  | universal =>
    cases h
    rfl
  | minutes count =>
    rw [toList_text_minutes] at h
    cases h
    split <;> rfl

theorem mem_text {c : Char} (h : c ∈ o.text.toList) :
    c.isDigit = true ∨ c ∈ ['+', '-', ':', 'Z'] := by
  cases o with
  | universal =>
    have hc : c = 'Z' := by simpa [text] using h
    simp [hc]
  | minutes count =>
    rw [toList_text_minutes] at h
    simp only [List.mem_append, List.mem_cons] at h
    rcases h with (h | h) | h | h
    · refine .inr ?_
      rw [h]
      split <;> simp
    · exact .inl (isDigit_of_mem_padded c h)
    · simp [h]
    · exact .inl (isDigit_of_mem_padded c h)

end Offset

/-! ## Dates with times -/

namespace DateTime

variable {d : DateTime} {cs : List Char}

def IsValid : DateTime → Prop
  | date d => d.IsValid
  | time t => t.IsValid
  | dateTime d t offset => d.IsValid ∧ t.IsValid ∧ ∀ o ∈ offset, o.IsValid

theorem isValid_of_ofChars? (h : ofChars? cs = some d) : d.IsValid := by
  unfold ofChars? at h
  split at h
  · obtain ⟨t, ht, rfl⟩ := Option.map_eq_some_iff.1 h
    exact Time.isValid_of_ofChars? ht
  · rename_i day hday
    have hday := (Date.ofChars?_eq_some_iff.1 hday).1
    split at h
    · cases h
      exact hday
    · obtain ⟨⟨⟩, -, h⟩ := Option.bind_eq_some_iff.1 h
      obtain ⟨t, ht, h⟩ := Option.bind_eq_some_iff.1 h
      have ht := Time.isValid_of_ofChars? ht
      split at h
      · cases h
        exact ⟨hday, ht, nofun⟩
      · obtain ⟨o, ho, h⟩ := Option.bind_eq_some_iff.1 h
        cases h
        refine ⟨hday, ht, fun o' ho' => ?_⟩
        cases ho'
        exact Offset.isValid_of_ofChars? ho

/-- A time is not taken for a date, as a colon stands behind the hour. -/
theorem ofChars?_take_text (t : Time) (ht : t.IsValid) :
    Date.ofChars? (t.text.toList.take 10) = none := by
  have hhour := ht.hour
  obtain ⟨h₁, h₂, hh, -⟩ := padded_two (show t.hour < 100 by omega)
  have hcolon : ':' ∈ t.text.toList.take 10 := by
    rw [Time.toList_text, hh]
    simp
  refine Option.eq_none_iff_forall_ne_some.2 fun d hd => ?_
  rw [(Date.ofChars?_eq_some_iff.1 hd).2] at hcolon
  rcases Date.mem_text hcolon with h | h
  · exact absurd h (by decide)
  · exact absurd h (by decide)

/-- A time ends where an offset starts. -/
theorem not_startsOffset_of_mem_text {t : Time} :
    ∀ c ∈ t.text.toList, (!startsOffset c) = true := by
  intro c hc
  rcases Time.mem_text hc with hdigit | rfl | rfl
  · have hne : ∀ mark, mark.isDigit = false → c ≠ mark := fun _ => ne_of_isDigit hdigit
    simp [startsOffset, hne 'Z' rfl, hne 'z' rfl, hne '+' rfl, hne '-' rfl]
  · rfl
  · rfl

/-- A date, a separator and a time, with what may follow as an offset. -/
theorem ofChars?_append {d : Date} (hd : d.IsValid) {t : Time} (ht : t.IsValid)
    (rest : List Char) (hrest : ∀ c ∈ rest.head?, startsOffset c = true) :
    ofChars? (d.text.toList ++ 'T' :: (t.text.toList ++ rest)) =
      if rest = [] then some (dateTime d t none)
      else (Offset.ofChars? rest).map fun o => dateTime d t (some o) := by
  have hday : Date.ofChars? ((d.text.toList ++ 'T' :: (t.text.toList ++ rest)).take 10) =
      some d := by
    rw [List.take_append_of_le_length (Date.length_text hd).ge,
      List.take_of_length_le (Date.length_text hd).le]
    exact Date.ofChars?_eq_some_iff.2 ⟨hd, rfl⟩
  have hdrop : (d.text.toList ++ 'T' :: (t.text.toList ++ rest)).drop 10 =
      'T' :: (t.text.toList ++ rest) := by
    rw [← Date.length_text hd, List.drop_left]
  have htime : (t.text.toList ++ rest).takeWhile (fun c => !startsOffset c) =
      t.text.toList ++ rest.takeWhile fun c => !startsOffset c :=
    List.takeWhile_append_of_pos not_startsOffset_of_mem_text
  have hoffset : (t.text.toList ++ rest).dropWhile (fun c => !startsOffset c) =
      rest.dropWhile fun c => !startsOffset c :=
    List.dropWhile_append_of_pos not_startsOffset_of_mem_text
  cases rest with
  | nil =>
    rw [List.append_nil] at hday hdrop htime hoffset ⊢
    simp [ofChars?, hday, hdrop, htime, hoffset, separates, Time.ofChars?_text ht]
  | cons c rest =>
    have hc : startsOffset c = true := hrest c rfl
    rw [List.takeWhile_cons_of_neg (by simp [hc]), List.append_nil] at htime
    rw [List.dropWhile_cons_of_neg (by simp [hc])] at hoffset
    simp [ofChars?, hday, hdrop, htime, hoffset, separates, Time.ofChars?_text ht,
      Option.map_eq_bind]

/-- **What exists is read from its normal spelling.** -/
theorem ofChars?_text (h : d.IsValid) : ofChars? d.text.toList = some d := by
  cases d with
  | date d =>
    have hday : Date.ofChars? (d.text.toList.take 10) = some d := by
      rw [List.take_of_length_le (Date.length_text h).le]
      exact Date.ofChars?_eq_some_iff.2 ⟨h, rfl⟩
    simp only [text, ofChars?, hday]
    rw [List.drop_eq_nil_of_le (Date.length_text h).le]
  | time t =>
    simp only [text, ofChars?, ofChars?_take_text t h, Time.ofChars?_text h]
    rfl
  | dateTime d t offset =>
    obtain ⟨hd, ht, ho⟩ := h
    cases offset with
    | none =>
      have htext := ofChars?_append hd ht [] nofun
      simpa [text] using htext
    | some o =>
      have htext := ofChars?_append hd ht o.text.toList fun c hc =>
        Offset.startsOffset_of_mem_head? hc
      have hne : o.text.toList ≠ [] := by
        intro hnil
        have hread := Offset.ofChars?_text (ho o rfl)
        rw [hnil] at hread
        cases hread
      rw [if_neg hne, Offset.ofChars?_text (ho o rfl)] at htext
      simpa [text] using htext

/-- What exists is what some spelling is read as. -/
theorem isValid_iff : d.IsValid ↔ ∃ cs, ofChars? cs = some d :=
  ⟨fun h => ⟨_, ofChars?_text h⟩, fun ⟨_, h⟩ => isValid_of_ofChars? h⟩

/-- A normal spelling starts with digits, and a mark that stands in no number. -/
theorem exists_text_eq (d : DateTime) :
    ∃ digits mark rest, d.text.toList = digits ++ mark :: rest ∧ digits ≠ [] ∧
      (∀ c ∈ digits, c.isDigit = true) ∧ (mark = '-' ∨ mark = ':') := by
  have hne : ∀ width n, (padded width n).toList ≠ [] := by
    intro width n hnil
    rw [toList_padded] at hnil
    exact Nat.toDigits_ne_nil (List.append_eq_nil_iff.1 hnil).2
  have hdate : ∀ d : Date, ∃ rest, d.text.toList = (padded 4 d.year).toList ++ '-' :: rest :=
    fun d => ⟨_, by rw [Date.toList_text, List.append_assoc, List.cons_append]⟩
  have htime : ∀ t : Time, ∃ rest, t.text.toList = (padded 2 t.hour).toList ++ ':' :: rest := by
    intro t
    rw [Time.toList_text]
    simp only [List.append_assoc, List.cons_append]
    exact ⟨_, rfl⟩
  cases d with
  | date d =>
    obtain ⟨rest, hrest⟩ := hdate d
    exact ⟨_, _, rest, hrest, hne _ _, isDigit_of_mem_padded, .inl rfl⟩
  | time t =>
    obtain ⟨rest, hrest⟩ := htime t
    exact ⟨_, _, rest, hrest, hne _ _, isDigit_of_mem_padded, .inr rfl⟩
  | dateTime d t offset =>
    obtain ⟨rest, hrest⟩ := hdate d
    simp only [text, String.toList_append, hrest, List.append_assoc, List.cons_append]
    exact ⟨_, '-', _, rfl, hne 4 d.year, isDigit_of_mem_padded, .inl rfl⟩

/-- The characters beside digits in a normal spelling. -/
def marks : List Char := ['+', '-', '.', ':', 'T', 'Z']

theorem mem_text {c : Char} (h : c ∈ d.text.toList) : c.isDigit = true ∨ c ∈ marks := by
  have hdate : ∀ d : Date, c ∈ d.text.toList → c.isDigit = true ∨ c ∈ marks :=
    fun d h => (Date.mem_text h).imp_right (by rintro rfl; decide)
  have htime : ∀ t : Time, c ∈ t.text.toList → c.isDigit = true ∨ c ∈ marks :=
    fun t h => (Time.mem_text h).imp_right (by rintro (rfl | rfl) <;> decide)
  cases d with
  | date d => exact hdate d h
  | time t => exact htime t h
  | dateTime d t offset =>
    simp only [text, String.toList_append, List.mem_append] at h
    rcases h with ((h | h) | h) | h
    · exact hdate d h
    · have hc : c = 'T' := by simpa using h
      subst hc
      decide
    · exact htime t h
    · cases offset with
      | none => cases h
      | some o =>
        refine (Offset.mem_text h).imp_right fun hc => ?_
        have hsubset : ['+', '-', ':', 'Z'] ⊆ marks := by decide
        exact hsubset hc

end DateTime

end EdmMapping.Toml
