import GuardedScript.Value.Printer
import GuardedScript.Value.Reading
import Mathlib.Tactic.SplitIfs
import Mathlib.Tactic.Use

/-!
# Strings and integers that were written

A string that was written between quotes is read as the same string, whatever characters are in
it: every escape that the printer uses is one that the reader understands. An integer that was
written in decimal is read as a numeral without fraction and exponent, and the numeral stands for
that integer.
-/

universe u v

namespace GuardedScript.Value

/-! ### Steps along a text -/

/-- The characters of a text lead from one state to another, one step for each. -/
inductive Through {α : Type u} (step : α → Char → α → Prop) : α → List Char → α → Prop
  | nil (a : α) : Through step a [] a
  | cons {a b d : α} {c : Char} {text : List Char} (first : step a c b)
    (rest : Through step b text d) : Through step a (c :: text) d

namespace Through

variable {α : Type u} {β : Type v} {step : α → Char → α → Prop}

theorem append {a b d : α} {first second : List Char} (hfirst : Through step a first b)
    (hsecond : Through step b second d) :
  Through step a (first ++ second) d
  := by
  induction hfirst with
  | nil a => apply hsecond
  | cons head rest ih => apply cons head (ih hsecond)

/-- Steps of one kind are steps of another kind inside a larger state. -/
theorem map {step' : β → Char → β → Prop} (f : α → β)
    (hstep : ∀ a c b, step a c b → step' (f a) c (f b)) {a b : α} {text : List Char}
    (h : Through step a text b) :
  Through step' (f a) text (f b)
  := by
  induction h with
  | nil a => apply nil
  | cons first rest ih => apply cons (hstep _ _ _ first) ih

end Through

/-! ### Strings -/

namespace Quoted

/-- The string goes on with a character. -/
def GoesOn (q : Quoted) (c : Char) (q' : Quoted) : Prop :=
  q.step c = .ok (.inl q')

theorem utf8Size_hexDigit (n : Nat) :
  (hexDigit n).utf8Size = 1
  := by
  have hdigit : ∀ m < 16, (Nat.digitChar m).utf8Size = 1 := by decide
  apply hdigit _ (Nat.mod_lt n (by decide))

/-- The two digits of a control character name it. -/
theorem unitOf?_control {n : Nat} (h : n < 0x20) :
  unitOf? ['0', '0', hexDigit (n / 16), hexDigit n] = some n
  := by
  have hcontrol : ∀ m < 0x20, unitOf? ['0', '0', hexDigit (m / 16), hexDigit m] = some m := by
    decide
  apply hcontrol n h

theorem pushUnit_control (q : Quoted) {c : Char} (h : c.toNat < 0x20) :
  q.pushUnit none c.toNat = .ok (q.push c)
  := by
  have htrail : isTrail c.toNat = false := by
    simp only [isTrail, Bool.and_eq_false_iff, decide_eq_false_iff_not]
    omega
  have hlead : isLead c.toNat = false := by
    simp only [isLead, Bool.and_eq_false_iff, decide_eq_false_iff_not]
    omega
  simp [pushUnit, htrail, hlead, Char.ofNat_toNat]

/-- A control character is read from the digits of its number. -/
theorem through_control (written : List Char) {c : Char} (h : c.toNat < 0x20) :
  Through GoesOn ⟨written, .none⟩
    ['\\', 'u', '0', '0', hexDigit (c.toNat / 16), hexDigit c.toNat] ⟨c :: written, .none⟩
  := by
  have hzero : Char.utf8Size '0' = 1 := rfl
  have hthird : GoesOn ⟨written, .unit .none ['0', '0']⟩ (hexDigit (c.toNat / 16))
      ⟨written, .unit .none [hexDigit (c.toNat / 16), '0', '0']⟩ := by
    simp [GoesOn, step, byteCount, utf8Size_hexDigit, hzero]
  have hfourth : GoesOn ⟨written, .unit .none [hexDigit (c.toNat / 16), '0', '0']⟩
      (hexDigit c.toNat) ⟨c :: written, .none⟩ := by
    simp [GoesOn, step, byteCount, utf8Size_hexDigit, hzero, unitOf?_control h,
      pushUnit_control _ h, push, Except.map]
  exact .cons rfl (.cons rfl (.cons rfl (.cons rfl (.cons hthird (.cons hfourth (.nil _))))))

/-- A character is read from the letter that stands for it. -/
theorem through_letter (written : List Char) {c letter : Char} (h : letter? letter = some c)
    (hunit : letter ≠ 'u') :
  Through GoesOn ⟨written, .none⟩ ['\\', letter] ⟨c :: written, .none⟩
  := by
  have hletter : GoesOn ⟨written, .begun⟩ letter ⟨c :: written, .none⟩ := by
    simp [GoesOn, step, hunit, h, push]
  exact .cons rfl (.cons hletter (.nil _))

/-- A character is read from the form in which it is written. -/
theorem through_escape (written : List Char) (c : Char) :
  Through GoesOn ⟨written, .none⟩ (Value.escape c) ⟨c :: written, .none⟩
  := by
  rw [Value.escape]
  split_ifs with hquote hbackslash hb hf hn hr ht hcontrol
  · subst hquote
    apply through_letter written rfl (by decide)
  · subst hbackslash
    apply through_letter written rfl (by decide)
  · subst hb
    apply through_letter written rfl (by decide)
  · subst hf
    apply through_letter written rfl (by decide)
  · subst hn
    apply through_letter written rfl (by decide)
  · subst hr
    apply through_letter written rfl (by decide)
  · subst ht
    apply through_letter written rfl (by decide)
  · apply through_control written hcontrol
  · apply Through.cons _ (.nil _)
    simp [GoesOn, step, hquote, hbackslash, hcontrol, push]

/-- A text is read from the form in which it is written. -/
theorem through_flatMap_escape (written text : List Char) :
  Through GoesOn ⟨written, .none⟩ (text.flatMap Value.escape) ⟨text.reverse ++ written, .none⟩
  := by
  induction text generalizing written with
  | nil => apply Through.nil
  | cons c rest ih =>
    rw [List.flatMap_cons, List.reverse_cons, List.append_assoc]
    apply (through_escape written c).append (ih (c :: written))

/-- The closing quote ends a string, which has the characters read so far. -/
theorem step_close (text : List Char) :
  step ⟨text.reverse, .none⟩ '"' = .ok (.inr (String.ofList text))
  := by
  simp [step, Quoted.text]

end Quoted

/-! ### Integers -/

namespace Numeral

/-- The numeral goes on with a character. -/
def GoesOn (n : Numeral) (c : Char) (n' : Numeral) : Prop :=
  n.step c = .ok (some n')

/-- The numeral of an integer, as it has been read to its end. -/
def ofInt (n : Int) : Numeral where
  stage := if n = 0 then .zero else .whole
  negative := n < 0
  whole := (Nat.toDigits 10 n.natAbs).reverse

/-- No number but zero is written with a zero at its beginning. -/
theorem toDigits_eq_cons {m : Nat} (h : 0 < m) :
  ∃ d rest, Nat.toDigits 10 m = d :: rest ∧ d ≠ '0'
  := by
  induction m using Nat.strongRecOn with
  | ind m ih =>
    by_cases hsmall : m < 10
    · use m.digitChar, [], Nat.toDigits_of_lt_base hsmall
      rw [ne_eq, Nat.digitChar_eq_zero]
      omega
    · obtain ⟨d, rest, hdigits, hd⟩ := ih (m / 10) (by omega) (by omega)
      use d, rest ++ [(m % 10).digitChar]
      rw [Nat.toDigits_of_base_le (by decide) (by omega), hdigits]
      exact ⟨rfl, hd⟩

theorem isDigit_of_mem {m : Nat} {c : Char} (h : c ∈ Nat.toDigits 10 m) :
  c.isDigit = true
  := by
  apply Nat.isDigit_of_mem_toDigits _ _ h
  · decide
  · decide

/-- Whole digits are read one after the other. -/
theorem through_digits {n : Numeral} (hstage : n.stage = .whole) {digits : List Char}
    (hdigits : ∀ c ∈ digits, c.isDigit = true) :
  Through GoesOn n digits { n with whole := digits.reverse ++ n.whole }
  := by
  induction digits generalizing n with
  | nil => apply Through.nil
  | cons c rest ih =>
    obtain ⟨hc, hrest⟩ := List.forall_mem_cons.mp hdigits
    have hstep : n.GoesOn c { n with whole := c :: n.whole } := by simp [GoesOn, step, hstage, hc]
    have hthrough := ih (n := { n with whole := c :: n.whole }) hstage hrest
    rw [List.reverse_cons, List.append_assoc]
    apply Through.cons hstep hthrough

/-- From its first digit on, an integer other than zero is read to its end. -/
theorem exists_through_ofInt {n : Int} (h : n ≠ 0) :
  ∃ d rest, Nat.toDigits 10 n.natAbs = d :: rest ∧ d ≠ '0' ∧ d.isDigit = true
    ∧ Through GoesOn { stage := .whole, negative := n < 0, whole := [d] } rest (ofInt n)
  := by
  obtain ⟨d, rest, hdigits, hd⟩ := toDigits_eq_cons (Int.natAbs_pos.mpr h)
  have hdigit : ∀ c ∈ d :: rest, c.isDigit = true := by
    rw [← hdigits]
    intro c
    apply isDigit_of_mem
  obtain ⟨hfirst, hrest⟩ := List.forall_mem_cons.mp hdigit
  have hofInt : ofInt n
      = { stage := .whole, negative := n < 0, whole := rest.reverse ++ [d] } := by
    simp [ofInt, h, hdigits]
  use d, rest, hdigits, hd, hfirst
  rw [hofInt]
  apply through_digits rfl hrest

/-- An integer is read from its decimal form. -/
theorem through_writeInt (n : Int) :
  ∃ c rest first, writeInt n = c :: rest ∧ start? c = some first
    ∧ Through GoesOn first rest (ofInt n)
  := by
  by_cases hzero : n = 0
  · subst hzero
    exact ⟨'0', [], { stage := .zero, whole := ['0'] }, rfl, rfl, .nil _⟩
  · obtain ⟨d, rest, hdigits, hd, hdigit, hthrough⟩ := exists_through_ofInt hzero
    by_cases hneg : n < 0
    · have hstep : GoesOn { stage := .sign, negative := true } d
          { stage := .whole, negative := true, whole := [d] } := by
        simp [GoesOn, step, hd, hdigit]
      rw [decide_eq_true hneg] at hthrough
      use '-', d :: rest, { stage := .sign, negative := true }
      exact ⟨by rw [writeInt, if_pos hneg, hdigits], rfl, .cons hstep hthrough⟩
    · have hminus : d ≠ '-' := by
        rintro rfl
        cases hdigit
      rw [decide_eq_false hneg] at hthrough
      use d, rest, { stage := .whole, whole := [d] }
      exact ⟨by rw [writeInt, if_neg hneg, hdigits], by simp [start?, hminus, hd, hdigit], hthrough⟩

theorem stage_ofInt (n : Int) :
  (ofInt n).stage = .zero ∨ (ofInt n).stage = .whole
  := by
  by_cases hzero : n = 0
  · exact .inl (if_pos hzero)
  · exact .inr (if_neg hzero)

/-- The integer of a numeral without fraction and exponent, by its sign and its magnitude. -/
theorem toInteger?_of_stage {n : Numeral} (h : n.stage = .zero ∨ n.stage = .whole) {m : Nat}
    (hm : Nat.ofDigitChars 10 n.whole.reverse 0 = m) :
  n.toInteger? =
    if n.negative then if m = 0 then none else Integer.ofInt? (-m) else Integer.ofInt? m
  := by
  subst hm
  rcases h with hstage | hstage
  · simp only [toInteger?, hstage]
  · simp only [toInteger?, hstage]

/-- The numeral of an integer stands for it. -/
theorem toNumber_ofInt (n : Integer) :
  (ofInt n.val).toNumber = .ok (.int n)
  := by
  have hmagnitude : Nat.ofDigitChars 10 (ofInt n.val).whole.reverse 0 = n.val.natAbs := by
    rw [ofInt, List.reverse_reverse, Nat.ofDigitChars_ten_toDigits]
  have hfits : Integer.ofInt? n.val = some n := dif_pos ⟨n.lower, n.upper⟩
  have hsign : (ofInt n.val).negative = decide (n.val < 0) := rfl
  have hinteger : (ofInt n.val).toInteger? = some n := by
    rw [toInteger?_of_stage (stage_ofInt n.val) hmagnitude, hsign]
    by_cases hneg : n.val < 0
    · have hval : -(n.val.natAbs : Int) = n.val := by omega
      rw [decide_eq_true hneg, if_pos rfl, if_neg (by omega), hval, hfits]
    · have hval : (n.val.natAbs : Int) = n.val := by omega
      rw [decide_eq_false hneg, if_neg Bool.false_ne_true, hval, hfits]
  have hcomplete : (ofInt n.val).complete = true := by
    rcases stage_ofInt n.val with hstage | hstage
    · simp only [complete, hstage]
    · simp only [complete, hstage]
  rw [toNumber, if_pos hcomplete, hinteger]

/-- A character that belongs to no number ends the numeral of an integer. -/
theorem step_ofInt (n : Int) {c : Char} (hdigit : c.isDigit = false)
    (hmark : c ∉ ['.', 'e', 'E']) :
  (ofInt n).step c = .ok none
  := by
  have hafter : (ofInt n).afterWhole c = none := by
    simp only [List.mem_cons, List.not_mem_nil, or_false, not_or] at hmark
    simp [afterWhole, hmark]
  rcases stage_ofInt n with hstage | hstage
  · simp [step, hstage, hdigit, hafter]
  · simp [step, hstage, hdigit, hafter]

end Numeral

end GuardedScript.Value
