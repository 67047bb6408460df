/-!
# Blank characters

A character is *blank* when it has the Unicode property `White_Space`. Blank text is what
surrounds a word without belonging to it: trimming removes it from both ends, and nothing
between.
-/

namespace GuardedScript.Text

/-- The blank code points, as ascending ranges with both ends included. -/
def blankRanges : List (Nat × Nat) :=
  [(0x0009, 0x000D), (0x0020, 0x0020), (0x0085, 0x0085), (0x00A0, 0x00A0), (0x1680, 0x1680),
    (0x2000, 0x200A), (0x2028, 0x2029), (0x202F, 0x202F), (0x205F, 0x205F), (0x3000, 0x3000)]

/-- A character is blank when one of the ranges holds its code point. -/
def isBlank (c : Char) : Bool :=
  blankRanges.any fun range => range.1 ≤ c.toNat && c.toNat ≤ range.2

/-- The text without the blank characters at its beginning. -/
def trimLeft (text : List Char) : List Char :=
  text.dropWhile isBlank

/-- The text without the blank characters at its end. -/
def trimRight (text : List Char) : List Char :=
  (trimLeft text.reverse).reverse

/-- The text without the blank characters at either end. -/
def trim (text : List Char) : List Char :=
  trimRight (trimLeft text)

@[simp]
theorem trimLeft_nil :
  trimLeft [] = []
  := by
  rfl

@[simp]
theorem trimRight_nil :
  trimRight [] = []
  := by
  rfl

@[simp]
theorem trim_nil :
  trim [] = []
  := by
  rfl

/-- The text is the blank run that trimming drops, followed by what it keeps. -/
theorem takeWhile_append_trimLeft (text : List Char) :
  text.takeWhile isBlank ++ trimLeft text = text
  := by
  apply List.takeWhile_append_dropWhile

/-- Nothing is left of a text exactly when all of it is blank. -/
theorem trimLeft_eq_nil_iff {text : List Char} :
  trimLeft text = [] ↔ ∀ c ∈ text, isBlank c
  := by
  induction text with
  | nil => simp
  | cons c rest ih =>
    by_cases h : isBlank c
    · simp only [trimLeft, List.dropWhile_cons, h, if_true, List.forall_mem_cons, true_and]
      exact ih
    · simp [trimLeft, h]

/-- Removing the blanks at the end keeps the beginning. -/
theorem trimRight_isPrefix (text : List Char) :
  trimRight text <+: text
  := by
  rw [← List.reverse_suffix, trimRight, List.reverse_reverse]
  apply List.dropWhile_suffix

/-- Trimming keeps a part of the text. -/
theorem trim_infix (text : List Char) :
  trim text <:+: text
  := by
  apply (trimRight_isPrefix _).isInfix.trans
  apply (List.dropWhile_suffix _).isInfix

/-- A text does not begin with a blank when the blanks at its beginning have been removed. -/
theorem isBlank_of_head?_trimLeft {text : List Char} {c : Char}
    (h : (trimLeft text).head? = some c) :
  isBlank c = false
  := by
  induction text with
  | nil => cases h
  | cons d rest ih =>
    rw [trimLeft, List.dropWhile_cons] at h
    split at h
    · apply ih h
    · rename_i hd
      obtain rfl : d = c := by simpa using h
      simpa using hd

/-- A trimmed text does not begin with a blank. -/
theorem isBlank_of_head?_trim {text : List Char} {c : Char} (h : (trim text).head? = some c) :
  isBlank c = false
  := by
  obtain ⟨rest, hrest⟩ := trimRight_isPrefix (trimLeft text)
  have hhead : (trimLeft text).head? = some c := by
    rw [← hrest, List.head?_append, ← trim, h, Option.some_or]
  apply isBlank_of_head?_trimLeft hhead

/-- A trimmed text does not end with a blank. -/
theorem isBlank_of_getLast?_trim {text : List Char} {c : Char}
    (h : (trim text).getLast? = some c) :
  isBlank c = false
  := by
  rw [trim, trimRight, List.getLast?_reverse] at h
  apply isBlank_of_head?_trimLeft h

/-- A text that does not begin with a blank keeps its beginning. -/
theorem trimLeft_of_head? {text : List Char}
    (first : ∀ c, text.head? = some c → isBlank c = false) :
  trimLeft text = text
  := by
  cases text with
  | nil => rfl
  | cons c rest => simp [trimLeft, first c rfl]

/-- A text that neither begins nor ends with a blank is already trimmed. -/
theorem trim_of_ends {text : List Char} (first : ∀ c, text.head? = some c → isBlank c = false)
    (last : ∀ c, text.getLast? = some c → isBlank c = false) :
  trim text = text
  := by
  rw [trim, trimLeft_of_head? first, trimRight, trimLeft_of_head?, List.reverse_reverse]
  intro c hc
  rw [List.head?_reverse] at hc
  apply last c hc

end GuardedScript.Text
