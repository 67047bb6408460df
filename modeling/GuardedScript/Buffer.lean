import GuardedScript.Text.Blank

/-!
# The buffer

The characters of the token being read wait in a buffer. As a *word* they are taken without
the blanks around them, and blanks alone are no word; as a *literal* or a name they are taken
as they are.
-/

namespace GuardedScript

/-- Characters that have been read, latest first. -/
structure Buffer where
  reversed : List Char
deriving DecidableEq, Repr

namespace Buffer

/-- No characters. -/
def empty : Buffer :=
  ⟨[]⟩

/-- The characters in the order in which they were read. -/
def toList (b : Buffer) : List Char :=
  b.reversed.reverse

/-- One more character. -/
def push (b : Buffer) (c : Char) : Buffer :=
  ⟨c :: b.reversed⟩

/-- There are no characters. -/
def isEmpty (b : Buffer) : Bool :=
  b.reversed.isEmpty

/-- There are no characters but blanks. -/
def isBlank (b : Buffer) : Bool :=
  b.reversed.all Text.isBlank

/-- The last character is a space. -/
def endsWithSpace (b : Buffer) : Bool :=
  b.reversed.head? = some ' '

/-- The characters as a string. -/
def text (b : Buffer) : String :=
  String.ofList b.toList

/-- The characters without the blanks around them, unless nothing remains. -/
def word? (b : Buffer) : Option String :=
  match Text.trim b.toList with
  | [] => none
  | c :: rest => some (String.ofList (c :: rest))

/-- The word is taken out of the buffer. -/
def takeWord (b : Buffer) : Option String × Buffer :=
  (b.word?, empty)

/-- All characters are taken out of the buffer. -/
def takeText (b : Buffer) : String × Buffer :=
  (b.text, empty)

@[simp, grind =]
theorem takeWord_eq (b : Buffer) :
  b.takeWord = (b.word?, empty)
  := by
  rfl

@[simp, grind =]
theorem takeText_eq (b : Buffer) :
  b.takeText = (b.text, empty)
  := by
  rfl

@[simp]
theorem toList_empty :
  empty.toList = []
  := by
  rfl

@[simp]
theorem toList_push (b : Buffer) (c : Char) :
  (b.push c).toList = b.toList ++ [c]
  := by
  simp [toList, push]

/-- A buffer is its characters. -/
theorem ext_toList {a b : Buffer} (h : a.toList = b.toList) :
  a = b
  := by
  cases a
  cases b
  simpa [toList] using h

theorem isEmpty_iff {b : Buffer} :
  b.isEmpty ↔ b.toList = []
  := by
  simp [isEmpty, toList]

theorem isBlank_iff {b : Buffer} :
  b.isBlank ↔ ∀ c ∈ b.toList, Text.isBlank c
  := by
  simp [isBlank, toList]

theorem endsWithSpace_iff {b : Buffer} :
  b.endsWithSpace ↔ b.toList.getLast? = some ' '
  := by
  simp [endsWithSpace, toList]

/-- The word in a buffer is what is left of its characters without the blanks around them, and
that is not empty. -/
theorem toList_of_word? {b : Buffer} {word : String} (h : b.word? = some word) :
  word.toList = Text.trim b.toList ∧ word.toList ≠ []
  := by
  rw [word?] at h
  split at h
  · cases h
  · rename_i c rest htrim
    cases h
    rw [htrim, String.toList_ofList]
    exact ⟨rfl, List.cons_ne_nil c rest⟩

end Buffer

end GuardedScript
