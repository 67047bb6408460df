/-!
# Positions in a text

A position is a line and a column, both counted from one; columns count characters. A line
feed ends its line, and the character after it stands in column one of the next.
-/

namespace GuardedScript

/-- A place in a text: the line and the column of a character. -/
structure Position where
  line : Nat
  column : Nat
deriving DecidableEq, Repr, Inhabited

namespace Position

/-- The place of the first character. -/
def start : Position :=
  ⟨1, 1⟩

/-- The place after a character that stands at `p`. -/
def advance (p : Position) (c : Char) : Position :=
  if c = '\n' then ⟨p.line + 1, 1⟩ else ⟨p.line, p.column + 1⟩

/-- The place after a text that begins at `p`. -/
def after (p : Position) (text : List Char) : Position :=
  text.foldl advance p

@[simp]
theorem after_nil (p : Position) :
  p.after [] = p
  := by
  rfl

@[simp]
theorem after_cons (p : Position) (c : Char) (text : List Char) :
  p.after (c :: text) = (p.advance c).after text
  := by
  rfl

@[simp]
theorem after_append (p : Position) (first second : List Char) :
  p.after (first ++ second) = (p.after first).after second
  := by
  simp [after]

/-- The line after a text counts the line feeds in it. -/
theorem line_after (p : Position) (text : List Char) :
  (p.after text).line = p.line + text.count '\n'
  := by
  induction text generalizing p with
  | nil => simp
  | cons c rest ih =>
    rw [after_cons, ih, advance]
    split
    · rename_i h
      subst h
      simp
      omega
    · rename_i h
      simp [h]

/-- The characters of a text after its last line feed, or all of them when there is none. -/
def lastLine (text : List Char) : List Char :=
  (text.reverse.takeWhile (· ≠ '\n')).reverse

/-- The column after a text counts the characters of its last line. -/
theorem column_after_start (text : List Char) :
  (start.after text).column = 1 + (lastLine text).length
  := by
  have hreverse (r : List Char) :
      (start.after r.reverse).column = 1 + (r.takeWhile (· ≠ '\n')).length := by
    induction r with
    | nil => rfl
    | cons c rest ih =>
      rw [List.reverse_cons, after_append, after_cons, after_nil, advance]
      split
      · rename_i hc
        simp [hc]
      · rename_i hc
        rw [List.takeWhile_cons_of_pos (by simpa using hc), List.length_cons, ih]
        apply Nat.add_assoc
  have hcolumn := hreverse text.reverse
  rw [List.reverse_reverse] at hcolumn
  rw [hcolumn, lastLine, List.length_reverse]

/-- The place after a text, in terms of its lines. -/
theorem after_start (text : List Char) :
  start.after text = ⟨1 + text.count '\n', 1 + (lastLine text).length⟩
  := by
  rw [← column_after_start]
  have hline := line_after start text
  rw [start] at hline
  rw [← hline]
  rfl

end Position

end GuardedScript
