/-!
# Spacing between words

Outside literals, spaces and line breaks in a row act together: only whether there is a line
feed matters, and whether a space comes before the first one. The *normal form* of such a run is
the shortest run that acts the same.
-/

namespace GuardedScript.Text

/-- The characters between words: spaces, line feeds and carriage returns. -/
def isSpacing (c : Char) : Bool :=
  c = ' ' || c = '\n' || c = '\r'

/-- The normal form of a run of spacing: nothing for carriage returns alone, a space for spaces
without a line feed, and otherwise a line feed, after a space if one came before it. -/
def normalSpacing (run : List Char) : List Char :=
  if run.contains '\n' then
    if (run.takeWhile (· ≠ '\n')).contains ' ' then [' ', '\n'] else ['\n']
  else if run.contains ' ' then [' '] else []

/-- The normal form is a run of spacing. -/
theorem isSpacing_of_mem_normalSpacing {run : List Char} {c : Char}
    (h : c ∈ normalSpacing run) :
  isSpacing c
  := by
  rw [normalSpacing] at h
  split at h
  · split at h
    · rcases List.mem_cons.mp h with rfl | h
      · rfl
      · rw [List.mem_singleton.mp h]
        rfl
    · rw [List.mem_singleton.mp h]
      rfl
  · split at h
    · rw [List.mem_singleton.mp h]
      rfl
    · simp at h

end GuardedScript.Text
