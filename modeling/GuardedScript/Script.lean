import GuardedScript.Scan

/-!
# Running a script

Before a script is scanned, the blanks around it are removed and every tab becomes a space, in
literals too. A run begins by resetting the host.
-/

namespace GuardedScript

namespace Script

/-- A tab as a space, any other character as it is. -/
def untab (c : Char) : Char :=
  if c = '\t' then ' ' else c

/-- The text of a script, ready to be scanned. -/
def normalize (text : List Char) : List Char :=
  (Text.trim text).map untab

/-- No tab is left. -/
theorem untab_ne_tab (c : Char) :
  untab c ≠ '\t'
  := by
  rw [untab]
  split
  · decide
  · rename_i h
    exact h

@[simp]
theorem untab_untab (c : Char) :
  untab (untab c) = untab c
  := by
  rw [untab.eq_1 (untab c), if_neg (untab_ne_tab c)]

end Script

/-- The run of a script from a state of the host. -/
def Host.run {σ : Type u} (h : Host σ) (s : σ) (script : String) : Scan σ :=
  (Scan.start (h.reset s)).feed h (Script.normalize script.toList)

end GuardedScript
