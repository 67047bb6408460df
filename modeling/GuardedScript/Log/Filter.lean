import GuardedScript.Log.Directive

/-!
# Which entries are shown

A filter decides which entries of a log are shown. It is written as directives with commas
between them. Of the directives that say something of an entry the one of the highest rank
decides, and of two of the same rank the later one. An entry of which none says anything is not
shown.
-/

namespace GuardedScript.Log

/-- The directives of a filter. -/
abbrev Filter := List Directive

namespace Filter

/-- The filter that a text gives, if each of its directives can be read. A text without any
directive shows nothing. -/
def ofString? (text : String) : Option Filter :=
  ((text.toList.splitOn ',').filter (· ≠ [])).mapM fun piece =>
    Directive.ofString? (String.ofList piece)

/-- The filter of a program that is given none: its own entries, with the debugging ones if it
is verbose. -/
def usual (verbose : Bool) : Filter :=
  [{ target := Source.tool.target
     detail := (if verbose then Level.debug else Level.info).detail }]

/-- The filter of a program: the one it is given, if there is one and it can be read, or the
usual one. -/
def choose (given : Option String) (verbose : Bool) : Filter :=
  (given.bind ofString?).getD (usual verbose)

/-- The directive that decides, of the best one so far and one more. -/
def stronger (e : Entry) (best : Option Directive) (d : Directive) : Option Directive :=
  if d.appliesTo e then
    match best with
    | none => some d
    | some b => if b.rank ≤ d.rank then some d else some b
  else best

/-- The directive that decides about an entry. -/
def decisive? (f : Filter) (e : Entry) : Option Directive :=
  f.foldl (stronger e) none

/-- The filter shows an entry. -/
def shows (f : Filter) (e : Entry) : Bool :=
  match f.decisive? e with
  | some d => e.level.detail ≤ d.detail
  | none => false

end Filter

end GuardedScript.Log
