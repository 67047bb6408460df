import GuardedScript.Proofs.Runs
import GuardedScript.Script
import Mathlib.Data.List.Forall2

/-!
# Normal texts of scripts

Before a script is scanned its text is made normal: the blanks at its ends are removed and every
tab becomes a space. A tab and a space are both blank, so it does not matter which of the two is
done first, and no blank comes to stand at an end. A normal text is therefore its own normal form,
and blanks around a text, or spaces in place of its tabs, do not change the normal form.

A run reads the normal form of its script only.
-/

universe u

namespace GuardedScript

namespace Text

/-! ### Trimming -/

/-- Blanks in front of a text are trimmed away. -/
theorem trimLeft_append_of_blank {front : List Char} (blank : ∀ c ∈ front, isBlank c = true)
    (text : List Char) :
  trimLeft (front ++ text) = trimLeft text
  := by
  apply List.dropWhile_append_of_pos blank

/-- Blanks behind a text are trimmed away. -/
theorem trimRight_append_of_blank {back : List Char} (blank : ∀ c ∈ back, isBlank c = true)
    (text : List Char) :
  trimRight (text ++ back) = trimRight text
  := by
  have hreverse : ∀ c ∈ back.reverse, isBlank c = true := by
    intro c hc
    apply blank c (List.mem_reverse.mp hc)
  rw [trimRight, List.reverse_append, trimLeft_append_of_blank hreverse]
  rfl

/-- Trimming does not depend on the blanks around a text, even if the text itself is blank. -/
theorem trim_append_of_blank {front back : List Char} (hfront : ∀ c ∈ front, isBlank c = true)
    (hback : ∀ c ∈ back, isBlank c = true) (text : List Char) :
  trim (front ++ text ++ back) = trim text
  := by
  rw [trim, List.append_assoc, trimLeft_append_of_blank hfront, trimLeft, List.dropWhile_append]
  split
  · -- Nothing but blanks is between the blanks, so nothing is left on either side.
    rename_i hempty
    have htext : trimLeft text = [] := List.isEmpty_iff.mp hempty
    have hnil : trimLeft back = [] := trimLeft_eq_nil_iff.mpr hback
    rw [trim, htext, ← trimLeft, hnil]
  · rw [trimRight_append_of_blank hback]
    rfl

/-- Trimming twice is trimming. -/
theorem trim_trim (text : List Char) :
  trim (trim text) = trim text
  := by
  apply trim_of_ends
  · intro c
    apply isBlank_of_head?_trim
  · intro c
    apply isBlank_of_getLast?_trim

/-- Trimming keeps what is between blanks. -/
theorem exists_blank_append_trim (text : List Char) :
  ∃ front back, text = front ++ trim text ++ back
    ∧ (∀ c ∈ front, isBlank c = true) ∧ ∀ c ∈ back, isBlank c = true
  := by
  have htake {text : List Char} : ∀ c ∈ text.takeWhile isBlank, isBlank c = true :=
    List.all_eq_true.mp List.all_takeWhile
  use text.takeWhile isBlank, ((trimLeft text).reverse.takeWhile isBlank).reverse
  refine ⟨?_, htake, ?_⟩
  · have hright := congrArg List.reverse (takeWhile_append_trimLeft (trimLeft text).reverse)
    rw [List.reverse_append, List.reverse_reverse] at hright
    rw [List.append_assoc, trim, trimRight, hright, takeWhile_append_trimLeft]
  · intro c hc
    apply htake c (List.mem_reverse.mp hc)

/-- Characters that are changed without becoming or ceasing to be blank may be changed before or
after trimming. -/
theorem trim_map {f : Char → Char} (hf : ∀ c, isBlank (f c) = isBlank c) (text : List Char) :
  trim (text.map f) = (trim text).map f
  := by
  have left (text : List Char) : trimLeft (text.map f) = (trimLeft text).map f := by
    have hcomp : isBlank ∘ f = isBlank := funext hf
    rw [trimLeft, List.dropWhile_map, hcomp]
    rfl
  rw [trim, left, trimRight, ← List.map_reverse, left, ← List.map_reverse]
  rfl

end Text

namespace Script

/-! ### Tabs -/

/-- A tab and the space that it becomes are both blank. -/
theorem isBlank_untab (c : Char) :
  Text.isBlank (untab c) = Text.isBlank c
  := by
  rw [untab]
  split
  · rename_i htab
    subst htab
    rfl
  · rfl

/-- Tabs may be replaced first. -/
theorem normalize_eq_trim (text : List Char) :
  normalize text = Text.trim (text.map untab)
  := by
  rw [Text.trim_map isBlank_untab]
  rfl

/-- The second text is the first with spaces in place of some of its tabs. -/
def SpacesForTabs : List Char → List Char → Prop :=
  List.Forall₂ fun c d => d = c ∨ c = '\t' ∧ d = ' '

/-- Once all tabs are spaces, it does not matter which of them were replaced before. -/
theorem SpacesForTabs.map_untab {text other : List Char} (spaced : SpacesForTabs text other) :
  other.map untab = text.map untab
  := by
  induction spaced with
  | nil => rfl
  | @cons c d text other hcd _ ih =>
    rw [List.map_cons, List.map_cons, ih]
    rcases hcd with rfl | ⟨rfl, rfl⟩
    · rfl
    · rfl

/-! ### Normal forms -/

/-- A normal form is its own normal form. -/
theorem normalize_normalize (text : List Char) :
  normalize (normalize text) = normalize text
  := by
  have htrim : Text.trim (normalize text) = normalize text := by
    rw [normalize_eq_trim, Text.trim_trim]
  rw [normalize.eq_1 (normalize text), htrim, normalize, List.map_map]
  apply List.map_congr_left
  intro c _
  apply untab_untab

/-- Blanks around a text do not change its normal form. -/
theorem normalize_append_of_blank {front back : List Char}
    (hfront : ∀ c ∈ front, Text.isBlank c = true) (hback : ∀ c ∈ back, Text.isBlank c = true)
    (text : List Char) :
  normalize (front ++ text ++ back) = normalize text
  := by
  rw [normalize, Text.trim_append_of_blank hfront hback]
  rfl

/-- Spaces in place of tabs do not change the normal form. -/
theorem SpacesForTabs.normalize_eq {text other : List Char} (spaced : SpacesForTabs text other) :
  normalize other = normalize text
  := by
  rw [normalize_eq_trim, spaced.map_untab, ← normalize_eq_trim]

/-- A normal form has no tabs. -/
theorem tab_not_mem_normalize (text : List Char) :
  '\t' ∉ normalize text
  := by
  intro htab
  obtain ⟨c, -, hc⟩ := List.mem_map.mp htab
  apply untab_ne_tab c hc

/-- Between blanks at its ends, a text differs from its normal form in its tabs only. -/
theorem exists_normalize (text : List Char) :
  ∃ front middle back, text = front ++ middle ++ back
    ∧ (∀ c ∈ front, Text.isBlank c = true) ∧ (∀ c ∈ back, Text.isBlank c = true)
    ∧ middle.length = (normalize text).length
    ∧ List.Forall₂ (fun c d => d = if c = '\t' then ' ' else c) middle (normalize text)
  := by
  obtain ⟨front, back, htext, hfront, hback⟩ := Text.exists_blank_append_trim text
  refine ⟨front, Text.trim text, back, htext, hfront, hback, (List.length_map untab).symm, ?_⟩
  rw [normalize, List.forall₂_map_right_iff, List.forall₂_same]
  intro c _
  rfl

end Script

/-! ### Runs -/

/-- The normal form of a script is all that its run depends on. It is its own normal form, has no
tabs, and neither begins nor ends with a blank; between blanks at its ends the script has as many
characters, and differs from it only in having tabs for spaces. Blanks around the script, and
spaces in place of some of its tabs, do not change the normal form. So in each case the run is the
same, with what passes between it and the host, how it ends, and the place of the error. -/
theorem Host.run_of_normalize {σ : Type u} (h : Host σ) (s : σ) (text : String) :
  (Script.normalize (Script.normalize text.toList) = Script.normalize text.toList
    ∧ '\t' ∉ Script.normalize text.toList
    ∧ (∀ c, (Script.normalize text.toList).head? = some c → Text.isBlank c = false)
    ∧ (∀ c, (Script.normalize text.toList).getLast? = some c → Text.isBlank c = false)
    ∧ ∃ front middle back, text.toList = front ++ middle ++ back
      ∧ (∀ c ∈ front, Text.isBlank c = true) ∧ (∀ c ∈ back, Text.isBlank c = true)
      ∧ middle.length = (Script.normalize text.toList).length
      ∧ List.Forall₂ (fun c d => d = if c = '\t' then ' ' else c) middle
        (Script.normalize text.toList))
    ∧ h.run s (String.ofList (Script.normalize text.toList)) = h.run s text
    ∧ (∀ front back : String, (∀ c ∈ front.toList, Text.isBlank c = true) →
      (∀ c ∈ back.toList, Text.isBlank c = true) →
      Script.normalize (front ++ text ++ back).toList = Script.normalize text.toList
        ∧ h.run s (front ++ text ++ back) = h.run s text)
    ∧ ∀ other : String, Script.SpacesForTabs text.toList other.toList →
      Script.normalize other.toList = Script.normalize text.toList
        ∧ h.run s other = h.run s text
  := by
  have hrun {other : String}
      (hsame : Script.normalize other.toList = Script.normalize text.toList) :
      h.run s other = h.run s text := by
    rw [run, run, hsame]
  refine ⟨⟨?_, ?_, ?_, ?_, ?_⟩, ?_, ?_, ?_⟩
  · apply Script.normalize_normalize
  · apply Script.tab_not_mem_normalize
  · intro c hc
    rw [Script.normalize_eq_trim] at hc
    apply Text.isBlank_of_head?_trim hc
  · intro c hc
    rw [Script.normalize_eq_trim] at hc
    apply Text.isBlank_of_getLast?_trim hc
  · apply Script.exists_normalize
  · apply hrun
    rw [String.toList_ofList, Script.normalize_normalize]
  · intro front back hfront hback
    have hsame : Script.normalize (front ++ text ++ back).toList
        = Script.normalize text.toList := by
      rw [String.toList_append, String.toList_append]
      apply Script.normalize_append_of_blank hfront hback
    exact ⟨hsame, hrun hsame⟩
  · intro other spaced
    exact ⟨spaced.normalize_eq, hrun spaced.normalize_eq⟩

/-- Blanks of several kinds stand around a script with three tabs, one of them at its beginning and
one in a literal; a space stands in place of the second tab. -/
theorem Host.run_of_normalize_tabs :
  let h := Host.fixed none { result := .null }
  let text := "\ta\t'b\t';"
  ((∀ c ∈ "\u3000\t".toList, Text.isBlank c = true)
      ∧ (∀ c ∈ "\u0085\n".toList, Text.isBlank c = true)
      ∧ h.run () ("\u3000\t" ++ text ++ "\u0085\n") = h.run () text)
    ∧ Script.SpacesForTabs text.toList "\ta 'b\t';".toList
    ∧ h.run () "\ta 'b\t';" = h.run () text
  := by
  intro h text
  obtain ⟨-, -, hblank, hspaced⟩ := run_of_normalize h () text
  have hfront : ∀ c ∈ "\u3000\t".toList, Text.isBlank c = true :=
    List.all_eq_true.mp (by decide)
  have hback : ∀ c ∈ "\u0085\n".toList, Text.isBlank c = true :=
    List.all_eq_true.mp (by decide)
  have spaced : Script.SpacesForTabs text.toList "\ta 'b\t';".toList := by
    simp [Script.SpacesForTabs, text]
  exact ⟨⟨hfront, hback, (hblank _ _ hfront hback).2⟩, spaced, (hspaced _ spaced).2⟩

end GuardedScript
