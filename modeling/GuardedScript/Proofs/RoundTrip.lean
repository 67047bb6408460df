import GuardedScript.Proofs.Layouts
import GuardedScript.Transcript

/-!
# Transcripts that are read back

The indented form of a value is one of its layouts, so it is read as the value. A transcript that
was written is therefore read as the array of its entries, each an object with the components, the
result and whether the script was stopped. Three containers stand around every component, and two
around every result, so these may be as deep as the reader's limit less that many.
-/

namespace GuardedScript

namespace Value

open Reading

/-! ### The indented form -/

theorem spaces_newLine (level : Nat) :
  Spaces (newLine level)
  := by
  intro c hc
  rcases List.mem_cons.mp hc with rfl | hc
  · rfl
  · obtain rfl := List.eq_of_mem_replicate hc
    rfl

theorem layout_single (token : List Char) :
  Layout [token] token
  := by
  have h := Layout.bare token .nil
  rw [List.append_nil] at h
  apply h

/-- An item on a line of its own, and what follows it. -/
theorem layout_item (level : Nat) {v : Value} {text rest : List Char} {tokens : List (List Char)}
    (hvalue : Layout v.tokens text) (hrest : Layout tokens rest) :
  Layout (v.tokens ++ tokens) (newLine level ++ text ++ rest)
  := by
  apply (hvalue.pad (spaces_newLine level) v.tokens_ne_nil).append hrest

/-- A member on a line of its own, and what follows it. -/
theorem layout_member (level : Nat) {key : String} {v : Value} {text rest : List Char}
    {tokens : List (List Char)} (hvalue : Layout v.tokens text) (hrest : Layout tokens rest) :
  Layout (quoted key :: [':'] :: (v.tokens ++ tokens))
    (newLine level ++ quoted key ++ [':', ' '] ++ text ++ rest)
  := by
  have hspace : Spaces [' '] := by simp [Spaces, Reading.isSpace]
  have hcolon := Layout.bare [':'] ((hvalue.pad hspace v.tokens_ne_nil).append hrest)
  have hmember := Layout.cons (spaces_newLine level) (quoted key) hcolon
  simpa using hmember

mutual

/-- The indented form of a value is a layout of it. -/
theorem layout_indented : (level : Nat) → (v : Value) → Layout v.tokens (v.indented level)
  | _, null => by
    rw [tokens, indented]
    apply layout_single
  | _, bool b => by
    rw [tokens, indented]
    apply layout_single
  | _, num n => by
    rw [tokens, indented]
    apply layout_single
  | _, str s => by
    rw [tokens, indented]
    apply layout_single
  | _, arr [] => by
    rw [tokens, indented]
    apply Layout.bare ['['] (layout_single [']'])
  | level, arr (v :: rest) => by
    rw [tokens, indented]
    apply Layout.bare ['[']
    apply layout_item (level + 1) (layout_indented (level + 1) v) (layout_indentedItems level rest)
  | _, obj [] => by
    rw [tokens, indented]
    apply Layout.bare ['\x7b'] (layout_single ['\x7d'])
  | level, obj ((k, v) :: rest) => by
    rw [tokens, indented]
    apply Layout.bare ['\x7b']
    apply layout_member (level + 1) (layout_indented (level + 1) v)
      (layout_indentedMembers level rest)

theorem layout_indentedItems : (level : Nat) → (items : List Value) →
    Layout (itemTokens items) (indentedItems level items)
  | level, [] => by
    rw [itemTokens, indentedItems]
    apply (layout_single [']']).pad (spaces_newLine level) (by simp)
  | level, v :: rest => by
    rw [itemTokens, indentedItems]
    apply Layout.bare [',']
    apply layout_item (level + 1) (layout_indented (level + 1) v) (layout_indentedItems level rest)

theorem layout_indentedMembers : (level : Nat) → (members : List (String × Value)) →
    Layout (memberTokens members) (indentedMembers level members)
  | level, [] => by
    rw [memberTokens, indentedMembers]
    apply (layout_single ['\x7d']).pad (spaces_newLine level) (by simp)
  | level, (k, v) :: rest => by
    rw [memberTokens, indentedMembers]
    apply Layout.bare [',']
    apply layout_member (level + 1) (layout_indented (level + 1) v)
      (layout_indentedMembers level rest)

end

/-- The indented form of a value without floating-point numbers is read as the value, settled. -/
theorem FloatFree.read_indented {v : Value} (free : v.FloatFree) (hdepth : v.depth ≤ maxDepth)
    (level : Nat) :
  read (v.indented level) = .ok v.settled
  := by
  have hread := free.read_layout hdepth (layout_indented level v) spaces_nil
  rw [List.append_nil] at hread
  apply hread

end Value

namespace Transcript

open Value Reading

/-! ### Entries -/

namespace Entry

variable {e : Entry}

theorem floatFree_toValue (hcomponents : ∀ v ∈ e.components, v.FloatFree)
    (hresult : e.result.FloatFree) :
  e.toValue.FloatFree
  := by
  apply FloatFree.obj
  simp only [List.forall_mem_cons]
  exact ⟨.arr hcomponents, hresult, .bool e.aborted, by simp⟩

/-- An entry is two containers around its components and one around its result. -/
theorem depth_toValue_le {room : Nat} (hcomponents : ∀ v ∈ e.components, v.depth ≤ room)
    (hresult : e.result.depth ≤ room + 1) :
  e.toValue.depth ≤ room + 2
  := by
  have hitems : itemsDepth e.components ≤ room := itemsDepth_le hcomponents
  simp only [toValue, depth, membersDepth]
  omega

/-- The members of an entry come to stand in the order of their keys. -/
theorem settled_toValue (hcomponents : ∀ v ∈ e.components, v.Ordered)
    (hresult : e.result.Ordered) :
  e.toValue.settled
    = .obj [("aborted", .bool e.aborted), ("components", .arr e.components), ("result", e.result)]
  := by
  have harr : (arr e.components).settled = arr e.components :=
    (Ordered.arr hcomponents).settled_eq
  have hmembers : settledMembers [("components", .arr e.components), ("result", e.result),
      ("aborted", .bool e.aborted)]
      = [("components", .arr e.components), ("result", e.result),
        ("aborted", .bool e.aborted)] := by
    simp only [settledMembers, harr, hresult.settled_eq, (Ordered.bool e.aborted).settled_eq]
  rw [toValue, settled, hmembers]
  simp only [Dict.ofList, List.foldl_cons, List.foldl_nil, Dict.insert, String.reduceLT,
    String.reduceEq, ↓reduceIte]

/-- The values of the entry can be read back inside a transcript: they are free of floating-point
numbers, their objects are dictionaries, and they leave room for the three containers around a
component and the two around a result. -/
structure Fits (e : Entry) : Prop where
  components : ∀ v ∈ e.components, v.FloatFree ∧ v.Ordered ∧ v.depth ≤ 124
  result : e.result.FloatFree ∧ e.result.Ordered ∧ e.result.depth ≤ 125

end Entry

/-- The indented form of a transcript is read as the array of its entries, each with its members in
the order of their keys. -/
theorem read_indented_toValue {entries : List Entry} (fits : ∀ e ∈ entries, e.Fits) :
  Value.read ((toValue entries).indented 0) = .ok (.arr (entries.map fun e =>
    .obj [("aborted", .bool e.aborted), ("components", .arr e.components), ("result", e.result)]))
  := by
  have free : (toValue entries).FloatFree := by
    apply FloatFree.arr
    rw [List.forall_mem_map]
    intro e he
    apply Entry.floatFree_toValue (fun v hv => ((fits e he).components v hv).1) (fits e he).result.1
  have hdepth : (toValue entries).depth ≤ maxDepth := by
    rw [toValue, depth, maxDepth]
    apply Nat.succ_le_succ
    apply itemsDepth_le
    rw [List.forall_mem_map]
    intro e he
    apply Entry.depth_toValue_le (fun v hv => ((fits e he).components v hv).2.2)
      (fits e he).result.2.2
  have hentries : ∀ e ∈ entries, e.toValue.settled = .obj [("aborted", .bool e.aborted),
      ("components", .arr e.components), ("result", e.result)] := by
    intro e he
    apply Entry.settled_toValue (fun v hv => ((fits e he).components v hv).2.1)
      (fits e he).result.2.1
  rw [free.read_indented hdepth, toValue, settled, settledItems_eq_map, List.map_map]
  congr 2
  apply List.map_congr_left hentries

/-- A transcript that was written is read as the array of its entries. Each is an object with the
entry's components, result and mark of stopping, whose members stand in the order of their keys.
The values of the entries are free of floating-point numbers and their objects are dictionaries;
they leave room for the three containers of the transcript around a component, and for the two
around a result. -/
theorem read_write (entries : List Entry)
    (hcomponents : ∀ e ∈ entries, ∀ v ∈ e.components,
      v.FloatFree ∧ v.Ordered ∧ v.depth ≤ 124)
    (hresults : ∀ e ∈ entries,
      e.result.FloatFree ∧ e.result.Ordered ∧ e.result.depth ≤ 125) :
  Value.read (write entries) = .ok (.arr (entries.map fun e =>
    .obj [("aborted", .bool e.aborted), ("components", .arr e.components), ("result", e.result)]))
  := by
  rw [write]
  apply read_indented_toValue
  intro e he
  exact ⟨hcomponents e he, hresults e he⟩

/-- As many arrays as given, one inside the other. -/
def nested : Nat → Value
  | 0 => .null
  | levels + 1 => .arr [nested levels]

theorem nested_fits (levels : Nat) :
  (nested levels).FloatFree ∧ (nested levels).Ordered ∧ (nested levels).depth ≤ levels
  := by
  induction levels with
  | zero => exact ⟨.null, .null, Nat.le_refl 0⟩
  | succ levels ih =>
    obtain ⟨free, ordered, hdepth⟩ := ih
    refine ⟨.arr (List.forall_mem_singleton.mpr free),
      .arr (List.forall_mem_singleton.mpr ordered), ?_⟩
    rw [nested, depth]
    apply Nat.succ_le_succ
    apply itemsDepth_le (List.forall_mem_singleton.mpr hdepth)

/-- Escapes, the extreme integers, empty and nested containers, and arrays as deep as the limit
allows. -/
theorem read_write_extremes :
  Value.read (write [
      ⟨[.str "\"\\/\n\t\x01\x7fé😀", .num (.int ⟨Integer.greatest, by decide, by decide⟩),
        .num (.int ⟨Integer.least, by decide, by decide⟩), nested 124],
        .obj [("", .arr []), ("\n", .obj []), ("é", .arr [.bool false, .str ""])], false⟩,
      ⟨[], nested 125, true⟩])
    = .ok (.arr [
      .obj [("aborted", .bool false),
        ("components", .arr [.str "\"\\/\n\t\x01\x7fé😀",
          .num (.int ⟨Integer.greatest, by decide, by decide⟩),
          .num (.int ⟨Integer.least, by decide, by decide⟩), nested 124]),
        ("result", .obj [("", .arr []), ("\n", .obj []), ("é", .arr [.bool false, .str ""])])],
      .obj [("aborted", .bool true), ("components", .arr []), ("result", nested 125)]])
  := by
  apply read_write
  · simp only [List.forall_mem_cons]
    refine ⟨⟨?_, ?_, ?_, nested_fits 124, by simp⟩, by simp, by simp⟩
    · exact ⟨.str _, .str _, by decide⟩
    · exact ⟨.int _, .num _, by decide⟩
    · exact ⟨.int _, .num _, by decide⟩
  · simp only [List.forall_mem_cons]
    refine ⟨⟨.obj ?_, .obj ?_ ?_, by decide⟩, nested_fits 125, by simp⟩
    · simp only [List.forall_mem_cons]
      refine ⟨.arr (by simp), .obj (by simp), .arr ?_, by simp⟩
      simp only [List.forall_mem_cons]
      exact ⟨.bool false, .str "", by simp⟩
    · simp only [List.forall_mem_cons]
      refine ⟨.arr (by simp), .obj (by simp) .nil, .arr ?_, by simp⟩
      simp only [List.forall_mem_cons]
      exact ⟨.bool false, .str "", by simp⟩
    · rw [Dict.Ascending]
      decide

end Transcript

end GuardedScript
