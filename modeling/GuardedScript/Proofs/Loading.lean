import GuardedScript.Bindings
import GuardedScript.Proofs.RoundTrip
import Mathlib.Data.List.Induction

/-!
# Bindings that are loaded

The text of an object gives the bindings of its members: under each key the value that stands last
under it, wherever it stands and whatever blanks are between the tokens. Keys are compared after
they have been read, so it does not matter how they are written. The compact form of a value is one
of its layouts, and bindings that were written in it are loaded as they were.
-/

universe u

namespace GuardedScript

/-! ### Dictionaries of lists -/

namespace Dict

variable {α : Type u}

/-- The value that stands last under a key. -/
def last? (key : String) (entries : List (String × α)) : Option α :=
  (entries.filter fun entry => entry.1 = key).getLast?.map Prod.snd

theorem last?_concat (key : String) (front : List (String × α)) (entry : String × α) :
  last? key (front ++ [entry]) = if entry.1 = key then some entry.2 else last? key front
  := by
  rw [last?, List.filter_append]
  split
  · rename_i hkey
    simp [hkey]
  · rename_i hkey
    simp [hkey, last?]

/-- In the dictionary of a list, a key has the value that stands last under it. -/
theorem get?_ofList (key : String) (entries : List (String × α)) :
  (ofList entries).get? key = last? key entries
  := by
  induction entries using List.reverseRecOn with
  | nil => rfl
  | append_singleton front entry ih =>
    have hofList : ofList (front ++ [entry]) = (ofList front).insert entry.1 entry.2 := by
      rw [ofList, List.foldl_append]
      rfl
    rw [hofList, last?_concat]
    split
    · rename_i hkey
      rw [← hkey, get?_insert_self]
    · rename_i hkey
      rw [get?_insert_of_ne hkey, ih]

end Dict

namespace Value

/-! ### The compact form -/

mutual

/-- The compact form of a value is a layout of it. -/
theorem layout_compact : (v : Value) → Layout v.tokens v.compact
  | null => by
    rw [tokens, compact]
    apply layout_single
  | bool b => by
    rw [tokens, compact]
    apply layout_single
  | num n => by
    rw [tokens, compact]
    apply layout_single
  | str s => by
    rw [tokens, compact]
    apply layout_single
  | arr [] => by
    rw [tokens, compact]
    apply Layout.bare ['['] (layout_single [']'])
  | arr (v :: rest) => by
    rw [tokens, compact]
    apply Layout.bare ['['] ((layout_compact v).append (layout_compactItems rest))
  | obj [] => by
    rw [tokens, compact]
    apply Layout.bare ['\x7b'] (layout_single ['\x7d'])
  | obj ((k, v) :: rest) => by
    rw [tokens, compact]
    apply Layout.bare ['\x7b']
    apply Layout.bare (quoted k)
    apply Layout.bare [':'] ((layout_compact v).append (layout_compactMembers rest))

theorem layout_compactItems : (items : List Value) → Layout (itemTokens items) (compactItems items)
  | [] => by
    rw [itemTokens, compactItems]
    apply layout_single
  | v :: rest => by
    rw [itemTokens, compactItems]
    apply Layout.bare [','] ((layout_compact v).append (layout_compactItems rest))

theorem layout_compactMembers : (members : List (String × Value)) →
    Layout (memberTokens members) (compactMembers members)
  | [] => by
    rw [memberTokens, compactMembers]
    apply layout_single
  | (k, v) :: rest => by
    rw [memberTokens, compactMembers]
    apply Layout.bare [',']
    apply Layout.bare (quoted k)
    apply Layout.bare [':'] ((layout_compact v).append (layout_compactMembers rest))

end

/-- The deepest member is no deeper than a bound on all of them. -/
theorem membersDepth_le {members : List (String × Value)} {bound : Nat}
    (h : ∀ m ∈ members, m.2.depth ≤ bound) :
  membersDepth members ≤ bound
  := by
  induction members with
  | nil => apply Nat.zero_le
  | cons m rest ih =>
    obtain ⟨hm, hrest⟩ := List.forall_mem_cons.mp h
    rw [membersDepth]
    apply Nat.max_le.mpr ⟨hm, ih hrest⟩

end Value

namespace Bindings

open Value Reading

/-- Every layout of an object whose members leave room for it, with any blanks behind it, gives the
dictionary of the members. -/
theorem load_of_layout {pairs : List (String × Value)}
    (fits : ∀ m ∈ pairs, m.2.FloatFree ∧ m.2.Ordered ∧ m.2.depth ≤ 126) {text spaces : List Char}
    (layout : Layout (obj pairs).tokens text) (hspaces : Spaces spaces) :
  load (text ++ spaces) = .ok (Dict.ofList pairs)
  := by
  have free : (obj pairs).FloatFree := .obj fun m hm => (fits m hm).1
  have hdepth : (obj pairs).depth ≤ maxDepth := by
    rw [depth, maxDepth]
    apply Nat.succ_le_succ (membersDepth_le fun m hm => (fits m hm).2.2)
  have hmember : ∀ m ∈ pairs, (m.1, m.2.settled) = m := by
    intro m hm
    rw [(fits m hm).2.1.settled_eq]
  have hsettled : settledMembers pairs = pairs := by
    rw [settledMembers_eq_map]
    apply (List.map_congr_left hmember).trans (List.map_id' pairs)
  rw [load, free.read_layout hdepth layout hspaces, settled, hsettled]

/-- The text of an object is loaded as the bindings that its last members give. The members have any
keys, equal ones among them, and values without floating-point numbers that are at most 126 deep;
any blanks may stand between the tokens and at either end. Each key is bound to the value that
stands last under it, and no other key is bound. So bindings that are written in the compact form
are loaded as they were. -/
theorem load_last_wins (pairs : List (String × Value))
    (fits : ∀ m ∈ pairs, m.2.FloatFree ∧ m.2.Ordered ∧ m.2.depth ≤ 126) :
  (∀ text spaces, Layout (obj pairs).tokens text → Spaces spaces →
      ∃ d, load (text ++ spaces) = .ok d ∧ d.Ascending ∧ ∀ key, d.get? key = Dict.last? key pairs)
    ∧ (Dict.Ascending pairs → load (obj pairs).compact = .ok pairs)
  := by
  constructor
  · intro text spaces layout hspaces
    use Dict.ofList pairs, load_of_layout fits layout hspaces, Dict.ascending_ofList pairs
    intro key
    apply Dict.get?_ofList
  · intro ascending
    have hload := load_of_layout fits (layout_compact (obj pairs)) spaces_nil
    rw [List.append_nil, Dict.ofList_of_ascending ascending] at hload
    apply hload

/-- A key that stands twice, in a text on several lines with blanks behind it; and bindings with a
key that is written with an escape, the least integer, and arrays as deep as the limit allows. -/
theorem load_last_wins_repeated :
  let least : Value := .num (.int ⟨Integer.least, by decide, by decide⟩)
  let repeated : List (String × Value) :=
    [("\n", .null), ("", Transcript.nested 126), ("\n", .str "\"é")]
  let bindings : List (String × Value) := [("\n", least), ("a", Transcript.nested 126)]
  (∃ d, load ((obj repeated).indented 0 ++ [' ', '\n', '\t']) = .ok d
      ∧ d.get? "\n" = some (.str "\"é") ∧ d.get? "" = some (Transcript.nested 126)
      ∧ d.get? "n" = none)
    ∧ load (obj bindings).compact = .ok bindings
  := by
  intro least repeated bindings
  have hspaces : Spaces [' ', '\n', '\t'] := by simp [Spaces, Reading.isSpace]
  constructor
  · have fits : ∀ m ∈ repeated, m.2.FloatFree ∧ m.2.Ordered ∧ m.2.depth ≤ 126 := by
      simp only [repeated, List.forall_mem_cons]
      exact ⟨⟨.null, .null, by decide⟩, Transcript.nested_fits 126, ⟨.str _, .str _, by decide⟩,
        by simp⟩
    obtain ⟨d, hload, -, hget⟩ :=
      (load_last_wins repeated fits).1 _ _ (layout_indented 0 (obj repeated)) hspaces
    exact ⟨d, hload, (hget "\n").trans rfl, (hget "").trans rfl, (hget "n").trans rfl⟩
  · have fits : ∀ m ∈ bindings, m.2.FloatFree ∧ m.2.Ordered ∧ m.2.depth ≤ 126 := by
      simp only [bindings, List.forall_mem_cons]
      exact ⟨⟨.int _, .num _, by decide⟩, Transcript.nested_fits 126, by simp⟩
    apply (load_last_wins bindings fits).2
    rw [Dict.Ascending, List.pairwise_pair]
    change "\n" < "a"
    decide

end Bindings

end GuardedScript
