import GuardedScript.Proofs.Layouts

/-!
# Objects that are read

Of the members of an object that is being read, those before the current one are always a
dictionary: their keys ascend, and no key stands twice. So whatever text a value was read from,
every object in it is a dictionary.
-/

namespace GuardedScript.Value

/-- The members make an ordered object: their keys ascend, and their values are ordered. -/
structure OrderedMembers (members : Dict Value) : Prop where
  values : ∀ m ∈ members, m.2.Ordered
  ascending : members.Ascending

namespace OrderedMembers

theorem nil :
  OrderedMembers []
  := ⟨List.forall_mem_nil _, .nil⟩

/-- One more member, or another value in place of an earlier one. -/
theorem insert {members : Dict Value} (ordered : OrderedMembers members) (key : String)
    {v : Value} (hv : v.Ordered) :
  OrderedMembers (members.insert key v)
  where
  values m hm := by
    rcases Dict.eq_or_mem_of_mem_insert hm with rfl | hm
    · apply hv
    · apply ordered.values m hm
  ascending := ordered.ascending.insert key v

end OrderedMembers

/-- What an open container holds is ordered. -/
def Frame.Ordered : Frame → Prop
  | item before => ∀ v ∈ before, v.Ordered
  | member before _ => OrderedMembers before

/-- What has been read of the container that is being read is ordered. -/
def Focus.Ordered : Focus → Prop
  | afterItem items => ∀ v ∈ items, v.Ordered
  | nextKey members => OrderedMembers members
  | colon members _ => OrderedMembers members
  | afterMember members => OrderedMembers members
  | keyText members _ => OrderedMembers members
  | word _ v => v.Ordered
  | done v => v.Ordered
  | _ => True

namespace Reading

/-- All that has been read so far is ordered. -/
structure Ordered (r : Reading) : Prop where
  focus : r.focus.Ordered
  stack : ∀ frame ∈ r.stack, frame.Ordered

theorem ordered_start :
  start.Ordered
  := ⟨trivial, List.forall_mem_nil _⟩

/-- What has been read in two parts has been read in the first. -/
theorem exists_of_bind_eq_ok {α β : Type} {first : Except Fault α} {rest : α → Except Fault β}
    {b : β} (h : first >>= rest = .ok b) :
  ∃ a, first = .ok a ∧ rest a = .ok b
  := by
  cases first with
  | error fault => cases h
  | ok a => exact ⟨a, rfl, h⟩

/-- An ordered value that has been read keeps all ordered. -/
theorem ordered_deliver {v : Value} (hv : v.Ordered) {stack : List Frame}
    (hstack : ∀ frame ∈ stack, frame.Ordered) :
  (deliver v stack).Ordered
  := by
  cases stack with
  | nil => exact ⟨hv, hstack⟩
  | cons frame rest =>
    obtain ⟨hframe, hrest⟩ := List.forall_mem_cons.mp hstack
    cases frame with
    | item before => exact ⟨List.forall_mem_cons.mpr ⟨hv, hframe⟩, hrest⟩
    | member before key => exact ⟨OrderedMembers.insert hframe key hv, hrest⟩

/-- Where a value begins, nothing has been read of it. -/
theorem ordered_begin {stack : List Frame} (hstack : ∀ frame ∈ stack, frame.Ordered) {c : Char}
    {next : Reading} (h : begin stack c = .ok next) :
  next.Ordered
  := by
  have entered (focus : Focus) (hfocus : focus.Ordered) (h : enter focus stack = .ok next) :
      next.Ordered := by
    rw [enter] at h
    split at h
    · cases h
      exact ⟨hfocus, hstack⟩
    · cases h
  rw [begin.eq_def] at h
  split at h
  · apply entered .firstItem trivial h
  · apply entered .firstKey trivial h
  · cases h
    exact ⟨trivial, hstack⟩
  · cases h
    exact ⟨.bool true, hstack⟩
  · cases h
    exact ⟨.bool false, hstack⟩
  · cases h
    exact ⟨.null, hstack⟩
  · split at h
    · cases h
      exact ⟨trivial, hstack⟩
    · cases h

/-- Where a value has ended, all that has been read stays. -/
theorem ordered_resume {r next : Reading} (ordered : r.Ordered) {c : Char}
    (h : r.resume c = .ok next) :
  next.Ordered
  := by
  obtain ⟨hfocus, hstack⟩ := ordered
  rw [resume] at h
  split at h
  · cases h
    exact ⟨hfocus, hstack⟩
  · split at h
    · rename_i items heq
      rw [heq] at hfocus
      split at h
      · cases h
        exact ⟨trivial, List.forall_mem_cons.mpr ⟨hfocus, hstack⟩⟩
      · split at h
        · cases h
          apply ordered_deliver (.arr _) hstack
          intro v hv
          apply hfocus v (List.mem_reverse.mp hv)
        · cases h
    · rename_i members heq
      rw [heq] at hfocus
      split at h
      · cases h
        exact ⟨hfocus, hstack⟩
      · split at h
        · cases h
          apply ordered_deliver (.obj hfocus.values hfocus.ascending) hstack
        · cases h
    · cases h

/-- A character keeps all that has been read ordered. -/
theorem ordered_step {r next : Reading} (ordered : r.Ordered) {c : Char}
    (h : r.step c = .ok next) :
  next.Ordered
  := by
  have hstack := ordered.stack
  have hfocus := ordered.focus
  rw [step.eq_def] at h
  split at h
  · split at h
    · cases h
      apply ordered
    · apply ordered_begin hstack h
  · split at h
    · cases h
      apply ordered
    · split at h
      · cases h
        apply ordered_deliver (.arr (List.forall_mem_nil _)) hstack
      · have hitems : (Frame.item []).Ordered := List.forall_mem_nil _
        apply ordered_begin (List.forall_mem_cons.mpr ⟨hitems, hstack⟩) h
  · split at h
    · cases h
      apply ordered
    · split at h
      · cases h
        apply ordered_deliver (.obj (List.forall_mem_nil _) .nil) hstack
      · split at h
        · cases h
          exact ⟨OrderedMembers.nil, hstack⟩
        · cases h
  · rename_i members heq
    rw [heq] at hfocus
    split at h
    · cases h
      apply ordered
    · split at h
      · cases h
        exact ⟨hfocus, hstack⟩
      · cases h
  · rename_i members text heq
    rw [heq] at hfocus
    obtain ⟨read, -, h⟩ := exists_of_bind_eq_ok h
    cases read with
    | inl longer =>
      cases h
      exact ⟨hfocus, hstack⟩
    | inr key =>
      cases h
      exact ⟨hfocus, hstack⟩
  · rename_i members key heq
    rw [heq] at hfocus
    split at h
    · cases h
      apply ordered
    · split at h
      · cases h
        exact ⟨trivial, List.forall_mem_cons.mpr ⟨hfocus, hstack⟩⟩
      · cases h
  · obtain ⟨read, -, h⟩ := exists_of_bind_eq_ok h
    cases read with
    | inl longer =>
      cases h
      exact ⟨trivial, hstack⟩
    | inr s =>
      cases h
      apply ordered_deliver (.str s) hstack
  · obtain ⟨read, -, h⟩ := exists_of_bind_eq_ok h
    cases read with
    | some longer =>
      cases h
      exact ⟨trivial, hstack⟩
    | none =>
      obtain ⟨n, -, h⟩ := exists_of_bind_eq_ok h
      apply ordered_resume (ordered_deliver (.num n) hstack) h
  · rename_i rest v heq
    rw [heq] at hfocus
    split at h
    · cases h
    · split at h
      · cases h
        apply ordered_deliver hfocus hstack
      · cases h
    · split at h
      · cases h
        exact ⟨hfocus, hstack⟩
      · cases h
  · apply ordered_resume ordered h
  · apply ordered_resume ordered h
  · apply ordered_resume ordered h

/-- A text keeps all that has been read ordered. -/
theorem ordered_feed {r next : Reading} (ordered : r.Ordered) {text : List Char}
    (h : r.feed text = .ok next) :
  next.Ordered
  := by
  induction text generalizing r with
  | nil =>
    cases h
    apply ordered
  | cons c rest ih =>
    rw [feed_cons] at h
    obtain ⟨after, hstep, hrest⟩ := exists_of_bind_eq_ok h
    apply ih (ordered_step ordered hstep) hrest

end Reading

/-- Every object in a value that was read is a dictionary. -/
theorem ordered_of_read {text : List Char} {v : Value} (h : read text = .ok v) :
  v.Ordered
  := by
  obtain ⟨r, hfeed, hfinish⟩ := Reading.exists_of_bind_eq_ok h
  have hfocus := (Reading.ordered_feed Reading.ordered_start hfeed).focus
  rw [Reading.finish.eq_def] at hfinish
  split at hfinish
  · rename_i found heq
    cases hfinish
    rw [heq] at hfocus
    apply hfocus
  · obtain ⟨n, -, hnumber⟩ := Reading.exists_of_bind_eq_ok hfinish
    split at hnumber
    · cases hnumber
      apply Ordered.num
    · cases hnumber
  · cases hfinish

end GuardedScript.Value
