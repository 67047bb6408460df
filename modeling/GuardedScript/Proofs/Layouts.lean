import GuardedScript.Proofs.Scalars

/-!
# Layouts of values

The text of a value is a row of *tokens*: brackets, commas, colons, and the words, numbers and
strings between them. A *layout* of tokens has any blanks before each of them. Every layout of a
value is read as that value, except that the members of an object are put in order, and that of
members under one key the last counts. What was written differently for the eye is therefore read
alike.

Floating-point numbers are left out here: reading them rounds.
-/

namespace GuardedScript.Value

/-! ### Tokens -/

mutual

/-- The tokens of a value. -/
def tokens : Value → List (List Char)
  | null => ["null".toList]
  | bool b => [writeBool b]
  | num n => [writeNumber n]
  | str s => [quoted s]
  | arr [] => [['['], [']']]
  | arr (v :: rest) => ['['] :: (tokens v ++ itemTokens rest)
  | obj [] => [['\x7b'], ['\x7d']]
  | obj ((k, v) :: rest) => ['\x7b'] :: quoted k :: [':'] :: (tokens v ++ memberTokens rest)

/-- The tokens of the items after the first, and of the end of the array. -/
def itemTokens : List Value → List (List Char)
  | [] => [[']']]
  | v :: rest => [','] :: (tokens v ++ itemTokens rest)

/-- The tokens of the members after the first, and of the end of the object. -/
def memberTokens : List (String × Value) → List (List Char)
  | [] => [['\x7d']]
  | (k, v) :: rest => [','] :: quoted k :: [':'] :: (tokens v ++ memberTokens rest)

end

theorem tokens_ne_nil (v : Value) :
  v.tokens ≠ []
  := by
  rw [tokens.eq_def]
  split <;> apply List.cons_ne_nil

/-- A text of nothing but blanks. -/
def Spaces (text : List Char) : Prop :=
  ∀ c ∈ text, Reading.isSpace c = true

theorem spaces_nil :
  Spaces []
  := by
  intro c hc
  cases hc

/-- A text with the given tokens, and any blanks before each of them. -/
inductive Layout : List (List Char) → List Char → Prop
  | nil : Layout [] []
  | cons {spaces : List Char} (hspaces : Spaces spaces) (token : List Char)
    {tokens : List (List Char)} {text : List Char} (rest : Layout tokens text) :
    Layout (token :: tokens) (spaces ++ (token ++ text))

namespace Layout

/-- A token may stand without blanks before it. -/
theorem bare (token : List Char) {tokens : List (List Char)} {text : List Char}
    (rest : Layout tokens text) :
  Layout (token :: tokens) (token ++ text)
  := by
  apply cons spaces_nil token rest

/-- More blanks may stand before the first token. -/
theorem pad {spaces : List Char} (hspaces : Spaces spaces) {tokens : List (List Char)}
    {text : List Char} (h : Layout tokens text) (hne : tokens ≠ []) :
  Layout tokens (spaces ++ text)
  := by
  cases h with
  | nil => apply absurd rfl hne
  | cons hspaces' token rest =>
    rw [← List.append_assoc]
    apply cons _ token rest
    intro c hc
    rcases List.mem_append.mp hc with hc | hc
    · apply hspaces c hc
    · apply hspaces' c hc

theorem append {first second : List (List Char)} {text text' : List Char}
    (hfirst : Layout first text) (hsecond : Layout second text') :
  Layout (first ++ second) (text ++ text')
  := by
  induction hfirst with
  | nil => apply hsecond
  | cons hspaces token rest ih =>
    rw [List.append_assoc, List.append_assoc]
    apply cons hspaces token ih

/-- A layout of two rows of tokens is a layout of the first and one of the second. -/
theorem split {first second : List (List Char)} {text : List Char}
    (h : Layout (first ++ second) text) :
  ∃ text₁ text₂, text = text₁ ++ text₂ ∧ Layout first text₁ ∧ Layout second text₂
  := by
  induction first generalizing text with
  | nil => exact ⟨[], text, rfl, .nil, h⟩
  | cons token rest ih =>
    cases h with
    | cons hspaces _ hrest =>
      obtain ⟨text₁, text₂, rfl, hfirst, hsecond⟩ := ih hrest
      refine ⟨_, text₂, ?_, .cons hspaces token hfirst, hsecond⟩
      simp only [List.append_assoc]

end Layout

/-! ### Values that are read back -/

/-- No floating-point number is in the value. -/
inductive FloatFree : Value → Prop
  | null : FloatFree null
  | bool (b : Bool) : FloatFree (bool b)
  | int (n : Integer) : FloatFree (num (.int n))
  | str (s : String) : FloatFree (str s)
  | arr {items : List Value} (hitems : ∀ v ∈ items, FloatFree v) : FloatFree (arr items)
  | obj {members : List (String × Value)} (hmembers : ∀ m ∈ members, FloatFree m.2) :
    FloatFree (obj members)

/-- The members of every object in the value ascend, so that each is a dictionary. -/
inductive Ordered : Value → Prop
  | null : Ordered null
  | bool (b : Bool) : Ordered (bool b)
  | num (n : Number) : Ordered (num n)
  | str (s : String) : Ordered (str s)
  | arr {items : List Value} (hitems : ∀ v ∈ items, Ordered v) : Ordered (arr items)
  | obj {members : List (String × Value)} (hmembers : ∀ m ∈ members, Ordered m.2)
    (ascending : Dict.Ascending members) : Ordered (obj members)

mutual

/-- The value with a dictionary in place of the members of every object. -/
def settled : Value → Value
  | arr items => arr (settledItems items)
  | obj members => obj (Dict.ofList (settledMembers members))
  | v => v

/-- The items of an array, settled. -/
def settledItems : List Value → List Value
  | [] => []
  | v :: rest => settled v :: settledItems rest

/-- The members of an object, settled. -/
def settledMembers : List (String × Value) → List (String × Value)
  | [] => []
  | (k, v) :: rest => (k, settled v) :: settledMembers rest

end

theorem settledItems_eq_map (items : List Value) :
  settledItems items = items.map settled
  := by
  induction items with
  | nil => rfl
  | cons v rest ih => rw [settledItems, ih, List.map_cons]

theorem settledMembers_eq_map (members : List (String × Value)) :
  settledMembers members = members.map fun m => (m.1, m.2.settled)
  := by
  induction members with
  | nil => rfl
  | cons m rest ih => rw [settledMembers, ih, List.map_cons]

/-- A value whose objects are dictionaries is settled. -/
theorem Ordered.settled_eq {v : Value} (ordered : v.Ordered) :
  v.settled = v
  := by
  induction ordered with
  | null => rfl
  | bool b => rfl
  | num n => rfl
  | str s => rfl
  | @arr items hitems ih =>
    have hsame : items.map settled = items := (List.map_congr_left ih).trans (List.map_id' items)
    rw [settled, settledItems_eq_map, hsame]
  | @obj members hmembers ascending ih =>
    have hmember : ∀ m ∈ members, (m.1, m.2.settled) = m := by
      intro m hm
      rw [ih m hm]
    have hsame : members.map (fun m => (m.1, m.2.settled)) = members :=
      (List.map_congr_left hmember).trans (List.map_id' members)
    rw [settled, settledMembers_eq_map, hsame, Dict.ofList_of_ascending ascending]

namespace Reading

variable {stack : List Frame}

/-! ### Reading on -/

theorem feed_cons_of_ok {r next : Reading} {c : Char} (h : r.step c = .ok next)
    (text : List Char) :
  r.feed (c :: text) = next.feed text
  := by
  rw [feed_cons, h]
  rfl

theorem feed_append_of_ok {r next : Reading} {first : List Char} (h : r.feed first = .ok next)
    (second : List Char) :
  r.feed (first ++ second) = next.feed second
  := by
  rw [feed_append, h]
  rfl

/-- The reading goes on with a character. -/
def GoesOn (r : Reading) (c : Char) (next : Reading) : Prop :=
  r.step c = .ok next

theorem feed_of_through {r next : Reading} {text : List Char}
    (h : Through GoesOn r text next) :
  r.feed text = .ok next
  := by
  induction h with
  | nil r => rfl
  | cons first rest ih => rw [feed_cons_of_ok first, ih]

/-- Blanks change nothing. -/
def Patient (r : Reading) : Prop :=
  ∀ c, isSpace c = true → r.step c = .ok r

theorem Patient.feed {r : Reading} (patient : r.Patient) {spaces : List Char}
    (hspaces : Spaces spaces) (text : List Char) :
  r.feed (spaces ++ text) = r.feed text
  := by
  induction spaces with
  | nil => rfl
  | cons c rest ih =>
    obtain ⟨hc, hrest⟩ := List.forall_mem_cons.mp hspaces
    rw [List.cons_append, feed_cons_of_ok (patient c hc), ih hrest]

/-- A mark is read after the blanks that stand before it. -/
theorem Patient.feed_mark {r : Reading} (patient : r.Patient) {c : Char}
    {tokens : List (List Char)} {text : List Char} (layout : Layout ([c] :: tokens) text) :
  ∃ rest, Layout tokens rest ∧ r.feed text = r.feed (c :: rest)
  := by
  cases layout with
  | cons hspaces _ hrest => exact ⟨_, hrest, patient.feed hspaces _⟩

theorem step_deliver (v : Value) (stack : List Frame) (c : Char) :
  (deliver v stack).step c = (deliver v stack).resume c
  := by
  cases stack with
  | nil => rfl
  | cons frame rest =>
    cases frame with
    | item before => rfl
    | member before key => rfl

theorem patient_deliver (v : Value) (stack : List Frame) :
  (deliver v stack).Patient
  := by
  intro c hc
  rw [step_deliver, resume, if_pos hc]

theorem patient_colon (members : Dict Value) (key : String) :
  Patient ⟨.colon members key, stack⟩
  := by
  intro c hc
  simp only [step, hc, if_true]

/-! ### Where a value begins -/

/-- A value may begin inside the given containers. -/
inductive Awaits : List Frame → Reading → Prop
  | value (stack : List Frame) : Awaits stack ⟨.value, stack⟩
  | firstItem (outer : List Frame) : Awaits (.item [] :: outer) ⟨.firstItem, outer⟩

theorem Awaits.patient {r : Reading} (awaits : Awaits stack r) :
  r.Patient
  := by
  intro c hc
  cases awaits with
  | value => simp only [step, hc, if_true]
  | firstItem outer => simp only [step, hc, if_true]

/-- The first character of a value is neither a blank nor the end of an array. -/
theorem Awaits.step {r next : Reading} (awaits : Awaits stack r) {c : Char}
    (hc : isSpace c = false) (hend : c ≠ ']') (hbegin : begin stack c = .ok next) :
  r.step c = .ok next
  := by
  cases awaits with
  | value => simp [Reading.step, hc, hbegin]
  | firstItem outer => simp [Reading.step, hc, hend, hbegin]

/-- A container opens where a value may begin. -/
theorem Awaits.feed_mark {r next : Reading} (awaits : Awaits stack r) {c : Char}
    (hc : isSpace c = false) (hend : c ≠ ']') (hbegin : begin stack c = .ok next)
    {tokens : List (List Char)} {text : List Char} (layout : Layout ([c] :: tokens) text) :
  ∃ rest, Layout tokens rest ∧ r.feed text = next.feed rest
  := by
  obtain ⟨rest, hrest, hfeed⟩ := awaits.patient.feed_mark layout
  use rest, hrest
  rw [hfeed, feed_cons_of_ok (awaits.step hc hend hbegin)]

/-- A key may begin, in an object with the given members before it. -/
inductive AwaitsKey (stack : List Frame) : Dict Value → Reading → Prop
  | firstKey : AwaitsKey stack [] ⟨.firstKey, stack⟩
  | nextKey (members : Dict Value) : AwaitsKey stack members ⟨.nextKey members, stack⟩

theorem AwaitsKey.patient {members : Dict Value} {r : Reading}
    (awaits : AwaitsKey stack members r) :
  r.Patient
  := by
  intro c hc
  cases awaits with
  | firstKey => simp only [step, hc, if_true]
  | nextKey => simp only [step, hc, if_true]

theorem AwaitsKey.feed {members : Dict Value} {r : Reading} (awaits : AwaitsKey stack members r)
    {spaces : List Char} (hspaces : Spaces spaces) (text : List Char) :
  r.feed (spaces ++ '"' :: text) = feed ⟨.keyText members ⟨[], .none⟩, stack⟩ text
  := by
  rw [awaits.patient.feed hspaces]
  cases awaits with
  | firstKey => apply feed_cons_of_ok rfl
  | nextKey => apply feed_cons_of_ok rfl

/-! ### Where a value has ended -/

/-- A character that may follow a value: a blank, a comma or the end of a container. -/
def isEnd (c : Char) : Bool :=
  isSpace c || c = ',' || c = ']' || c = '\x7d'

theorem step_ofInt_of_isEnd (n : Int) {c : Char} (h : isEnd c = true) :
  (Numeral.ofInt n).step c = .ok none
  := by
  simp only [isEnd, isSpace, Bool.or_eq_true, decide_eq_true_eq, or_assoc] at h
  rcases h with rfl | rfl | rfl | rfl | rfl | rfl | rfl <;>
    apply Numeral.step_ofInt n rfl (by decide)

/-- The value has been read inside the given containers. The end of an integer shows only at the
next character. -/
inductive Holds (stack : List Frame) : Value → Reading → Prop
  | delivered (v : Value) : Holds stack v (deliver v stack)
  | integer (n : Integer) : Holds stack (.num (.int n)) ⟨.number (.ofInt n.val), stack⟩

theorem Holds.step {v : Value} {r : Reading} (holds : Holds stack v r) {c : Char}
    (hc : isEnd c = true) :
  r.step c = (deliver v stack).step c
  := by
  cases holds with
  | delivered => rfl
  | integer n =>
    simp only [Reading.step, step_ofInt_of_isEnd n.val hc, Numeral.toNumber_ofInt]
    apply (step_deliver _ _ _).symm

theorem Holds.finish {v : Value} {r : Reading} (holds : Holds [] v r) :
  r.finish = .ok v
  := by
  cases holds with
  | delivered => rfl
  | integer n =>
    simp only [Reading.finish, Numeral.toNumber_ofInt]
    rfl

/-- The mark that follows a value is read after the value has been delivered, whatever blanks stand
before it. -/
theorem Holds.feed_mark {v : Value} {r : Reading} (holds : Holds stack v r) {c : Char}
    (hc : isEnd c = true) {tokens : List (List Char)} {text : List Char}
    (layout : Layout ([c] :: tokens) text) :
  ∃ rest, Layout tokens rest ∧ r.feed text = (deliver v stack).feed (c :: rest)
  := by
  cases layout with
  | @cons spaces hspaces _ _ rest hrest =>
    use rest, hrest
    rw [List.singleton_append, ← (patient_deliver v stack).feed hspaces, feed.eq_1, feed.eq_1]
    -- Blank or not, the first character is one that may follow a value.
    cases spaces with
    | nil => simp only [List.nil_append, List.foldlM_cons, holds.step hc]
    | cons first more =>
      have hfirst : isEnd first = true := by
        simp [isEnd, hspaces first List.mem_cons_self]
      simp only [List.cons_append, List.foldlM_cons, holds.step hfirst]

/-! ### Strings -/

/-- The rest of a string is read up to its closing quote. -/
theorem feed_quoted {focus : Quoted → Focus} {next : Reading} {s : String} {text : List Char}
    (hstep : ∀ q c q', q.step c = .ok (.inl q') →
      step ⟨focus q, stack⟩ c = .ok ⟨focus q', stack⟩)
    (hclose : ∀ q, q.step '"' = .ok (.inr s) → step ⟨focus q, stack⟩ '"' = .ok next) :
  feed ⟨focus ⟨[], .none⟩, stack⟩ (s.toList.flatMap escape ++ '"' :: text) = next.feed text
  := by
  have hthrough : Through GoesOn ⟨focus ⟨[], .none⟩, stack⟩ (s.toList.flatMap escape)
      ⟨focus ⟨s.toList.reverse ++ [], .none⟩, stack⟩ :=
    (Quoted.through_flatMap_escape [] s.toList).map (fun q => Reading.mk (focus q) stack) hstep
  rw [feed_append_of_ok (feed_of_through hthrough), List.append_nil]
  apply feed_cons_of_ok (hclose _ _)
  rw [Quoted.step_close, String.ofList_toList]

theorem feed_text (s : String) (text : List Char) :
  feed ⟨.text ⟨[], .none⟩, stack⟩ (s.toList.flatMap escape ++ '"' :: text)
    = (deliver (.str s) stack).feed text
  := by
  apply feed_quoted
  · intro q c q' h
    simp only [step, h]
    rfl
  · intro q h
    simp only [step, h]
    rfl

theorem feed_keyText (members : Dict Value) (key : String) (text : List Char) :
  feed ⟨.keyText members ⟨[], .none⟩, stack⟩ (key.toList.flatMap escape ++ '"' :: text)
    = feed ⟨.colon members key, stack⟩ text
  := by
  apply feed_quoted
  · intro q c q' h
    simp only [step, h]
    rfl
  · intro q h
    simp only [step, h]
    rfl

end Reading

/-! ### Reading a layout -/

open Reading

/-- Every layout of `v` is read as `w`, inside any containers that leave room for the depth
of `v`. -/
def ReadsAs (v w : Value) : Prop :=
  ∀ ⦃stack : List Frame⦄ ⦃r : Reading⦄ ⦃text : List Char⦄, v.depth + stack.length ≤ maxDepth →
    Awaits stack r → Layout v.tokens text → ∃ next, r.feed text = .ok next ∧ Holds stack w next

/-- A value with one token is read as the token is. -/
theorem readsAs_of_token {v w : Value} {c : Char} {token : List Char}
    (htokens : v.tokens = [c :: token]) (hc : isSpace c = false) (hend : c ≠ ']')
    (hread : ∀ stack, ∃ first next, begin stack c = .ok first ∧ first.feed token = .ok next
      ∧ Holds stack w next) :
  v.ReadsAs w
  := by
  intro stack r text room awaits layout
  rw [htokens] at layout
  cases layout with
  | cons hspaces _ rest =>
    cases rest
    obtain ⟨first, next, hbegin, hfeed, holds⟩ := hread stack
    use next
    constructor
    · rw [List.append_nil, awaits.patient.feed hspaces,
        feed_cons_of_ok (awaits.step hc hend hbegin), hfeed]
    · apply holds

theorem readsAs_null :
  null.ReadsAs null
  := by
  apply readsAs_of_token rfl (by decide) (by decide)
  intro stack
  exact ⟨_, _, rfl, rfl, .delivered null⟩

theorem readsAs_bool (b : Bool) :
  (bool b).ReadsAs (bool b)
  := by
  cases b with
  | true =>
    apply readsAs_of_token rfl (by decide) (by decide)
    intro stack
    exact ⟨_, _, rfl, rfl, .delivered (bool true)⟩
  | false =>
    apply readsAs_of_token rfl (by decide) (by decide)
    intro stack
    exact ⟨_, _, rfl, rfl, .delivered (bool false)⟩

/-- A character that begins a numeral begins nothing else. -/
theorem begin_of_start? {c : Char} {first : Numeral} (h : Numeral.start? c = some first)
    (stack : List Frame) :
  begin stack c = .ok ⟨.number first, stack⟩
  := by
  rw [begin.eq_def]
  split
  · cases h
  · cases h
  · cases h
  · cases h
  · cases h
  · cases h
  · rw [h]

theorem readsAs_int (n : Integer) :
  (num (.int n)).ReadsAs (num (.int n))
  := by
  obtain ⟨c, rest, first, hwritten, hstart, hthrough⟩ := Numeral.through_writeInt n.val
  have htokens : (num (.int n)).tokens = [c :: rest] := by rw [tokens, writeNumber, hwritten]
  have hspace : isSpace c = false := by
    rw [Bool.eq_false_iff]
    intro hspace
    simp only [isSpace, Bool.or_eq_true, decide_eq_true_eq] at hspace
    rcases hspace with ((rfl | rfl) | rfl) | rfl <;> cases hstart
  have hend : c ≠ ']' := by
    rintro rfl
    cases hstart
  apply readsAs_of_token htokens hspace hend
  intro stack
  have hnumber : Through GoesOn ⟨.number first, stack⟩ rest
      ⟨.number (.ofInt n.val), stack⟩ := by
    apply hthrough.map (fun numeral => Reading.mk (.number numeral) stack)
    intro numeral c longer h
    have hstep : numeral.step c = .ok (some longer) := h
    simp only [GoesOn, step, hstep]
    rfl
  exact ⟨_, _, begin_of_start? hstart stack, feed_of_through hnumber, .integer n⟩

theorem readsAs_str (s : String) :
  (str s).ReadsAs (str s)
  := by
  apply readsAs_of_token rfl (by decide) (by decide)
  intro stack
  exact ⟨_, _, rfl, feed_text s [], .delivered (str s)⟩

/-! ### Reading arrays and objects -/

/-- The items after one that has been read, up to the end of the array. -/
theorem feed_items {items : List Value} (hitems : ∀ v ∈ items, v.ReadsAs v.settled)
    {stack : List Frame} (room : itemsDepth items + (stack.length + 1) ≤ maxDepth)
    {before : List Value} {v : Value} {r : Reading} (holds : Holds (.item before :: stack) v r)
    {text : List Char} (layout : Layout (itemTokens items) text) :
  r.feed text = .ok (deliver (.arr (before.reverse ++ v :: items.map settled)) stack)
  := by
  induction items generalizing before v r text with
  | nil =>
    rw [itemTokens] at layout
    obtain ⟨rest, hrest, hfeed⟩ := holds.feed_mark rfl layout
    cases hrest
    rw [hfeed]
    simp [feed, deliver, step, resume, isSpace]
  | cons w items ih =>
    obtain ⟨hw, hitems⟩ := List.forall_mem_cons.mp hitems
    rw [itemsDepth] at room
    rw [itemTokens] at layout
    obtain ⟨rest, hrest, hfeed⟩ := holds.feed_mark rfl layout
    obtain ⟨text₁, text₂, rfl, hfirst, hsecond⟩ := hrest.split
    have hroom : w.depth + (Frame.item (v :: before) :: stack).length ≤ maxDepth := by
      rw [List.length_cons]
      omega
    obtain ⟨next, hnext, hholds⟩ := hw hroom (.value _) hfirst
    have hcomma : (deliver v (.item before :: stack)).step ','
        = .ok ⟨.value, .item (v :: before) :: stack⟩ := rfl
    rw [hfeed, feed_cons_of_ok hcomma, feed_append_of_ok hnext,
      ih hitems (by omega) hholds hsecond]
    simp

/-- A member: its key, a colon and its value. -/
theorem feed_member {v w : Value} (hv : v.ReadsAs w) {stack : List Frame}
    (room : v.depth + (stack.length + 1) ≤ maxDepth) {members : Dict Value} {r : Reading}
    (awaits : AwaitsKey stack members r) {key : String} {text : List Char}
    (layout : Layout (quoted key :: [':'] :: v.tokens) text) :
  ∃ next, r.feed text = .ok next ∧ Holds (.member members key :: stack) w next
  := by
  cases layout with
  | cons hspaces _ hrest =>
    obtain ⟨rest, hvalue, hcolon⟩ := (patient_colon members key).feed_mark hrest
    have hroom : v.depth + (Frame.member members key :: stack).length ≤ maxDepth := room
    obtain ⟨next, hnext, holds⟩ := hv hroom (.value _) hvalue
    use next
    constructor
    · rw [quoted, List.cons_append, awaits.feed hspaces, List.append_assoc,
        List.singleton_append, feed_keyText, hcolon, feed_cons_of_ok rfl, hnext]
    · apply holds

/-- The members after one that has been read, up to the end of the object. -/
theorem feed_members {members : List (String × Value)}
    (hmembers : ∀ m ∈ members, m.2.ReadsAs m.2.settled) {stack : List Frame}
    (room : membersDepth members + (stack.length + 1) ≤ maxDepth) {before : Dict Value}
    {key : String} {v : Value} {r : Reading} (holds : Holds (.member before key :: stack) v r)
    {text : List Char} (layout : Layout (memberTokens members) text) :
  r.feed text = .ok (deliver (.obj (members.foldl
    (fun d m => Dict.insert m.1 m.2.settled d) (before.insert key v))) stack)
  := by
  induction members generalizing before key v r text with
  | nil =>
    rw [memberTokens] at layout
    obtain ⟨rest, hrest, hfeed⟩ := holds.feed_mark rfl layout
    cases hrest
    rw [hfeed]
    simp [feed, deliver, step, resume, isSpace]
  | cons m members ih =>
    obtain ⟨k, w⟩ := m
    obtain ⟨hw, hmembers⟩ := List.forall_mem_cons.mp hmembers
    rw [membersDepth] at room
    rw [memberTokens] at layout
    obtain ⟨rest, hrest, hfeed⟩ := holds.feed_mark rfl layout
    rw [← List.cons_append, ← List.cons_append] at hrest
    obtain ⟨text₁, text₂, rfl, hfirst, hsecond⟩ := hrest.split
    have hroom : w.depth + (stack.length + 1) ≤ maxDepth := by omega
    obtain ⟨next, hnext, hholds⟩ :=
      feed_member hw hroom (.nextKey (before.insert key v)) hfirst
    have hcomma : (deliver v (.member before key :: stack)).step ','
        = .ok ⟨.nextKey (before.insert key v), stack⟩ := rfl
    rw [hfeed, feed_cons_of_ok hcomma, feed_append_of_ok hnext,
      ih hmembers (by omega) hholds hsecond]
    rfl

theorem begin_of_room {stack : List Frame} (room : stack.length < maxDepth) :
  begin stack '[' = .ok ⟨.firstItem, stack⟩ ∧ begin stack '\x7b' = .ok ⟨.firstKey, stack⟩
  := by
  simp [begin, enter, room]

/-- An array is read when its items are. -/
theorem readsAs_arr {items : List Value} (hitems : ∀ v ∈ items, v.ReadsAs v.settled) :
  (arr items).ReadsAs (arr items).settled
  := by
  intro stack r text room awaits layout
  rw [depth] at room
  have hinside : stack.length < maxDepth := by omega
  have hbegin := (begin_of_room hinside).1
  rw [settled, settledItems_eq_map]
  refine ⟨_, ?_, .delivered _⟩
  cases items with
  | nil =>
    rw [tokens] at layout
    obtain ⟨rest, hrest, hfeed⟩ := awaits.feed_mark rfl (by decide) hbegin layout
    obtain ⟨last, hlast, hend⟩ := (Awaits.firstItem stack).patient.feed_mark hrest
    cases hlast
    rw [hfeed, hend]
    rfl
  | cons v items =>
    obtain ⟨hv, hitems⟩ := List.forall_mem_cons.mp hitems
    rw [itemsDepth] at room
    rw [tokens] at layout
    obtain ⟨rest, hrest, hfeed⟩ := awaits.feed_mark rfl (by decide) hbegin layout
    obtain ⟨text₁, text₂, rfl, hfirst, hsecond⟩ := hrest.split
    have hroom : v.depth + (Frame.item [] :: stack).length ≤ maxDepth := by
      rw [List.length_cons]
      omega
    obtain ⟨next, hnext, holds⟩ := hv hroom (.firstItem stack) hfirst
    rw [hfeed, feed_append_of_ok hnext, feed_items hitems (by omega) holds hsecond]
    rfl

/-- An object is read when its members are. -/
theorem readsAs_obj {members : List (String × Value)}
    (hmembers : ∀ m ∈ members, m.2.ReadsAs m.2.settled) :
  (obj members).ReadsAs (obj members).settled
  := by
  intro stack r text room awaits layout
  rw [depth] at room
  have hinside : stack.length < maxDepth := by omega
  have hbegin := (begin_of_room hinside).2
  rw [settled, settledMembers_eq_map]
  refine ⟨_, ?_, .delivered _⟩
  cases members with
  | nil =>
    rw [tokens] at layout
    obtain ⟨rest, hrest, hfeed⟩ := awaits.feed_mark rfl (by decide) hbegin layout
    have patient : Patient ⟨.firstKey, stack⟩ := AwaitsKey.firstKey.patient
    obtain ⟨last, hlast, hend⟩ := patient.feed_mark hrest
    cases hlast
    rw [hfeed, hend]
    rfl
  | cons m members =>
    obtain ⟨k, v⟩ := m
    obtain ⟨hv, hmembers⟩ := List.forall_mem_cons.mp hmembers
    rw [membersDepth] at room
    rw [tokens, ← List.cons_append, ← List.cons_append] at layout
    obtain ⟨rest, hrest, hfeed⟩ := awaits.feed_mark rfl (by decide) hbegin layout
    obtain ⟨text₁, text₂, rfl, hfirst, hsecond⟩ := hrest.split
    have hroom : v.depth + (stack.length + 1) ≤ maxDepth := by omega
    obtain ⟨next, hnext, holds⟩ := feed_member hv hroom .firstKey hfirst
    rw [hfeed, feed_append_of_ok hnext, feed_members hmembers (by omega) holds hsecond,
      List.map_cons, Dict.ofList, List.foldl_cons, List.foldl_map]

/-- Every layout of a value without floating-point numbers is read as the value, settled. -/
theorem FloatFree.readsAs {v : Value} (free : v.FloatFree) :
  v.ReadsAs v.settled
  := by
  induction free with
  | null => apply readsAs_null
  | bool b => apply readsAs_bool
  | int n => apply readsAs_int
  | str s => apply readsAs_str
  | arr hitems ih => apply readsAs_arr ih
  | obj hmembers ih => apply readsAs_obj ih

/-- A text that is a layout of a value without floating-point numbers, with any blanks after it, is
the text of that value, settled. -/
theorem FloatFree.read_layout {v : Value} (free : v.FloatFree) (hdepth : v.depth ≤ maxDepth)
    {text spaces : List Char} (layout : Layout v.tokens text) (hspaces : Spaces spaces) :
  read (text ++ spaces) = .ok v.settled
  := by
  have hroom : v.depth + ([] : List Frame).length ≤ maxDepth := hdepth
  obtain ⟨next, hnext, holds⟩ := free.readsAs hroom (.value []) layout
  rw [read, start, feed_append_of_ok hnext]
  cases spaces with
  | nil => apply holds.finish
  | cons c rest =>
    have hc : isEnd c = true := by simp [isEnd, hspaces c List.mem_cons_self]
    have hdone := (patient_deliver v.settled []).feed hspaces []
    rw [List.append_nil] at hdone
    rw [feed_cons, holds.step hc, ← feed_cons, hdone]
    rfl

end GuardedScript.Value
