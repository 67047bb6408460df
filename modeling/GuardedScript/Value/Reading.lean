import GuardedScript.Value.Numeral
import GuardedScript.Value.Quoted

/-!
# Reading JSON

A document is read from left to right by a machine with a stack. The stack holds the arrays
and objects that are open around the value being read, and the *focus* says what may come
next. Each character either moves the machine on or is wrong; the text is a document when
the machine has finished one value and nothing but blanks follows it.

Of members under one key the last counts. At most 127 arrays and objects may be open at a
time.
-/

namespace GuardedScript.Value

/-- An open array or object that waits for a value. -/
inductive Frame
  /-- An array, with the items before the value, latest first. -/
  | item (before : List Value)
  /-- An object, with the members before the value, and its key. -/
  | member (before : Dict Value) (key : String)

/-- What may come next. -/
inductive Focus
  /-- A value. -/
  | value
  /-- The first item of an array, or its end. -/
  | firstItem
  /-- A comma or the end of an array, whose items stand latest first. -/
  | afterItem (items : List Value)
  /-- The first key of an object, or its end. -/
  | firstKey
  /-- A key, after a comma. -/
  | nextKey (members : Dict Value)
  /-- The colon after a key. -/
  | colon (members : Dict Value) (key : String)
  /-- A comma or the end of an object. -/
  | afterMember (members : Dict Value)
  /-- The rest of a key. -/
  | keyText (members : Dict Value) (text : Quoted)
  /-- The rest of a string. -/
  | text (text : Quoted)
  /-- The rest of a number, or what follows it. -/
  | number (numeral : Numeral)
  /-- The rest of a word that stands for a value. -/
  | word (rest : List Char) (value : Value)
  /-- Nothing but blanks. -/
  | done (value : Value)

/-- The state of reading: the focus and the containers open around it, innermost first. -/
structure Reading where
  focus : Focus
  stack : List Frame

namespace Reading

/-- The blanks of JSON. -/
def isSpace (c : Char) : Bool :=
  c = ' ' || c = '\t' || c = '\n' || c = '\r'

/-- The largest number of arrays and objects that may be open. -/
def maxDepth : Nat :=
  127

/-- Nothing has been read. -/
def start : Reading :=
  ⟨.value, []⟩

/-- A value has been read inside the given containers. -/
def deliver (v : Value) : List Frame → Reading
  | [] => ⟨.done v, []⟩
  | .item before :: stack => ⟨.afterItem (v :: before), stack⟩
  | .member before key :: stack => ⟨.afterMember (before.insert key v), stack⟩

/-- A container opens inside the given ones, unless too many are open. -/
def enter (focus : Focus) (stack : List Frame) : Except Fault Reading :=
  if stack.length < maxDepth then .ok ⟨focus, stack⟩ else .error .malformed

/-- A character where a value may begin. -/
def begin (stack : List Frame) (c : Char) : Except Fault Reading :=
  match c with
  | '[' => enter .firstItem stack
  | '\x7b' => enter .firstKey stack
  | '"' => .ok ⟨.text ⟨[], .none⟩, stack⟩
  | 't' => .ok ⟨.word "rue".toList (.bool true), stack⟩
  | 'f' => .ok ⟨.word "alse".toList (.bool false), stack⟩
  | 'n' => .ok ⟨.word "ull".toList .null, stack⟩
  | _ =>
    match Numeral.start? c with
    | some numeral => .ok ⟨.number numeral, stack⟩
    | none => .error .malformed

/-- A character where a value has ended: in an array or object, a comma or the end of it. -/
def resume (r : Reading) (c : Char) : Except Fault Reading :=
  if isSpace c then .ok r
  else
    match r.focus with
    | .afterItem items =>
      if c = ',' then .ok ⟨.value, .item items :: r.stack⟩
      else if c = ']' then .ok (deliver (.arr items.reverse) r.stack)
      else .error .malformed
    | .afterMember members =>
      if c = ',' then .ok ⟨.nextKey members, r.stack⟩
      else if c = '\x7d' then .ok (deliver (.obj members) r.stack)
      else .error .malformed
    | _ => .error .malformed

/-- One more character. -/
def step (r : Reading) (c : Char) : Except Fault Reading :=
  match r.focus with
  | .value => if isSpace c then .ok r else begin r.stack c
  | .firstItem =>
    if isSpace c then .ok r
    else if c = ']' then .ok (deliver (.arr []) r.stack)
    else begin (.item [] :: r.stack) c
  | .firstKey =>
    if isSpace c then .ok r
    else if c = '\x7d' then .ok (deliver (.obj []) r.stack)
    else if c = '"' then .ok ⟨.keyText [] ⟨[], .none⟩, r.stack⟩
    else .error .malformed
  | .nextKey members =>
    if isSpace c then .ok r
    else if c = '"' then .ok ⟨.keyText members ⟨[], .none⟩, r.stack⟩
    else .error .malformed
  | .keyText members text => do
    match ← text.step c with
    | .inl longer => return ⟨.keyText members longer, r.stack⟩
    | .inr key => return ⟨.colon members key, r.stack⟩
  | .colon members key =>
    if isSpace c then .ok r
    else if c = ':' then .ok ⟨.value, .member members key :: r.stack⟩
    else .error .malformed
  | .text text => do
    match ← text.step c with
    | .inl longer => return ⟨.text longer, r.stack⟩
    | .inr s => return deliver (.str s) r.stack
  | .number numeral => do
    match ← numeral.step c with
    | some longer => return ⟨.number longer, r.stack⟩
    | none => resume (deliver (.num (← numeral.toNumber)) r.stack) c
  | .word rest v =>
    match rest with
    | [] => .error .malformed
    | [last] => if c = last then .ok (deliver v r.stack) else .error .malformed
    | next :: more => if c = next then .ok ⟨.word more v, r.stack⟩ else .error .malformed
  | .afterItem _ | .afterMember _ | .done _ => resume r c

/-- The characters of a text, one after the other. -/
def feed (r : Reading) (text : List Char) : Except Fault Reading :=
  text.foldlM step r

/-- The value that has been read, at the end of the text. -/
def finish (r : Reading) : Except Fault Value :=
  match r.focus, r.stack with
  | .done v, _ => .ok v
  | .number numeral, stack => do
    let n ← numeral.toNumber
    if stack.isEmpty then .ok (.num n) else .error .incomplete
  | _, _ => .error .incomplete

@[simp]
theorem feed_nil (r : Reading) :
  r.feed [] = .ok r
  := by
  rfl

theorem feed_cons (r : Reading) (c : Char) (text : List Char) :
  r.feed (c :: text) = r.step c >>= fun next => next.feed text
  := by
  simp [feed]

/-- Reading two texts one after the other is reading them as one. -/
theorem feed_append (r : Reading) (first second : List Char) :
  r.feed (first ++ second) = r.feed first >>= fun next => next.feed second
  := by
  simp [feed]

end Reading

/-- The value of a JSON text. -/
def read (text : List Char) : Except Fault Value :=
  Reading.start.feed text >>= Reading.finish

end GuardedScript.Value
