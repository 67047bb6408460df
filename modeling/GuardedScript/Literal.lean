import GuardedScript.Token

/-!
# Writing literals

Inside a literal a backslash takes the character after it as it is. So any text can be written
between either quote: the backslashes in it and the quote itself need a backslash before them,
and any other character may have one.
-/

namespace GuardedScript.Quote

/-- The character needs a backslash before it. -/
def isSpecial (quote : Quote) (c : Char) : Bool :=
  c = '\\' || c = quote.char

/-- A text with a backslash before each character that needs one, and no other. -/
def escape (quote : Quote) : List Char → List Char
  | [] => []
  | c :: rest =>
    if quote.isSpecial c then '\\' :: c :: escape quote rest else c :: escape quote rest

/-- A text between quotes. -/
def enclose (quote : Quote) (text : List Char) : List Char :=
  quote.char :: (quote.escape text ++ [quote.char])

/-- The second text writes the first: each character that needs a backslash has one before it,
and others may. -/
inductive Escapes (quote : Quote) : List Char → List Char → Prop
  | nil : Escapes quote [] []
  | plain {c : Char} {text written : List Char} (h : quote.isSpecial c = false) :
    Escapes quote text written → Escapes quote (c :: text) (c :: written)
  | escaped (c : Char) {text written : List Char} :
    Escapes quote text written → Escapes quote (c :: text) ('\\' :: c :: written)

/-- Backslashes where they are needed write the text. -/
theorem escapes_escape (quote : Quote) (text : List Char) :
  Escapes quote text (quote.escape text)
  := by
  induction text with
  | nil => apply Escapes.nil
  | cons c rest ih =>
    rw [escape]
    split
    · apply Escapes.escaped c ih
    · rename_i h
      apply Escapes.plain (by simpa using h) ih

/-- A text without backslashes and quotes is written as it is. -/
theorem escapes_self {quote : Quote} {text : List Char}
    (h : ∀ c ∈ text, c ≠ '\\' ∧ c ≠ quote.char) :
  Escapes quote text text
  := by
  induction text with
  | nil => apply Escapes.nil
  | cons c rest ih =>
    obtain ⟨hc, hrest⟩ := List.forall_mem_cons.mp h
    apply Escapes.plain (by simpa [isSpecial] using hc) (ih hrest)

/-- Texts that are written one after the other. -/
theorem Escapes.append {quote : Quote} {text text' written written' : List Char}
    (first : Escapes quote text written) (second : Escapes quote text' written') :
  Escapes quote (text ++ text') (written ++ written')
  := by
  induction first with
  | nil => apply second
  | plain h _ ih => apply Escapes.plain h ih
  | escaped c _ ih => apply Escapes.escaped c ih

/-- The quote needs a backslash before it, so the first one without a backslash tells where a
written text ends; and what is written is one text. -/
theorem Escapes.unique {quote : Quote} {text text' written written' rest rest' : List Char}
    (first : Escapes quote text written) (second : Escapes quote text' written')
    (h : written ++ quote.char :: rest = written' ++ quote.char :: rest') :
  text = text' ∧ written = written'
  := by
  have hspecial : quote.isSpecial quote.char = true := by simp [isSpecial]
  have hback : quote.isSpecial '\\' = true := by simp [isSpecial]
  have hne : quote.char ≠ '\\' := by
    cases quote with
    | double => decide
    | single => decide
  induction first generalizing text' written' with
  | nil =>
    cases second with
    | nil => exact ⟨rfl, rfl⟩
    | plain plain _ => grind
    | escaped c _ => grind
  | plain plain _ ih =>
    cases second with
    | nil => grind
    | plain plain' second =>
      obtain ⟨rfl, hrest⟩ := List.cons.inj h
      obtain ⟨rfl, rfl⟩ := ih second hrest
      exact ⟨rfl, rfl⟩
    | escaped c _ => grind
  | escaped c _ ih =>
    cases second with
    | nil => grind
    | plain plain' _ => grind
    | escaped c' second =>
      simp only [List.cons_append, List.cons.injEq, true_and] at h
      obtain ⟨rfl, hrest⟩ := h
      obtain ⟨rfl, rfl⟩ := ih second hrest
      exact ⟨rfl, rfl⟩

end GuardedScript.Quote
