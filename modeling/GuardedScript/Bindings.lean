import GuardedScript.Value.Reading

/-!
# Bindings

The variables with which a run begins are given by the text of one JSON object: each key names
a variable, and its value is taken as it is.
-/

namespace GuardedScript.Bindings

/-- Why a text gives no bindings. -/
inductive Fault
  /-- It is no JSON document. -/
  | json (fault : Value.Fault)
  /-- It is a document, but no object. -/
  | notObject (found : Value)

/-- The fault in words. -/
def Fault.message : Fault → String
  | json fault => fault.label
  | notObject found => "bindings must be a JSON object, found " ++ found.kind

/-- The bindings that a text gives. -/
def load (text : List Char) : Except Fault (Dict Value) :=
  match Value.read text with
  | .error fault => .error (.json fault)
  | .ok (.obj members) => .ok members
  | .ok found => .error (.notObject found)

/-- A document that is no object gives no bindings. -/
theorem load_of_not_object {text : List Char} {found : Value} (hread : Value.read text = .ok found)
    (hfound : ∀ members, found ≠ .obj members) :
  load text = .error (.notObject found)
  := by
  rw [load, hread]
  cases found with
  | obj members => exact absurd rfl (hfound members)
  | _ => rfl

end GuardedScript.Bindings
