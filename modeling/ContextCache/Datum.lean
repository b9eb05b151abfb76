import ContextCache.Text.Quoted

/-!
Contract: the values that scenarios compute and put.

Values are JSON values whose numbers are integers.

Owns:
- the values and their debugging text.

Does not own: reading them from a text.
-/

namespace ContextCache

/-- A JSON value without fractions. The fields of a record are in the order of
their names, and each name occurs once. -/
inductive Datum where
  | null
  | bool (value : Bool)
  | number (value : Int)
  | text (value : String)
  | list (items : List Datum)
  | record (fields : List (String × Datum))
deriving Repr, Inhabited

namespace Datum

def number? : Datum → Option Int
  | number value => some value
  | _ => none

mutual

/-- A debugging text that shows each value's kind. -/
def debugText : Datum → String
  | null => "Null"
  | bool value => "Bool(" ++ (if value then "true" else "false") ++ ")"
  | number value => "Number(" ++ toString value ++ ")"
  | text value => "String(" ++ Text.quoted value ++ ")"
  | list items => "Array [" ++ ", ".intercalate (itemTexts items) ++ "]"
  | record fields => "Object \x7b" ++ ", ".intercalate (fieldTexts fields) ++ "\x7d"

def itemTexts : List Datum → List String
  | [] => []
  | item :: rest => debugText item :: itemTexts rest

def fieldTexts : List (String × Datum) → List String
  | [] => []
  | field :: rest => fieldText field :: fieldTexts rest

def fieldText : String × Datum → String
  | (name, value) => Text.quoted name ++ ": " ++ debugText value

end

end Datum

end ContextCache
