import ContextCache.Environment
import ContextCache.Metrics

/-!
Contract: reports as JSON documents.

A report is made of natural numbers and records, whose fields keep their order.
It is written with an indentation of two spaces and one field per line.

Owns:
- documents and their text;
- the documents of configurations and counters, which all reports share.

Does not own: the reports themselves.
-/

namespace ContextCache

/-- A report, or a part of one. -/
inductive Document where
  | number (value : Nat)
  | record (fields : List (String × Document))
deriving Repr

namespace Document

/-- The blanks in front of a line. -/
def indent (depth : Nat) : String :=
  String.ofList (List.replicate (2 * depth) ' ')

def enclose (depth : Nat) : List String → String
  | [] => "\x7b\x7d"
  | fields => "\x7b\n" ++ ",\n".intercalate fields ++ "\n" ++ indent depth ++ "\x7d"

mutual

/-- The text of a document whose first line is already indented to `depth`. -/
def textAt (depth : Nat) : Document → String
  | number value => toString value
  | record fields => enclose depth (fieldsAt (depth + 1) fields)

def fieldsAt (depth : Nat) : List (String × Document) → List String
  | [] => []
  | field :: rest => fieldAt depth field :: fieldsAt depth rest

def fieldAt (depth : Nat) : String × Document → String
  | (name, value) => indent depth ++ "\"" ++ name ++ "\": " ++ textAt depth value

end

/-- The text of a whole document, without a line end behind it. -/
def text (document : Document) : String :=
  document.textAt 0

end Document

def Config.document (config : Config) : Document :=
  .record <| Setting.all.map fun setting => (setting.name, .number (config.get setting))

def Metrics.document (metrics : Metrics) : Document :=
  .record <| Counter.all.map fun counter => (counter.name, .number (metrics.get counter).toNat)

end ContextCache
