import TitleBar.Decimal.Shortest
import TitleBar.Rule
import TitleBar.Text.Quoted
import TitleBar.Toml

/-! # Rule documents

Rules as they are written in a TOML document. The libraries that read TOML and make digests of files
are parameters of all that is said of rule files. A document is refused as a whole at its first
offence. The fields of a record are visited in the order of their names, whether they are known or
not, and the elements of an array in the order in which they are written.

A record may also be written as an array of its fields in the order of their declaration. All of
its fields but the predicates have to be there then.
-/

namespace TitleBar

namespace Toml

/-- What a value is called in a message about its type. -/
def description : Toml → String
  | .string text => "string " ++ Text.quoted text
  | .integer value => "integer \x60" ++ toString value ++ "\x60"
  | .float value => "floating point \x60" ++ value.text ++ "\x60"
  | .boolean value => "boolean \x60" ++ toString value ++ "\x60"
  | .array .. => "sequence"
  | .datetime | .table .. => "map"

end Toml

/-- Why a value is no rule, or no part of one. -/
inductive RuleOffence where
  /-- A value of the wrong type. -/
  | type (found expected : String)
  /-- A field that a record does not have. -/
  | unknownField (name : String) (known : List String)
  /-- A record that is written as an array and ends before all of its fields are there. -/
  | short (length : Nat) (record : String) (size : Nat)
  /-- Predicates that are neither a text nor a list of texts. -/
  | predicates
  | predicate (error : Predicate.Malformed)
  | color (error : Color.Unrecognized)
deriving Repr

namespace RuleOffence

/-- A name between grave accents. -/
def marked (name : String) : String := "\x60" ++ name ++ "\x60"

def choice : List String → String
  | [] => "there are no fields"
  | [only] => "expected " ++ marked only
  | [first, second] => "expected " ++ marked first ++ " or " ++ marked second
  | names => "expected one of " ++ String.intercalate ", " (names.map marked)

def message : RuleOffence → String
  | .type found expected => "invalid type: " ++ found ++ ", expected " ++ expected
  | .unknownField name known => "unknown field " ++ marked name ++ ", " ++ choice known
  | .short length record size =>
    "invalid length " ++ toString length ++ ", expected " ++ record ++ " with " ++ toString size ++
      " elements"
  | .predicates => "data did not match any variant of untagged enum RawPredicates"
  | .predicate error => error.message
  | .color error => error.message

end RuleOffence

/-- The outcome of reading a part of a rule. -/
abbrev Decoded (α : Type) := Except RuleOffence α

namespace Toml

/-- The offence of a value that should be something else. -/
def mistyped (value : Toml) (expected : String) : RuleOffence :=
  .type value.description expected

def text? : Toml → Decoded String
  | .string text => .ok text
  | value => .error (value.mistyped "a string")

def boolean? : Toml → Decoded Bool
  | .boolean value => .ok value
  | value => .error (value.mistyped "a boolean")

def list? {α : Type} (item? : Toml → Decoded α) : Toml → Decoded (List α)
  | .array _ items => items.mapM item?
  | value => .error (value.mistyped "a sequence")

def color? (value : Toml) : Decoded Color := do
  (Color.ofString? (← value.text?)).mapError .color

/-- Reads predicates, which are written in one text or in a list of texts. -/
def predicates? : Toml → Decoded (List Predicate)
  | .string text => (Predicate.joinedOf? text).mapError .predicate
  | .array _ items =>
    match items.mapM text? with
    | .ok texts => (Predicate.listOf? texts).mapError .predicate
    | .error _ => .error .predicates
  | _ => .error .predicates

/-- The field that a date is when it is read as a record. -/
def datetimeField : String := "$__toml_private_datetime"

/-- The fields of a table in the order of their names. -/
def fieldsInOrder (entries : Entries) : Entries :=
  entries.mergeSort fun first second => decide (first.1 ≤ second.1)

/-- Reads a record: `add` takes the fields one by one, `fields` are their names in the order of
their declaration, and only the first of them may be missing from an array. -/
def record? {α : Type} (name : String) (fields : List String) (start : α)
    (add : α → String → Toml → Decoded α) : Toml → Decoded α
  | .table _ entries =>
    (fieldsInOrder entries).foldlM (fun record (key, value) => add record key value) start
  | .datetime => .error (.unknownField datetimeField fields)
  | .array _ items => do
    let record ← (fields.zip items).foldlM (fun record (key, value) => add record key value) start
    if items.length < fields.length then
      throw (.short (max items.length 1) name fields.length)
    return record
  | value => .error (value.mistyped name)

end Toml

namespace BlockRule

/-- The fields of a block, in the order of their declaration. -/
def fields : List String := ["predicates", "text", "alt-text", "foreground", "background"]

/-- A block that sets nothing. -/
def blank : BlockRule := ⟨[], none, none, none, none⟩

def setField (block : BlockRule) (field : String) (value : Toml) : Decoded BlockRule :=
  match field with
  | "predicates" => do return { block with predicates := ← value.predicates? }
  | "text" => do return { block with text := ← value.text? }
  | "alt-text" => do return { block with altText := ← value.text? }
  | "foreground" => do return { block with foreground := ← value.color? }
  | "background" => do return { block with background := ← value.color? }
  | _ => .error (.unknownField field fields)

def ofToml? : Toml → Decoded BlockRule := Toml.record? "struct BlockSetting" fields blank setField

end BlockRule

namespace Rule

/-- The fields of a rule, in the order of their declaration. -/
def fields : List String :=
  ["predicates", "title-bar-caption", "title-bar-foreground", "title-bar-background", "search-box",
    "blocks"]

/-- A rule that always holds and sets nothing. -/
def blank : Rule := ⟨[], none, none, none, none, none⟩

def setField (rule : Rule) (field : String) (value : Toml) : Decoded Rule :=
  match field with
  | "predicates" => do return { rule with predicates := ← value.predicates? }
  | "title-bar-caption" => do return { rule with caption := ← value.text? }
  | "title-bar-foreground" => do return { rule with foreground := ← value.color? }
  | "title-bar-background" => do return { rule with background := ← value.color? }
  | "search-box" => do return { rule with searchBox := ← value.boolean? }
  | "blocks" => do return { rule with blocks := ← value.list? BlockRule.ofToml? }
  | _ => .error (.unknownField field fields)

def ofToml? : Toml → Decoded Rule := Toml.record? "struct TitleBarSetting" fields blank setField

def listOf? (entries : Toml.Entries) : Decoded (List Rule) :=
  (Toml.fieldsInOrder entries).foldlM (fun _ (key, value) =>
    if key = "rules" then value.list? ofToml? else .error (.unknownField key ["rules"])) []

end Rule

inductive DocumentError where
  /-- The text is no TOML. -/
  | malformed
  /-- The document holds something else than rules. -/
  | offence (offence : RuleOffence)
deriving Repr

/-- The libraries that rule files are read with. -/
class RuleFormat where
  /-- Reads a TOML document, unless the text is none. -/
  entries? : String → Option Toml.Entries
  /-- A document that defines a key twice is refused. -/
  distinct {text : String} {entries : Toml.Entries} (read : entries? text = some entries) :
    Toml.Distinct entries
  /-- The digest of a text. -/
  digest : String → String

def Rule.ofDocument? [RuleFormat] (text : String) : Except DocumentError (List Rule) :=
  match RuleFormat.entries? text with
  | none => .error .malformed
  | some entries => (Rule.listOf? entries).mapError .offence

end TitleBar
