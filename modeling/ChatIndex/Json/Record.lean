import ChatIndex.Json.Printer
import ChatIndex.Json.Reader
import ChatIndex.Text.Quoted

/-! # Records

A record is written as an object with one member for each field, or as an array of its fields in
order.  `record?` brings both forms to the members that are present; the field readers then say
what each field may hold.  Missing and `null` are the same to an optional field.

`fault?` tells in words what is wrong with a document whose fields should all be texts.
-/

namespace ChatIndex.Json

/-- The fields of a record type: name, presence and shape, in order. -/
abbrev FieldList := List (String × Presence × Shape)

/-- Names the items of an array after the fields of a record.  Too many items are refused, and
so are too few, unless the fields that are left have a default. -/
def nameItems? : FieldList → List Json → Option (List (String × Json))
  | f :: fields, item :: items => (nameItems? fields items).map ((f.1, item) :: ·)
  | [], _ :: _ => none
  | fields, [] => if fields.all fun f => f.2.1 = .defaulted then some [] else none

/-- The members of a record that are present; `none` for a value that is no record of these
fields. -/
def record? (fields : FieldList) : Json → Option (List (String × Json))
  | .object members =>
    if fields.all fun f => f.2.1 ≠ .required || (Entries.get? members f.1).isSome then
      some members
    else none
  | .array items => nameItems? fields items
  | _ => none

/-- A field that is a text. -/
def field? (members : List (String × Json)) (name : String) : Option String :=
  (Entries.get? members name).bind asString?

/-- A field that is a text and is empty when missing. -/
def fieldOrEmpty? (members : List (String × Json)) (name : String) : Option String :=
  match Entries.get? members name with
  | none => some ""
  | some value => value.asString?

/-- A field that is read by `read` unless it is missing or `null`. -/
def optionalField? {α : Type} (read : Json → Option α) (members : List (String × Json))
    (name : String) : Option (Option α) :=
  match Entries.get? members name with
  | none | some .null => some none
  | some value => (read value).map some

/-- The members of an object in which a field without a value is left out. -/
def omitAbsent (members : List (String × Option Json)) : List (String × Json) :=
  members.filterMap fun (name, value) => value.map (name, ·)

/-! ## What is wrong with a record -/

/-- What a value is, as an error names it. -/
def describe : Json → String
  | .null => "null"
  | .bool true => "boolean `true`"
  | .bool false => "boolean `false`"
  | .number (.int i) => "integer `" ++ i.repr ++ "`"
  | .number (.float x) => "floating point `" ++ printFloat x ++ "`"
  | .string s => "string " ++ Text.quote s
  | .array _ => "sequence"
  | .object _ => "map"

/-- What is wrong with the value of a field that should be a text. -/
def textFault? (presence : Presence) (value : Json) : Option String :=
  match presence, value with
  | _, .string _ | .nullable, .null => none
  | _, value => some ("invalid type: " ++ value.describe ++ ", expected a string")

/-- What is wrong with a document all of whose fields should be texts.  Its members are read in
their order, and the first wrong value counts; only then is it known which fields are missing, of
which the first in the order of the record counts. -/
def fault? (fields : FieldList) (document : Document) : Option String :=
  let wrong := document.entries.findSome? fun (name, value) =>
    (fields.find? fun f => f.1 = name).bind fun f => textFault? f.2.1 value
  let missing := fields.find? fun f => f.2.1 = .required && !document.contains f.1
  wrong.or (missing.map fun f => "missing field `" ++ f.1 ++ "`")

end ChatIndex.Json
