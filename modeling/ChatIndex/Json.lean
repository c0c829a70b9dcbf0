import ChatIndex.KeyMap
import ChatIndex.Binary64

/-! # JSON values

The free-form data of events, documents and engine replies.  The members of an object are kept
in ascending key order without repetition: every object is built by `Entries.insert`, so a
member that is written again replaces the earlier one.
-/

namespace ChatIndex

/-- A JSON number: an integer that fits 64 bits (signed or unsigned), or a finite float. -/
inductive Json.Number where
  | int (value : Int)
  | float (value : Binary64)
deriving DecidableEq, Repr, Inhabited

/-- A JSON value. -/
inductive Json where
  | null
  | bool (value : Bool)
  | number (value : Json.Number)
  | string (value : String)
  | array (items : List Json)
  | object (members : List (String × Json))
deriving Repr, Inhabited

/-- A document: the members of a JSON object. -/
abbrev Document := KeyMap Json

namespace Json

mutual
/-- Equality of values is decidable. -/
def decEq : (a b : Json) → Decidable (a = b)
  | .null, .null => isTrue rfl
  | .bool a, .bool b => decidable_of_iff (a = b) ⟨congrArg _, fun h => by cases h; rfl⟩
  | .number a, .number b => decidable_of_iff (a = b) ⟨congrArg _, fun h => by cases h; rfl⟩
  | .string a, .string b => decidable_of_iff (a = b) ⟨congrArg _, fun h => by cases h; rfl⟩
  | .array as, .array bs =>
    have := decEqItems as bs
    decidable_of_iff (as = bs) ⟨congrArg _, fun h => by cases h; rfl⟩
  | .object as, .object bs =>
    have := decEqMembers as bs
    decidable_of_iff (as = bs) ⟨congrArg _, fun h => by cases h; rfl⟩
  | .null, .bool _ | .null, .number _ | .null, .string _ | .null, .array _ | .null, .object _
  | .bool _, .null | .bool _, .number _ | .bool _, .string _ | .bool _, .array _
  | .bool _, .object _ | .number _, .null | .number _, .bool _ | .number _, .string _
  | .number _, .array _ | .number _, .object _ | .string _, .null | .string _, .bool _
  | .string _, .number _ | .string _, .array _ | .string _, .object _ | .array _, .null
  | .array _, .bool _ | .array _, .number _ | .array _, .string _ | .array _, .object _
  | .object _, .null | .object _, .bool _ | .object _, .number _ | .object _, .string _
  | .object _, .array _ => isFalse (by intro h; cases h)

/-- Equality of lists of values is decidable. -/
def decEqItems : (as bs : List Json) → Decidable (as = bs)
  | [], [] => isTrue rfl
  | [], _ :: _ | _ :: _, [] => isFalse (by intro h; cases h)
  | a :: as, b :: bs =>
    match decEq a b, decEqItems as bs with
    | isTrue h, isTrue t => isTrue (by rw [h, t])
    | isFalse h, _ => isFalse (by intro e; cases e; exact h rfl)
    | _, isFalse t => isFalse (by intro e; cases e; exact t rfl)

/-- Equality of lists of members is decidable. -/
def decEqMembers : (as bs : List (String × Json)) → Decidable (as = bs)
  | [], [] => isTrue rfl
  | [], _ :: _ | _ :: _, [] => isFalse (by intro h; cases h)
  | (k, a) :: as, (l, b) :: bs =>
    match instDecidableEqString k l, decEq a b, decEqMembers as bs with
    | isTrue h, isTrue v, isTrue t => isTrue (by rw [h, v, t])
    | isFalse h, _, _ => isFalse (by intro e; cases e; exact h rfl)
    | _, isFalse v, _ => isFalse (by intro e; cases e; exact v rfl)
    | _, _, isFalse t => isFalse (by intro e; cases e; exact t rfl)
end

instance : DecidableEq Json :=
  decEq

/-- An integer as a value. -/
def ofInt (i : Int) : Json :=
  .number (.int i)

/-- A natural number as a value. -/
def ofNat (n : Nat) : Json :=
  ofInt n

/-- An optional text as a value: `null`, or the text. -/
def ofOption : Option String → Json
  | none => .null
  | some s => .string s

/-- An object from members in any order; of a repeated name the last value stays. -/
def ofMembers (members : List (String × Json)) : Json :=
  .object (Entries.ofList members)

/-- A document as a value. -/
def ofDocument (document : Document) : Json :=
  .object document.entries

/-- The member of an object; `none` for a missing member and for every other value. -/
def get? : Json → String → Option Json
  | .object members, name => Entries.get? members name
  | _, _ => none

/-- The text of a string value. -/
def asString? : Json → Option String
  | .string s => some s
  | _ => none

/-- The truth value of a boolean. -/
def asBool? : Json → Option Bool
  | .bool b => some b
  | _ => none

/-- An integer from `0` to `limit`. -/
def asNat? (limit : Nat) : Json → Option Nat
  | .number (.int i) => if 0 ≤ i ∧ i ≤ limit then some i.toNat else none
  | _ => none

/-- The items of an array. -/
def asArray? : Json → Option (List Json)
  | .array items => some items
  | _ => none

/-- The members of an object. -/
def asObject? : Json → Option Document
  | .object members => some (KeyMap.ofList members)
  | _ => none

/-- The text of a member that is a string. -/
def getString? (value : Json) (name : String) : Option String :=
  (value.get? name).bind asString?

end Json

end ChatIndex
