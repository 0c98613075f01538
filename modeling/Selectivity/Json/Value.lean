import Selectivity.Entries

/-!
# JSON values

A JSON value, with the members of an object in their order. Whole numbers are kept exactly; any
other number is kept as its standard form.
-/

namespace Selectivity

/-- A JSON value. -/
inductive Json where
  | null
  | boolean (value : Bool)
  | integer (value : Int)
  /-- Any other number, in its standard form. -/
  | real (standard : String)
  | string (value : String)
  | array (items : List Json)
  | object (members : List (String × Json))
  deriving Repr, Inhabited

namespace Json

mutual

def decideEq : (left right : Json) → Decidable (left = right)
  | .null, .null => isTrue rfl
  | .boolean left, .boolean right => decidable_of_iff (left = right) (by simp)
  | .integer left, .integer right => decidable_of_iff (left = right) (by simp)
  | .real left, .real right => decidable_of_iff (left = right) (by simp)
  | .string left, .string right => decidable_of_iff (left = right) (by simp)
  | .array lefts, .array rights =>
      match decideItemsEq lefts rights with
      | isTrue same => isTrue (by rw [same])
      | isFalse differ => isFalse fun same => differ (Json.array.inj same)
  | .object lefts, .object rights =>
      match decideMembersEq lefts rights with
      | isTrue same => isTrue (by rw [same])
      | isFalse differ => isFalse fun same => differ (Json.object.inj same)
  | .null, .boolean _ | .null, .integer _ | .null, .real _ | .null, .string _
  | .null, .array _ | .null, .object _ | .boolean _, .null | .boolean _, .integer _
  | .boolean _, .real _ | .boolean _, .string _ | .boolean _, .array _ | .boolean _, .object _
  | .integer _, .null | .integer _, .boolean _ | .integer _, .real _ | .integer _, .string _
  | .integer _, .array _ | .integer _, .object _ | .real _, .null | .real _, .boolean _
  | .real _, .integer _ | .real _, .string _ | .real _, .array _ | .real _, .object _
  | .string _, .null | .string _, .boolean _ | .string _, .integer _ | .string _, .real _
  | .string _, .array _ | .string _, .object _ | .array _, .null | .array _, .boolean _
  | .array _, .integer _ | .array _, .real _ | .array _, .string _ | .array _, .object _
  | .object _, .null | .object _, .boolean _ | .object _, .integer _ | .object _, .real _
  | .object _, .string _ | .object _, .array _ => isFalse nofun

/-- Are the items of two lists the same? -/
def decideItemsEq : (lefts rights : List Json) → Decidable (lefts = rights)
  | [], [] => isTrue rfl
  | [], _ :: _ => isFalse nofun
  | _ :: _, [] => isFalse nofun
  | left :: lefts, right :: rights =>
      match decideEq left right, decideItemsEq lefts rights with
      | isTrue head, isTrue tail => isTrue (by rw [head, tail])
      | isFalse differ, _ => isFalse fun same => differ (List.cons.inj same).1
      | _, isFalse differ => isFalse fun same => differ (List.cons.inj same).2

/-- Are the members of two objects the same, in the same order? -/
def decideMembersEq : (lefts rights : List (String × Json)) → Decidable (lefts = rights)
  | [], [] => isTrue rfl
  | [], _ :: _ => isFalse nofun
  | _ :: _, [] => isFalse nofun
  | (leftName, left) :: lefts, (rightName, right) :: rights =>
      match decEq leftName rightName, decideEq left right, decideMembersEq lefts rights with
      | isTrue name, isTrue head, isTrue tail => isTrue (by rw [name, head, tail])
      | isFalse differ, _, _ =>
          isFalse fun same => differ (Prod.mk.inj (List.cons.inj same).1).1
      | _, isFalse differ, _ =>
          isFalse fun same => differ (Prod.mk.inj (List.cons.inj same).1).2
      | _, _, isFalse differ => isFalse fun same => differ (List.cons.inj same).2

end

instance : DecidableEq Json :=
  decideEq

def items? : Json → Option (List Json)
  | .array items => some items
  | _ => none

def members? : Json → Option (List (String × Json))
  | .object members => some members
  | _ => none

/-- Is the value an array or an object? -/
def isCompound : Json → Bool
  | .array _ => true
  | .object _ => true
  | _ => false

/-- The member of a name, if the value is an object that has one. -/
def member? : Json → String → Option Json
  | .object members, name => Entries.get? members name
  | _, _ => none

/-- Puts a member where its name belongs in code point order, behind the members of smaller
name. -/
def insertMember (name : String) (value : Json) :
    List (String × Json) → List (String × Json)
  | [] => [(name, value)]
  | (present, other) :: rest =>
      if present < name then (present, other) :: insertMember name value rest
      else (name, value) :: (present, other) :: rest

mutual

/-- The value with the members of every object in the order of their names. -/
def sortMembers : Json → Json
  | .array items => .array (sortItems items)
  | .object members => .object (sortEntries members)
  | value => value

/-- The items, each with its members in order. -/
def sortItems : List Json → List Json
  | [] => []
  | item :: rest => sortMembers item :: sortItems rest

/-- The members of one object in the order of their names, and so within each value. -/
def sortEntries : List (String × Json) → List (String × Json)
  | [] => []
  | (name, value) :: rest => insertMember name (sortMembers value) (sortEntries rest)

end

end Json

end Selectivity
