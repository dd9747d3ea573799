import CanvasPrompt.Number.Double
import CanvasPrompt.Text.Quoted

/-!
# JSON values

Values whose shape is not known in advance: canvas data, request bodies, replies of services. An
object keeps its members in order and has each name once. Every value counts as present or absent,
and has a display form, in which texts inside other values stand in quotes.
-/

namespace CanvasPrompt

/-- A JSON value; whole numbers of any size are kept apart from floating-point ones. -/
inductive Json where
  /-- The null value. -/
  | null
  /-- A truth value. -/
  | bool (b : Bool)
  /-- A whole number. -/
  | int (i : Int)
  /-- A floating-point number. -/
  | float (d : Double)
  /-- A text. -/
  | str (t : Text)
  /-- A list. -/
  | arr (items : List Json)
  /-- An object: names and their values in order. -/
  | obj (members : List (Text × Json))
  deriving Inhabited

/-- The members of an object. -/
abbrev Members := List (Text × Json)

namespace Json

/-- The kinds of values. -/
inductive Kind where
  | null | bool | int | float | text | list | object
  deriving DecidableEq

/-- The word for a kind in error messages. -/
def Kind.label : Kind → Text
  | .null => "NoneType".codes
  | .bool => "bool".codes
  | .int => "int".codes
  | .float => "float".codes
  | .text => "str".codes
  | .list => "list".codes
  | .object => "dict".codes

/-- The kind of a value. -/
def kind : Json → Kind
  | .null => .null
  | .bool _ => .bool
  | .int _ => .int
  | .float _ => .float
  | .str _ => .text
  | .arr _ => .list
  | .obj _ => .object

/-- Whether the value is an object. -/
def isObject : Json → Bool
  | .obj _ => true
  | _ => false

/-- Whether the value counts as present: it is not null, false, a zero, or empty. -/
def truthy : Json → Bool
  | .null => false
  | .bool b => b
  | .int i => i != 0
  | .float d => !d.isZero
  | .str t => !t.isEmpty
  | .arr items => !items.isEmpty
  | .obj members => !members.isEmpty

/-- The first of two values that counts as present, else the second. -/
def orElse (a b : Json) : Json :=
  if a.truthy then a else b

/-- The members of an object; any other value has none. -/
def members : Json → Members
  | .obj ms => ms
  | _ => []

/-- The value of a name, if there is one. -/
def find? (name : Text) : Members → Option Json
  | [] => none
  | (n, v) :: ms => if n == name then some v else find? name ms

/-- The value of a name, or null. -/
def field (ms : Members) (name : String) : Json :=
  (find? name.codes ms).getD .null

/-- Give a name a value: at its place if it has one, else at the end. -/
def setField (ms : Members) (name : Text) (v : Json) : Members :=
  match ms with
  | [] => [(name, v)]
  | (n, w) :: rest => if n == name then (n, v) :: rest else (n, w) :: setField rest name v

/-- The members of a written object: of several values for one name the last one counts, at the
place of the first. -/
def ofPairs (ps : List (Text × Json)) : Members :=
  ps.foldl (fun ms p => setField ms p.1 p.2) []

/-- The text of a value that is one. -/
def text? : Json → Option Text
  | .str t => some t
  | _ => none

/-- The truth words of the display form. -/
def boolText (b : Bool) : Text :=
  if b then "True".codes else "False".codes

mutual
/-- The display form of a value inside another one: texts are quoted. -/
def inner : Json → Text
  | .null => "None".codes
  | .bool b => boolText b
  | .int i => Text.ofInt i
  | .float d => d.toText
  | .str t => Text.quoted t
  | .arr items => Code.scalar '[' :: innerItems items ++ [Code.scalar ']']
  | .obj members => Code.scalar '\x7b' :: innerMembers members ++ [Code.scalar '\x7d']

/-- The display forms of list items, with commas between them. -/
def innerItems : List Json → Text
  | [] => []
  | [v] => inner v
  | v :: w :: rest => inner v ++ ", ".codes ++ innerItems (w :: rest)

/-- The display forms of members, with commas between them. -/
def innerMembers : List (Text × Json) → Text
  | [] => []
  | [(n, v)] => Text.quoted n ++ ": ".codes ++ inner v
  | (n, v) :: m :: rest =>
    Text.quoted n ++ ": ".codes ++ inner v ++ ", ".codes ++ innerMembers (m :: rest)
end

/-- The display form of a value: a text is shown as it is. -/
def display : Json → Text
  | .str t => t
  | v => inner v

/-- The trimmed display form of a value that is not null, if anything is left of it. -/
def trimmed? : Json → Option Text
  | .null => none
  | v => Text.nonBlank? v.display

end Json

/-- What goes wrong when a value of one kind is used as one of another. -/
inductive Json.KindError where
  /-- A value that is no object is asked for the value of a name. -/
  | noMembers (kind : Json.Kind)
  /-- A value that holds no others is gone through. -/
  | notIterable (kind : Json.Kind)
  /-- A value that is no text is to be trimmed. -/
  | notTrimmable (kind : Json.Kind)
  deriving DecidableEq

namespace Json

/-- The wording of the error. -/
def KindError.message : KindError → Text
  | .noMembers k => "'".codes ++ k.label ++ "' object has no attribute 'get'".codes
  | .notIterable k => "'".codes ++ k.label ++ "' object is not iterable".codes
  | .notTrimmable k => "'".codes ++ k.label ++ "' object has no attribute 'strip'".codes

/-- The values that going through a value meets: the items of a list, the characters of a text, the
names of an object. A value that counts as absent holds none, and no other value can be gone
through. -/
def entries (v : Json) : Except KindError (List Json) :=
  if !v.truthy then .ok []
  else
    match v with
    | .arr items => .ok items
    | .str t => .ok (t.map fun c => .str [c])
    | .obj ms => .ok (ms.map fun m => .str m.1)
    | v => .error (.notIterable v.kind)

/-- The members of a value, an absent one having none. -/
def membersOrNone (v : Json) : Except KindError Members :=
  if !v.truthy then .ok []
  else
    match v with
    | .obj ms => .ok ms
    | v => .error (.noMembers v.kind)

end Json

end CanvasPrompt
