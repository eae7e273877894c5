import Coffer.Json.Token

/-!
Reading a value from its written form. The elements are taken one by one; what has been read of the
arrays and objects that are still open is kept on a stack, innermost first.
-/

namespace Coffer.Json

/-- An array or object that is still open, with what it holds so far, last part first. An object
also keeps the key whose value is being read. -/
inductive Frame where
  | array (items : List Json)
  | object (members : List (String × Json)) (key : String)

inductive Expect where
  /-- A value. -/
  | value
  /-- A value, or the end of the array just opened. -/
  | item
  /-- A key, followed by a colon; the innermost open thing is an object with these members. -/
  | key (members : List (String × Json))
  /-- A key, or the end of the object just opened. -/
  | member
  /-- The colon behind a key. -/
  | colon (members : List (String × Json)) (key : String)
  /-- A comma or a closing bracket behind this value. -/
  | after (value : Json)

/-- Reads the elements left, given what is open and what has to come next. -/
def assemble : List Frame → Expect → List Token → Option Json
  | [], .after v, [] => some v
  | _, _, [] => none
  | stack, .value, .atom v :: ts => assemble stack (.after v) ts
  | stack, .value, .openArray :: ts => assemble (.array [] :: stack) .item ts
  | stack, .value, .openObject :: ts => assemble stack .member ts
  | stack, .item, .atom v :: ts => assemble stack (.after v) ts
  | stack, .item, .openArray :: ts => assemble (.array [] :: stack) .item ts
  | stack, .item, .openObject :: ts => assemble stack .member ts
  | .array items :: stack, .item, .closeArray :: ts =>
    assemble stack (.after (.arr items.reverse)) ts
  | stack, .member, .atom (.str k) :: ts => assemble stack (.colon [] k) ts
  | stack, .member, .closeObject :: ts => assemble stack (.after (.obj [])) ts
  | stack, .key members, .atom (.str k) :: ts => assemble stack (.colon members k) ts
  | stack, .colon members k, .colon :: ts => assemble (.object members k :: stack) .value ts
  | .array items :: stack, .after v, .comma :: ts =>
    assemble (.array (v :: items) :: stack) .value ts
  | .array items :: stack, .after v, .closeArray :: ts =>
    assemble stack (.after (.arr (v :: items).reverse)) ts
  | .object members k :: stack, .after v, .comma :: ts =>
    assemble stack (.key ((k, v) :: members)) ts
  | .object members k :: stack, .after v, .closeObject :: ts =>
    assemble stack (.after (ofMembers ((k, v) :: members).reverse)) ts
  | _, _, _ => none

/-- The value that a text spells, `none` when it spells none. -/
def read (input : List Char) : Option Json := do
  assemble [] .value (← elements input.length input)

end Coffer.Json
