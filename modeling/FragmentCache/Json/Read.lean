import FragmentCache.Json.Scan

/-!
# Reading JSON values

Arrays and objects nest at most 127 deep.  Of several members of one name the
last one counts.
-/

namespace FragmentCache
namespace Json
namespace Reader

/-- Largest nesting of arrays and objects. -/
def largestDepth : Nat := 127

mutual

/-- Read a value that may nest `depth` deep.  Every call takes a character or is
one of two in a row that do, so twice the length of the text is enough fuel. -/
def value : Nat → Nat → Reader Json
  | 0, _ => throw .endOfText
  | fuel + 1, depth => do
    match ← peekValue with
    | 'n' => skip; word ['u', 'l', 'l']; return .null
    | 't' => skip; word ['r', 'u', 'e']; return .bool true
    | 'f' => skip; word ['a', 'l', 's', 'e']; return .bool false
    | '-' => skip; return .number (← number true)
    | '"' => skip; return .string (← string)
    | '[' =>
      if depth = 0 then throw .malformed
      skip
      return .array (← items fuel (depth - 1) [])
    | '{' =>
      if depth = 0 then throw .malformed
      skip
      return .object (← members fuel (depth - 1) [])
    | character =>
      if character.isDigit then return .number (← number false)
      else throw .malformed

/-- Read the items of an array up to its end, given those before in reverse. -/
def items : Nat → Nat → List Json → Reader (List Json)
  | 0, _, _ => throw .endOfText
  | fuel + 1, depth, done => do
    let character ← peekValue
    if character = ']' then
      skip
      return done.reverse
    if !done.isEmpty then
      if character ≠ ',' then throw .malformed
      skip
    let item ← value fuel depth
    items fuel depth (item :: done)

/-- Read the members of an object up to its end, given those before. -/
def members : Nat → Nat → List (String × Json) → Reader (List (String × Json))
  | 0, _, _ => throw .endOfText
  | fuel + 1, depth, done => do
    let character ← peekValue
    if character = '}' then
      skip
      return done
    if !done.isEmpty then
      if character ≠ ',' then throw .malformed
      skip
    if (← peekValue) ≠ '"' then throw .malformed
    skip
    let name ← string
    if (← peekValue) ≠ ':' then throw .malformed
    skip
    let member ← value fuel depth
    members fuel depth (insertMember name member done)

end

end Reader

/-- The value that a text holds. -/
def ofText? (text : String) : Option Json :=
  let reader : Reader Json := do
    let value ← Reader.value (2 * text.length + 2) Reader.largestDepth
    Reader.finish
    return value
  (reader.runOn text).toOption

end Json
end FragmentCache
