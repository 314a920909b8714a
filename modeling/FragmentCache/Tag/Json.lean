import FragmentCache.Tag
import FragmentCache.Json.Scan

/-!
# Tags in JSON text

A tag is an object with the members `modified`, `last_modified` and
`expire_time`, each exactly once and in any order, or the array of their three
values.  Members of other names are skipped.
-/

namespace FragmentCache
namespace Tag

open Json (Reader Fault)
open Json.Reader

/-- Reject the value in front.  A number, string or word is read to its end
first, so that a malformed one counts as such. -/
def rejectShape {α : Type} : Reader α := do
  match ← peekValue with
  | 'n' => skip; word ['u', 'l', 'l']
  | 't' => skip; word ['r', 'u', 'e']
  | 'f' => skip; word ['a', 'l', 's', 'e']
  | '-' => skip; let _ ← number true
  | '"' => skip; let _ ← string
  | '[' | '{' => pure ()
  | character =>
    if character.isDigit then let _ ← number false
    else throw .malformed
  throw .wrongShape

/-- Read a truth value. -/
def readFlag : Reader Bool := do
  match ← peekValue with
  | 't' => skip; word ['r', 'u', 'e']; return true
  | 'f' => skip; word ['a', 'l', 's', 'e']; return false
  | _ => rejectShape

/-- The timestamp that a number is. -/
def timestampOf : Json.Number → Reader Timestamp
  | .natural value =>
    if value.toNat ≤ Timestamp.maxSeconds then return value.toInt64 else throw .wrongShape
  | .negative value => return value
  | .real _ => throw .wrongShape

/-- Read a timestamp. -/
def readTimestamp : Reader Timestamp := do
  let character ← peekValue
  if character = '-' then
    skip
    timestampOf (← number true)
  else if character.isDigit then timestampOf (← number false)
  else rejectShape

/-! ## Arrays -/

/-- Go to the next item of an array; false at its end, which is left in place. -/
def toNextItem (isFirst : Bool) : Reader Bool := do
  let character ← peekValue
  if character = ']' then return false
  else if isFirst then return true
  else if character = ',' then
    skip
    if (← peekValue) = ']' then throw .malformed
    return true
  else throw .malformed

/-- Read an item of an array that must have it. -/
def readItem {α : Type} (isFirst : Bool) (reader : Reader α) : Reader α := do
  if ← toNextItem isFirst then reader else throw .wrongShape

/-- Read the rest of the array of a tag's three values. -/
def readItems : Reader Tag := do
  let modified ← readItem true readFlag
  let lastModified ← readItem false readTimestamp
  let expireTime ← readItem false readTimestamp
  if (← peekValue) = ']' then skip else throw .malformed
  return { modified, lastModified, expireTime }

/-! ## Objects -/

/-- Members of a tag read so far. -/
structure Members where
  modified : Option Bool := none
  lastModified : Option Timestamp := none
  expireTime : Option Timestamp := none

/-- Go to the value of the next member of an object and return its name; none at
the end of the object, which is left in place. -/
def toNextName (isFirst : Bool) : Reader (Option String) := do
  let character ← peekValue
  if character = '}' then return none
  if !isFirst then
    if character = ',' then skip else throw .malformed
  if (← peekValue) ≠ '"' then throw .malformed
  skip
  return some (← string)

/-- Remove the colon before the value of a member. -/
def colon : Reader Unit := do
  if (← peekValue) = ':' then skip else throw .malformed

/-- Brackets of the array or object that is being skipped. -/
inductive Bracket where
  | square
  | curly
  deriving DecidableEq

/-- Bracket that ends an array or object. -/
def Bracket.close : Bracket → Char
  | square => ']'
  | curly => '}'

/-- Remove what stands before the next value inside the given brackets: nothing
in an array, a name in an object. -/
def skipName : Bracket → Reader Unit
  | .square => return ()
  | .curly => do
    if (← peekValue) ≠ '"' then throw .malformed
    skip
    skipString
    colon

mutual

/-- Remove a value inside the given brackets, innermost first, and what follows
it up to the end of the outermost ones.  Every round takes a character. -/
def skipValue : Nat → List Bracket → Reader Unit
  | 0, _ => throw .endOfText
  | fuel + 1, outer => do
    match ← peekValue with
    | 'n' => skip; word ['u', 'l', 'l']; afterValue fuel outer
    | 't' => skip; word ['r', 'u', 'e']; afterValue fuel outer
    | 'f' => skip; word ['a', 'l', 's', 'e']; afterValue fuel outer
    | '-' => skip; skipNumber; afterValue fuel outer
    | '"' => skip; skipString; afterValue fuel outer
    | '[' => skip; afterOpening fuel .square outer
    | '{' => skip; afterOpening fuel .curly outer
    | character =>
      if character.isDigit then
        skipNumber
        afterValue fuel outer
      else throw .malformed

/-- Go on after a bracket was opened. -/
def afterOpening : Nat → Bracket → List Bracket → Reader Unit
  | 0, _, _ => throw .endOfText
  | fuel + 1, bracket, outer => do
    if (← peekValue) = bracket.close then
      skip
      afterValue fuel outer
    else
      skipName bracket
      skipValue fuel (bracket :: outer)

/-- Go on after a value. -/
def afterValue : Nat → List Bracket → Reader Unit
  | _, [] => return ()
  | 0, _ => throw .endOfText
  | fuel + 1, bracket :: outer => do
    let character ← peekValue
    if character = ',' then
      skip
      skipName bracket
      skipValue fuel (bracket :: outer)
    else if character = bracket.close then
      skip
      afterValue fuel outer
    else throw .malformed

end

/-- Read the value of a member that may occur once only. -/
def readOnce {α : Type} (old : Option α) (reader : Reader α) : Reader (Option α) := do
  if old.isSome then throw .wrongShape
  colon
  return some (← reader)

/-- Read the rest of an object.  Every round takes a character. -/
def readMembers : Nat → Bool → Members → Reader Members
  | 0, _, _ => throw .endOfText
  | fuel + 1, isFirst, found => do
    match ← toNextName isFirst with
    | none => return found
    | some "modified" =>
      readMembers fuel false { found with modified := ← readOnce found.modified readFlag }
    | some "last_modified" =>
      readMembers fuel false
        { found with lastModified := ← readOnce found.lastModified readTimestamp }
    | some "expire_time" =>
      readMembers fuel false
        { found with expireTime := ← readOnce found.expireTime readTimestamp }
    | some _ =>
      colon
      skipValue (2 * (← get).length + 2) []
      readMembers fuel false found

/-- Read the rest of the object of a tag's members, all of which must be there. -/
def readObject : Reader Tag := do
  let found ← readMembers ((← get).length + 1) true {}
  match found with
  | ⟨some modified, some lastModified, some expireTime⟩ =>
    skip
    return { modified, lastModified, expireTime }
  | _ => throw .wrongShape

/-- The tag that a JSON text holds. -/
def ofJsonText (text : String) : Except Fault Tag :=
  let reader : Reader Tag := do
    let tag ← match ← peekValue with
      | '[' => do skip; readItems
      | '{' => do skip; readObject
      | _ => rejectShape
    finish
    return tag
  reader.runOn text

/-- Compact JSON text of a tag. -/
def toJsonText (tag : Tag) : String :=
  "\x7b\"modified\":" ++ toString tag.modified ++
    ",\"last_modified\":" ++ toString tag.lastModified.toInt ++
    ",\"expire_time\":" ++ toString tag.expireTime.toInt ++ "\x7d"

end Tag
end FragmentCache
