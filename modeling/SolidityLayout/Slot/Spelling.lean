import SolidityLayout.Abi.Spelling
import SolidityLayout.Slot.Type

/-!
# Spellings of slot types

The text of a mapping is taken apart at its first arrow outside all parentheses.  What stands before
it is the key, which must not be a mapping, and what stands behind it is the rest of the slot type.
-/

namespace SolidityLayout

open Text

namespace SlotType

/-- The number of characters before the first arrow at which as many parentheses have been opened as
closed; `depth` counts those still open. -/
def arrowFrom? (depth : Int) : List Char → Option Nat
  | [] => none
  | c :: rest =>
    if c = '(' then (arrowFrom? (depth + 1) rest).map (· + 1)
    else if c = ')' then (arrowFrom? (depth - 1) rest).map (· + 1)
    else if depth = 0 ∧ ['=', '>'].isPrefixOf (c :: rest) then some 0
    else (arrowFrom? depth rest).map (· + 1)

/-- The position of the first arrow outside all parentheses. -/
def topLevelArrow? (cs : List Char) : Option Nat :=
  arrowFrom? 0 cs

/-- What follows the opening parenthesis, if a text starts like a mapping. -/
def afterOpening? (cs : List Char) : Option (List Char) :=
  if "mapping".toList.isPrefixOf cs then
    match (cs.drop 7).dropWhile isBlank with
    | '(' :: rest => some rest
    | _ => none
  else none

theorem afterOpening?_length {cs rest : List Char} (h : afterOpening? cs = some rest) :
    rest.length < cs.length := by
  unfold afterOpening? at h
  split at h
  · split at h
    · rename_i tail dropped
      simp only [Option.some.injEq] at h
      have less := length_dropWhile_le isBlank (cs.drop 7)
      rw [dropped] at less
      simp only [List.length_cons, List.length_drop] at less
      subst h
      omega
    · cases h
  · cases h

/-- Read a slot type. -/
def ofSpelling (reader : TypeReader) (cs : List Char) : Except Failure SlotType :=
  let text := strip cs
  let unreadable (reason : UnreadableType) : Failure :=
    .layout (.unreadableType (String.ofList text) (some reason))
  match _opened : afterOpening? text with
  | none => (AbiType.ofSpelling reader text).map ofValue
  | some inside =>
    if text.getLast? ≠ some ')' then .error (unreadable .mappingNotClosed)
    else
      let body := inside.dropLast
      match topLevelArrow? body with
      | none => .error (unreadable .mappingWithoutArrow)
      | some position =>
        match ofSpelling reader (body.take position) with
        | .error failure => .error failure
        | .ok key =>
          if key.isMapping then .error (.layout (.mappingKey .mapping))
          else (ofSpelling reader (body.drop (position + 2))).map (nest key.value)
termination_by cs.length
decreasing_by
  all_goals
    have opened : inside.length < (strip cs).length := afterOpening?_length _opened
    have stripped := length_strip_le cs
    simp only [List.length_take, List.length_drop, List.length_dropLast]
    omega

end SlotType

end SolidityLayout
