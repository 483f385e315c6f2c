import SolidityLayout.Number.Decimal
import SolidityLayout.Text.WordCharacter

/-!
# The grammar of type names

A type is a tuple of types in parentheses or a basic type, each followed by array dimensions.  A
basic type is a base of letters with an optional suffix, a number or a pair of numbers joined by
`x`.  A number starts with a digit other than zero.  Matching takes as much of a text as it can
and answers the basic types of the type in order, so that the nesting of the tuples is not kept.
-/

namespace SolidityLayout.Abi

open Number Text

/-- The suffix of a base. -/
inductive Suffix
  | size (bits : Nat)
  | pair (bits places : Nat)
  deriving DecidableEq, Repr

/-- The text of a suffix. -/
def Suffix.spelling : Suffix → List Char
  | size bits => decimalNat bits
  | pair bits places => decimalNat bits ++ 'x' :: decimalNat places

/-- A basic type as it stands in a text. -/
structure BasicType where
  /-- The number of characters before it. -/
  start : Nat
  /-- All of its characters, dimensions included. -/
  written : List Char
  base : List Char
  suffix? : Option Suffix
  /-- The dimensions from left to right; one without a size is dynamic. -/
  dimensions : List (Option Nat)
  deriving Repr

namespace Grammar

/-- Take a number off the start of a text. -/
def number? : List Char → Option (Nat × List Char)
  | [] => none
  | c :: rest =>
    if isDigit c && c != '0' then
      some (Nat.ofDigitChars 10 (c :: rest.takeWhile isDigit) 0, rest.dropWhile isDigit)
    else none

theorem number?_length {cs rest : List Char} {n : Nat} (h : number? cs = some (n, rest)) :
    rest.length < cs.length := by
  cases cs with
  | nil => cases h
  | cons c tail =>
    simp only [number?] at h
    split at h
    · simp only [Option.some.injEq, Prod.mk.injEq] at h
      rw [← h.2, List.length_cons]
      exact Nat.lt_succ_of_le (List.dropWhile_sublist isDigit).length_le
    · cases h

/-- Take a suffix off the start of a text, if there is one. -/
def suffix (cs : List Char) : Option Suffix × List Char :=
  match number? cs with
  | none => (none, cs)
  | some (bits, rest) =>
    match rest with
    | 'x' :: tail =>
      match number? tail with
      | some (places, rest) => (some (.pair bits places), rest)
      | none => (some (.size bits), rest)
    | _ => (some (.size bits), rest)

/-- Take one dimension off the start of a text. -/
def dimension? : List Char → Option (Option Nat × List Char)
  | '[' :: ']' :: rest => some (none, rest)
  | '[' :: cs =>
    match number? cs with
    | some (size, ']' :: rest) => some (some size, rest)
    | _ => none
  | _ => none

theorem dimension?_length {cs rest : List Char} {size : Option Nat}
    (h : dimension? cs = some (size, rest)) : rest.length < cs.length := by
  unfold dimension? at h
  split at h
  · cases h
    simp only [List.length_cons]
    omega
  · split at h
    · rename_i found
      have := number?_length found
      cases h
      simp only [List.length_cons] at this ⊢
      omega
    · cases h
  · cases h

/-- Take all dimensions off the start of a text. -/
def dimensions (cs : List Char) : List (Option Nat) × List Char :=
  match _found : dimension? cs with
  | none => ([], cs)
  | some (size, rest) =>
    let (sizes, rest) := dimensions rest
    (size :: sizes, rest)
termination_by cs.length
decreasing_by exact dimension?_length _found

/-- Take a basic type off the start of what is left of a text with `total` characters. -/
def basic? (total : Nat) (cs : List Char) : Option (BasicType × List Char) :=
  match cs.takeWhile isLetter with
  | [] => none
  | base =>
    let (suffix?, afterSuffix) := suffix (cs.dropWhile isLetter)
    let (sizes, rest) := dimensions afterSuffix
    some (⟨total - cs.length, cs.take (cs.length - rest.length), base, suffix?, sizes⟩, rest)

theorem suffix_length (cs : List Char) : (suffix cs).2.length ≤ cs.length := by
  unfold suffix
  split
  · exact Nat.le_refl _
  · rename_i bits rest found
    have first := number?_length found
    split
    · split
      · rename_i second
        have := number?_length second
        simp only [List.length_cons] at first ⊢
        omega
      · exact Nat.le_of_lt first
    · exact Nat.le_of_lt first

theorem dimensions_length (cs : List Char) : (dimensions cs).2.length ≤ cs.length := by
  fun_induction dimensions cs with
  | case1 => exact Nat.le_refl _
  | case2 cs size rest found sizes last eq ih =>
    have := dimension?_length found
    rw [eq] at ih
    simp only at ih ⊢
    omega

theorem basic?_length {total : Nat} {cs rest : List Char} {b : BasicType}
    (h : basic? total cs = some (b, rest)) : rest.length < cs.length := by
  unfold basic? at h
  split at h
  · cases h
  · rename_i base notEmpty
    have sum := congrArg List.length (List.takeWhile_append_dropWhile (p := isLetter) (l := cs))
    simp only [Option.some.injEq, Prod.mk.injEq] at h
    rw [← h.2]
    have afterSuffix := suffix_length (cs.dropWhile isLetter)
    have afterSizes := dimensions_length (suffix (cs.dropWhile isLetter)).2
    have nonempty : 0 < (cs.takeWhile isLetter).length := List.length_pos_iff.mpr notEmpty
    rw [List.length_append] at sum
    omega

mutual

/-- Match a type inside `depth` open parentheses, after the basic types `done`, last one first. -/
def matchType (total : Nat) (done : List BasicType) (depth : Nat) (cs : List Char) :
    Option (List BasicType × List Char) :=
  match cs with
  | '(' :: rest => matchType total done (depth + 1) rest
  | cs =>
    match _found : basic? total cs with
    | none => none
    | some (b, rest) => matchAfter total (b :: done) depth rest
termination_by cs.length
decreasing_by
  · simp only [List.length_cons]; omega
  · exact basic?_length _found

/-- Go on after a type inside `depth` open parentheses. -/
def matchAfter (total : Nat) (done : List BasicType) (depth : Nat) (cs : List Char) :
    Option (List BasicType × List Char) :=
  match depth, cs with
  | 0, _ => some (done.reverse, cs)
  | depth + 1, ',' :: rest => matchType total done (depth + 1) rest
  | depth + 1, ')' :: rest => matchAfter total done depth (dimensions rest).2
  | _, _ => none
termination_by cs.length
decreasing_by
  · simp only [List.length_cons]; omega
  · have := dimensions_length rest
    simp only [List.length_cons]; omega

end

/-- Match a type at the start of a text.  Answers its basic types and what is left of the text. -/
def match? (cs : List Char) : Option (List BasicType × List Char) :=
  matchType cs.length [] 0 cs

/-- Whether a type in this text is a tuple. -/
def isTuple : List Char → Bool
  | '(' :: _ => true
  | _ => false

/-- The length of the longest row of digits, given the length of the row in progress. -/
def longestRunFrom (run : Nat) : List Char → Nat
  | [] => run
  | c :: rest =>
    if isDigit c then longestRunFrom (run + 1) rest else max run (longestRunFrom 0 rest)

/-- Whether a number in a text is beyond the digit limit. -/
def hasLongNumber (cs : List Char) : Bool :=
  digitLimit < longestRunFrom 0 cs

end Grammar

end SolidityLayout.Abi
