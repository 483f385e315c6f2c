import SolidityLayout.Failure.Basic

/-!
# Ancestry of a contract

The compiler lists the contracts from which a contract inherits, itself included, with the most
derived one first.  Storage is laid out the other way round: the variables of a base come before
those of the contracts derived from it.  A contract that lists none is noted.
-/

namespace SolidityLayout

open Number Ast

namespace Ancestry

/-- The id that an entry of the list gives: a finite number, rounded down. -/
def idOfEntry (entry : Json) : Except Failure Int :=
  let notNumeric := LayoutError.failure (.malformedTree (.baseNotNumeric entry))
  match entry with
  | .int n => if Binary64.isTooLarge n then .error .tooLarge else .ok n
  | .float x =>
    match x.floor? with
    | some n => .ok n
    | none => .error notNumeric
  | _ => .error notNumeric

/-- The ids of a contract's ancestors, the most basic one first; a contract that lists none has
none. -/
def ofContract (contract : Node) : Except Failure (List Int) :=
  match contract.attribute? "linearizedBaseContracts" with
  | none | some .null => noting contract.isShowable (.ok [])
  | some (.arr entries) => (entries.mapM idOfEntry).map List.reverse
  | some value => .error (LayoutError.failure (.malformedTree (.basesNotListed value)))

end Ancestry

end SolidityLayout
