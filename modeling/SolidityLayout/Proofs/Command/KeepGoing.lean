import SolidityLayout.Command.Arguments

/-!
# The flag to keep going

The flag has no value and no say in how the other arguments are read.  Putting it in front
of a command line therefore leaves everything else that the command line asks for as it
was.
-/

namespace SolidityLayout.Command

/-- The arguments with the flag to keep going. -/
def Arguments.withKeepGoing (a : Arguments) : Arguments :=
  { a with keepGoing := true }

/-- The request with the flag to keep going among its arguments. -/
def Request.withKeepGoing : Request → Request
  | run arguments => run arguments.withKeepGoing
  | request => request

namespace Arguments

theorem withValue_withKeepGoing (a : Arguments) (o : Switch) (value : String) :
    a.withKeepGoing.withValue o value = (a.withValue o value).withKeepGoing := by
  cases o <;> rfl

theorem withFlag_withKeepGoing (a : Arguments) (o : Switch) :
    a.withKeepGoing.withFlag o = (a.withFlag o).withKeepGoing := by
  cases o <;> rfl

theorem helpOf_withKeepGoing (letters : List Char) :
    (helpOf letters).withKeepGoing = helpOf letters := by
  unfold helpOf
  split
  · rfl
  · rfl

/-- The flag is kept through the words that follow it. -/
theorem collect_withKeepGoing (a : Arguments) (operand : Operand) (surplus : Bool)
    (words : List Word) :
    collect a.withKeepGoing operand surplus words =
      (collect a operand surplus words).withKeepGoing := by
  fun_induction collect a operand surplus words with
  | case1 => rfl
  | case2 a operand surplus hsurplus => rw [collect, if_neg hsurplus, Request.withKeepGoing]
  | case3 a operand surplus rest ih => exact ih
  | case4 => exact (helpOf_withKeepGoing _).symm
  | case5 a operand surplus o value rest ho ih =>
      rw [collect, if_pos ho, withValue_withKeepGoing]
      exact ih
  | case6 a operand surplus o value rest ho =>
      rw [collect, if_neg ho]
      rfl
  | case7 a operand surplus rest =>
      unfold collect
      rfl
  | case8 a operand surplus o hhelp ho value rest ih =>
      rw [collect, if_neg hhelp, if_pos ho, withValue_withKeepGoing]
      exact ih
  | case9 a operand surplus o rest hhelp ho hvalue =>
      rw [collect, if_neg hhelp, if_pos ho]
      · rfl
      · exact hvalue
  | case10 a operand surplus o rest hhelp ho ih =>
      rw [collect.eq_def]
      simp only [if_neg hhelp, if_neg ho, withFlag_withKeepGoing]
      exact ih
  | case11 a surplus text rest ih => exact ih
  | case12 a operand surplus text rest hoperand ih =>
      cases operand with
      | awaited => exact (hoperand rfl).elim
      | justTaken => exact ih
      | closed => exact ih
  | case13 a surplus text rest ih => exact ih
  | case14 a surplus rest htext ih =>
      rw [collect]
      · exact ih
      · exact htext
  | case15 a surplus rest ih => exact ih
  | case16 a surplus rest ih => exact ih

/-- The flag to keep going can be put in front of a command line. -/
theorem read_cons_keepGoing (argv : List String) :
    read ("--keep-going" :: argv) = (read argv).withKeepGoing := by
  have hword : word? "--keep-going" = some (.option .keepGoing none) := by rfl
  simp only [read, words?, hword]
  cases words? argv with
  | none => rfl
  | some words =>
      have hflag : collect empty .awaited false (.option .keepGoing none :: words) =
          collect empty.withKeepGoing .awaited false words := by
        rw [collect.eq_def]
        rfl
      exact hflag.trans (collect_withKeepGoing empty .awaited false words)

end Arguments

end SolidityLayout.Command
