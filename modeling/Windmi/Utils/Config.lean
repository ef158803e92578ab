import Windmi.Core.ControlLoop

/-!
# The configuration

The getters of `src/utils/Config.cpp` and what `main` takes from them for the
control loop.  A value which is no number counts as missing.
-/

namespace Windmi.Utils

open Windmi.Core

/-- `isspace` in the C locale. -/
def isSpace (char : Char) : Bool :=
  char ∈ [' ', '\t', '\n', '\x0b', '\x0c', '\r']

/-- The value of a sequence of decimal digits. -/
def digitsValue (digits : List Char) : Int :=
  digits.foldl (fun value digit => 10 * value + (digit.toNat - 48)) 0

/-- `std::stoi`: the rest of the text is ignored, `none` is an exception. -/
def stoi (text : String) : Option Int :=
  let chars := text.toList.dropWhile isSpace
  let sign : Int := if chars.head? = some '-' then -1 else 1
  let unsigned :=
    if chars.head? = some '-' ∨ chars.head? = some '+' then chars.tail
    else chars
  let digits := unsigned.takeWhile Char.isDigit
  let value := sign * digitsValue digits
  if digits = [] ∨ value < -2147483648 ∨ 2147483647 < value then none
  else some value

/-- The keys and values, whether from the settings file or defaults. -/
structure Config where
  values : String → Option String

def Config.getString (config : Config) (key defaultValue : String) :
    String :=
  (config.values key).getD defaultValue

def Config.getInt (config : Config) (key : String) (defaultValue : Int) :
    Int :=
  match config.values key with
  | none => defaultValue
  | some text => (stoi text).getD defaultValue

/-- What `main` passes to `setInitialSettings`; the targets are floats. -/
def Config.settings (config : Config) (dhwTarget heatingTarget : ℚ) :
    Settings where
  workingMode := config.getInt "ui.working_mode" 3
  priority := config.getString "ui.priority" "dhw"
  dhwTarget := dhwTarget
  heatingTarget := heatingTarget

example : stoi " -12 = x" = some (-12) := by
  decide +kernel

end Windmi.Utils
