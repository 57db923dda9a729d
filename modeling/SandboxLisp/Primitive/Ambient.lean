import SandboxLisp.Primitive.Basic

/-!
# Time, chance and logging

The primitives of this module look at or change what surrounds an evaluation.  Times are
milliseconds since the epoch.  A logged line shows its arguments as strings would.
-/

namespace SandboxLisp.Primitive

open Eval

/-- The milliseconds of an hour. -/
def hourLength : Int := 3600000

/-- The milliseconds of a day. -/
def dayLength : Int := 86400000

/-- The whole milliseconds of the clock. -/
def milliseconds : Eval Int := do
  let around ← surroundings
  ofNumber do (← around.clock.mul (.int 1000)).truncate

/-- `(now)` is the current time. -/
def now : Primitive :=
  variadic fun _ => return .int (← milliseconds)

/-- A time moved by a number of units of a given length. -/
def addUnits (name : String) (unitLength : Int) : Primitive :=
  binary name fun time count => do
    let start ← expectNumber name time
    let units ← expectNumber name count
    number (← ofNumber do start.add (← units.mul (.int unitLength)))

/-- `(days-since ms)` is the number of whole days since a time. -/
def daysSince : Primitive :=
  unary "days-since" fun time => do
    let current ← milliseconds
    let start ← expectNumber "days-since" time
    return .int (← ofNumber do
      let elapsed ← Number.sub (.int current) start
      (← elapsed.div (.int dayLength)).floor)

/-- A double from zero up to below one made from a word. -/
def unitDouble (word : Nat) : Number :=
  Number.ofResult (Double.ofRatio? (word / 2 ^ 11 : Nat) (2 ^ 53 : Nat))

/-- `(random)` is a number from zero up to below one. -/
def random : Primitive :=
  variadic fun _ => do number (unitDouble (← nextSeed))

/-- The beginning of every logged line. -/
def logMark : String := "[seval] "

/-- `(print x...)` logs a line and gives its first argument back. -/
def print : Primitive :=
  variadic fun arguments => do
    let shown ← arguments.mapM (text .display)
    logLine (Text.sentence [logMark, " ".intercalate shown])
    return arguments.head?.getD .nil

/-- The primitives for time, chance and logging by name. -/
def ambient : List (String × Primitive) :=
  [("now", now), ("add-days", addUnits "add-days" dayLength),
    ("add-hours", addUnits "add-hours" hourLength), ("days-since", daysSince), ("print", print),
    ("random", random)]

end SandboxLisp.Primitive
