import GeoRouter.Clock.Duration
import GeoRouter.Text.Decimal

/-!
# The command line of the relay

Named options and one payload, in any order. A value follows the name of its option behind an
equals sign or as the next word, unless that word looks like an option itself; an option that is
named without a value keeps its default. Nothing may be named twice. Behind the word `--` there are
no more options.
-/

namespace GeoRouter.Relay

structure Options where
  stations : Nat := 4
  /-- The distance between stations in tenths of a microdegree. -/
  spacing : Int32 := 50000
  latitude : Int32 := 520000000
  longitude : Int32 := 45000000
  hopLimit : UInt32 := 10
  lifetime : Duration := .ofSeconds 60
  seed : BitVec 64 := 0
  verbose : Bool := false
  deriving DecidableEq

inductive OptionName where
  | stations
  | spacing
  | latitude
  | longitude
  | hopLimit
  | lifetime
  | seed
  | verbose
  deriving DecidableEq

namespace OptionName

def ofText? (text : String) : Option OptionName :=
  match text with
  | "stations" => some .stations
  | "spacing" => some .spacing
  | "latitude" => some .latitude
  | "longitude" => some .longitude
  | "hop-limit" => some .hopLimit
  | "lifetime" => some .lifetime
  | "seed" => some .seed
  | "verbose" => some .verbose
  | _ => none

end OptionName

namespace Options

/-- Gives an option its value. The one that just switches something on has none. -/
def assign? (o : Options) (name : OptionName) (value : String) : Option Options :=
  match name with
  | .stations => (Decimal.natural? UInt64.size value).map fun n => { o with stations := n }
  | .spacing => (Decimal.integer? Int32.size value).map fun n => { o with spacing := .ofInt n }
  | .latitude => (Decimal.integer? Int32.size value).map fun n => { o with latitude := .ofInt n }
  | .longitude => (Decimal.integer? Int32.size value).map fun n => { o with longitude := .ofInt n }
  | .hopLimit => (Decimal.natural? UInt32.size value).map fun n => { o with hopLimit := .ofNat n }
  | .lifetime =>
    (Decimal.natural? UInt64.size value).map fun n => { o with lifetime := .ofSeconds n }
  | .seed => (Decimal.natural? UInt64.size value).map fun n => { o with seed := BitVec.ofNat 64 n }
  | .verbose => some { o with verbose := true }

end Options

structure Arguments where
  options : Options := {}
  named : List OptionName := []
  /-- The option that the next word may be the value of. -/
  awaiting : Option OptionName := none
  ended : Bool := false
  payload : Option String := none
  deriving DecidableEq

namespace Arguments

/-- Notes that an option was named, which may happen once. -/
def name? (a : Arguments) (name : OptionName) : Option Arguments :=
  if a.named.contains name then none
  else some { a with named := name :: a.named, awaiting := some name }

def assign? (a : Arguments) (name : OptionName) (value : String) : Option Arguments :=
  (a.options.assign? name value).map fun options => { a with options, awaiting := none }

def set? (a : Arguments) (name : OptionName) (value : String) : Option Arguments :=
  (a.name? name).bind (·.assign? name value)

def payload? (a : Arguments) (word : String) : Option Arguments :=
  match a.payload with
  | some _ => none
  | none => some { a with payload := some word }

/-- A name without the minus signs before it, and the value behind an equals sign, if there is
one, without the signs before it. -/
def splitName (word : String) : String × Option String :=
  let chars := word.toList.dropWhile (· = '-')
  let name := String.ofList (chars.takeWhile (· ≠ '='))
  match chars.dropWhile (· ≠ '=') with
  | [] => (name, none)
  | rest => (name, some (String.ofList (rest.dropWhile (· = '='))))

def option? (a : Arguments) (word : String) : Option Arguments :=
  let (text, value) := splitName word
  match OptionName.ofText? text, value with
  | none, _ => none
  | some .verbose, _ => a.set? .verbose ""
  | some name, some value => a.set? name value
  | some name, none => a.name? name

def letter? (a : Arguments) (letter : Char) : Option Arguments :=
  if letter = 'v' then a.set? .verbose "" else none

def word? (a : Arguments) (word : String) : Option Arguments :=
  if a.ended then a.payload? word
  else if word = "--" then some { a with ended := true }
  else match word.toList, a.awaiting with
    | '-' :: '-' :: _, _ => a.option? word
    | '-' :: letter :: letters, _ => (letter :: letters).foldlM letter? a
    | _, some name => a.assign? name word
    | _, none => a.payload? word

end Arguments

namespace Options

def ofArguments? (words : List String) : Option (Options × String) := do
  let a ← words.foldlM Arguments.word? {}
  return (a.options, ← a.payload)

end Options
end GeoRouter.Relay
