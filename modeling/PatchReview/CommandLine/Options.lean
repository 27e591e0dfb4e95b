/-! The grammar of command lines. An option starts with a dash; its value is attached by an equals
sign or is the next word. After a lone double dash all words are arguments. -/
namespace PatchReview.CommandLine

structure Spec where
  /-- The options with a value. -/
  values : List String
  /-- The options without a value, each with the switch that it sets and the position it sets it
  to. -/
  switches : List (String × String × Bool)

/-- The options and arguments that are given, in their order. -/
structure Given where
  values : List (String × String) := []
  switches : List (String × Bool) := []
  arguments : List String := []

namespace Given

def all (g : Given) (name : String) : List String :=
  g.values.filterMap fun (n, v) => if n = name then some v else none

/-- The value of an option; the last one counts. -/
def last? (g : Given) (name : String) : Option String := (g.all name).getLast?

/-- The position of a switch; the last one counts. -/
def isOn (g : Given) (switch : String) : Bool :=
  ((g.switches.filterMap fun (n, on) => if n = switch then some on else none).getLast?).getD false

def addValue (name v : String) (g : Given) : Given := { g with values := (name, v) :: g.values }

def addSwitch (switch : String × Bool) (g : Given) : Given :=
  { g with switches := switch :: g.switches }

def addArgument (word : String) (g : Given) : Given :=
  { g with arguments := word :: g.arguments }

end Given

/-- Whether a word is an option: a dash alone is not. -/
def isOption (word : String) : Bool :=
  match word.toList with
  | '-' :: _ :: _ => true
  | _ => false

/-- The name of an option and the value that is attached to it. -/
def splitAttached (word : String) : String × Option String :=
  let name := word.toList.takeWhile (· != '=')
  match word.toList.dropWhile (· != '=') with
  | [] => (word, none)
  | _ :: v => (String.ofList name, some (String.ofList v))

inductive Demand where
  | value (name : String) (attached : Option String)
  | switch (position : String × Bool)

namespace Spec

/-- What a word asks for that is an option; nothing if the option is unknown or has a value that
it does not take. -/
def demand? (spec : Spec) (word : String) : Option Demand :=
  let (name, attached) := splitAttached word
  if spec.values.contains name then some (.value name attached)
  else match spec.switches.lookup name, attached with
    | some position, none => some (.switch position)
    | _, _ => none

/-- Reads the words of a command. Nothing comes of words with an unknown option or an option
without its value. -/
def read? (spec : Spec) : List String → Option Given
  | [] => some {}
  | word :: rest =>
    if word = "--" then some { arguments := rest }
    else if isOption word then
      match spec.demand? word with
      | some (.value name (some v)) => (spec.read? rest).map (.addValue name v)
      | some (.value name none) =>
        match rest with
        | v :: rest => (spec.read? rest).map (.addValue name v)
        | [] => none
      | some (.switch position) => (spec.read? rest).map (.addSwitch position)
      | none => none
    else (spec.read? rest).map (.addArgument word)

/-- Reads the options in front of the first argument. That argument and all that follows it are
arguments. -/
def readFront? (spec : Spec) : List String → Option Given
  | [] => some {}
  | word :: rest =>
    if word = "--" then some { arguments := rest }
    else if isOption word then
      match spec.demand? word with
      | some (.switch position) => (spec.readFront? rest).map (.addSwitch position)
      | _ => none
    else some { arguments := word :: rest }

end Spec
end PatchReview.CommandLine
