/-!
# Commands and their options

The verbs of the command line and the options that may stand before and after
each of them, with the words and letters by which they are given.
-/

namespace JitHost

/-- What can be done with a program. -/
inductive Verb where
  | run
  | check
  | symbols
  deriving DecidableEq, Repr

namespace Verb

/-- All verbs. -/
def all : List Verb := [run, check, symbols]

/-- The word for a verb. -/
def name : Verb → String
  | run => "run"
  | check => "check"
  | symbols => "symbols"

/-- The verb that a word stands for. -/
def ofName? (word : String) : Option Verb := all.find? fun verb => verb.name = word

end Verb

/-- The options. -/
inductive Flag where
  | verbose
  | quiet
  | help
  | config
  | entry
  | noApi
  deriving DecidableEq, Repr

namespace Flag

/-- All options. -/
def all : List Flag := [verbose, quiet, help, config, entry, noApi]

/-- The word for an option, which two dashes precede. -/
def name : Flag → String
  | verbose => "verbose"
  | quiet => "quiet"
  | help => "help"
  | config => "config"
  | entry => "entry"
  | noApi => "no-api"

/-- The letter for an option, which one dash precedes. -/
def letter? : Flag → Option Char
  | verbose => some 'v'
  | quiet => some 'q'
  | help => some 'h'
  | entry => some 'e'
  | config | noApi => none

/-- Whether a value comes with an option. -/
def takesValue : Flag → Bool
  | config | entry => true
  | _ => false

/-- Whether an option may stand after a verb, or before any if there is none. -/
def standsAfter (verb? : Option Verb) : Flag → Bool
  | verbose | quiet | help | config => true
  | entry => verb? = some .run
  | noApi => verb? = some .run || verb? = some .symbols

/-- The option with a word at a place. -/
def ofName? (verb? : Option Verb) (word : String) : Option Flag :=
  all.find? fun flag => flag.standsAfter verb? && flag.name = word

/-- The option with a letter at a place. -/
def ofLetter? (verb? : Option Verb) (letter : Char) : Option Flag :=
  all.find? fun flag => flag.standsAfter verb? && flag.letter? = some letter

end Flag

end JitHost
