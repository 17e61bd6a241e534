import JitHost.Command.Option
import JitHost.Files.Path

/-!
# Command lines

A command line is a verb with its words, and options before and after it. An
option is given by its word or by its letter, letters together after one dash,
and its value is the next argument or stands in the same one. Two dashes alone
end the options. A routine's arguments begin at the first word after the file, or
at the first argument there which is no option, and go to the end.
-/

namespace JitHost

/-- What is wrong with a command line. -/
inductive UsageFault where
  | unknownOption (argument : String)
  | missingValue (flag : Flag)
  | unwantedValue (flag : Flag)
  | repeated (flag : Flag)
  | conflict (flag other : Flag)
  | emptyPath
  | unexpectedWord (word : String)
  | missingWord (what : String)
  | missingVerb
  | unknownVerb (word : String)
  deriving DecidableEq

/-- The message about a wrong command line. -/
def UsageFault.message : UsageFault → String
  | unknownOption argument => "unexpected argument '" ++ argument ++ "' found"
  | missingValue flag => "a value is required for '--" ++ flag.name ++ "'"
  | unwantedValue flag => "unexpected value for '--" ++ flag.name ++ "' found"
  | repeated flag => "the argument '--" ++ flag.name ++ "' cannot be used multiple times"
  | conflict flag other =>
      "the argument '--" ++ flag.name ++ "' cannot be used with '--" ++ other.name ++ "'"
  | emptyPath => "a path must not be empty"
  | unexpectedWord word => "unexpected argument '" ++ word ++ "' found"
  | missingWord what => "the argument <" ++ what ++ "> was not provided"
  | missingVerb => "a command is required"
  | unknownVerb word => "unrecognized command '" ++ word ++ "'"

/-- Why a command line asks for nothing to be done: it wants help, or it is
wrong. -/
inductive Stop where
  | help (verb? : Option Verb)
  | misuse (fault : UsageFault)
  deriving DecidableEq

/-- What options say in one argument. -/
inductive OptionItem where
  | alone (flag : Flag)
  | value (flag : Flag) (text : String)
  | awaiting (flag : Flag)
  | wrong (fault : UsageFault)
  deriving DecidableEq

/-- What an argument is by its form. -/
inductive ArgumentForm where
  | separator
  | options (items : List OptionItem)
  | word
  deriving DecidableEq

namespace ArgumentForm

/-- The option given by its word; a value may follow after an equals sign. -/
def longOption (verb? : Option Verb) (text : List Char) : OptionItem :=
  let name := String.ofList (text.takeWhile (· ≠ '='))
  match Flag.ofName? verb? name, text.dropWhile (· ≠ '=') with
  | none, _ => .wrong (.unknownOption ("--" ++ name))
  | some flag, [] => if flag.takesValue then .awaiting flag else .alone flag
  | some flag, _ :: value =>
      if flag.takesValue then .value flag (String.ofList value) else .wrong (.unwantedValue flag)

/-- The options given by letters. One that takes a value has all that follows. -/
def letters (verb? : Option Verb) : List Char → List OptionItem
  | [] => []
  | c :: rest =>
      match Flag.ofLetter? verb? c with
      | none => [.wrong (.unknownOption (String.ofList ['-', c]))]
      | some flag =>
          if flag.takesValue then
            match rest with
            | [] => [.awaiting flag]
            | '=' :: value => [.value flag (String.ofList value)]
            | value => [.value flag (String.ofList value)]
          else .alone flag :: letters verb? rest

/-- The form of an argument. Where words may begin with dashes, `free`, only the
options of the verb are options. -/
def of (verb? : Option Verb) (free : Bool) (argument : String) : ArgumentForm :=
  match argument.toList with
  | ['-', '-'] => separator
  | '-' :: '-' :: text =>
      let name := String.ofList (text.takeWhile (· ≠ '='))
      if free && (Flag.ofName? verb? name).isNone then word
      else options [longOption verb? text]
  | '-' :: c :: rest =>
      if free && (c :: rest).any fun c => (Flag.ofLetter? verb? c).isNone then word
      else options (letters verb? (c :: rest))
  | _ => word

end ArgumentForm

/-- What the arguments read so far say: the options, the one that waits for its
value, and the words. -/
structure Draft where
  verbose : Nat
  quiet : Nat
  config? : Option Path
  entry? : Option String
  noApi : Bool
  awaiting? : Option Flag
  words : List String
  deriving DecidableEq

namespace Draft

/-- Nothing said yet. -/
def empty : Draft := ⟨0, 0, none, none, false, none, []⟩

variable (draft : Draft)

/-- Takes the value of an option. -/
def takeValue (flag : Flag) (text : String) : Except Stop Draft :=
  match flag with
  | .config =>
      if draft.config?.isSome then .error (.misuse (.repeated flag))
      else if text = "" then .error (.misuse .emptyPath)
      else .ok { draft with config? := some text, awaiting? := none }
  | .entry =>
      if draft.entry?.isSome then .error (.misuse (.repeated flag))
      else .ok { draft with entry? := some text, awaiting? := none }
  | _ => .error (.misuse (.unwantedValue flag))

/-- Takes an option that has no value. -/
def takeAlone (verb? : Option Verb) (flag : Flag) : Except Stop Draft :=
  match flag with
  | .verbose => .ok { draft with verbose := draft.verbose + 1 }
  | .quiet => .ok { draft with quiet := draft.quiet + 1 }
  | .help => .error (.help verb?)
  | .noApi =>
      if draft.noApi then .error (.misuse (.repeated flag)) else .ok { draft with noApi := true }
  | _ => .error (.misuse (.missingValue flag))

/-- Takes what an option says. The value that an earlier one waits for can no
longer come. -/
def take (verb? : Option Verb) (item : OptionItem) : Except Stop Draft :=
  match draft.awaiting?, item with
  | _, .wrong fault => .error (.misuse fault)
  | some flag, _ => .error (.misuse (.missingValue flag))
  | none, .alone flag => draft.takeAlone verb? flag
  | none, .value flag text => draft.takeValue flag text
  | none, .awaiting flag => .ok { draft with awaiting? := some flag }

/-- Takes a word after a verb. The first word is a path. -/
def takeWord (verb : Verb) (word : String) : Except Stop Draft :=
  if draft.words = [] ∧ word = "" then .error (.misuse .emptyPath)
  else if verb = .check ∧ draft.words ≠ [] then .error (.misuse (.unexpectedWord word))
  else .ok { draft with words := draft.words ++ [word] }

/-- Whether the next word after a verb may begin with dashes. -/
def isFree (verb? : Option Verb) : Bool := verb? = some .run && draft.words ≠ []

/-- The draft if no option waits for a value. -/
def settled : Except Stop Draft :=
  match draft.awaiting? with
  | some flag => .error (.misuse (.missingValue flag))
  | none => .ok draft

/-- Reads arguments after a verb, or those before it; gives the arguments that
are left once the verb is reached. -/
def read (verb? : Option Verb) : List String → Draft → Except Stop (Draft × List String)
  | [], draft => do return (← draft.settled, [])
  | argument :: rest, draft =>
      match ArgumentForm.of verb? (draft.isFree verb?) argument, draft.awaiting?, verb? with
      | .options items, _, _ => do
          read verb? rest (← items.foldlM (fun draft item => draft.take verb? item) draft)
      | .separator, _, some verb => do
          return (← rest.foldlM (fun draft word => draft.takeWord verb word) (← draft.settled), [])
      | .separator, _, none => .error (.misuse .missingVerb)
      | .word, some flag, _ => do read verb? rest (← draft.takeValue flag argument)
      | .word, none, none => .ok (draft, argument :: rest)
      | .word, none, some verb => do
          let draft ← draft.takeWord verb argument
          if verb = .run ∧ 1 < draft.words.length then
            return (← rest.foldlM (fun draft word => draft.takeWord verb word) draft, [])
          else read verb? rest draft

/-- Refuses more and less talk at once. -/
def agreed : Except Stop Unit :=
  if draft.verbose ≠ 0 ∧ draft.quiet ≠ 0 then .error (.misuse (.conflict .verbose .quiet))
  else .ok ()

/-- What is said before the verb, with what is said after it in its place. -/
def overriddenBy (own : Draft) : Draft :=
  { own with
    verbose := if own.verbose = 0 then draft.verbose else own.verbose
    quiet := if own.quiet = 0 then draft.quiet else own.quiet
    config? := own.config? <|> draft.config? }

end Draft

/-- What a command is to do. -/
inductive Request where
  | run (file : Path) (entry : Option String) (noApi : Bool) (args : List String)
  | check (file : Path)
  | symbols (file : Path) (names : List String) (noApi : Bool)
  deriving DecidableEq

/-- A command: what to do, the file with settings if one is given, and how much to
talk. -/
structure Invocation where
  request : Request
  config? : Option Path
  verbosity : Int
  deriving DecidableEq

namespace Invocation

/-- The request of a verb with what is said about it. -/
def requestOf (verb : Verb) (draft : Draft) : Except Stop Request :=
  match verb, draft.words with
  | _, [] => .error (.misuse (.missingWord "FILE"))
  | .run, file :: args => .ok (.run file draft.entry? draft.noApi args)
  | .check, file :: _ => .ok (.check file)
  | .symbols, [_] => .error (.misuse (.missingWord "NAME"))
  | .symbols, file :: names => .ok (.symbols file names draft.noApi)

/-- What help is asked for by the words after the verb for help. -/
def helpOn : List String → Stop
  | [] => .help none
  | [word] =>
      match Verb.ofName? word with
      | some verb => .help (some verb)
      | none => if word = "help" then .help none else .misuse (.unknownVerb word)
  | _ :: word :: _ => .misuse (.unknownVerb word)

/-- Reads a command line. -/
def read (args : List String) : Except Stop Invocation := do
  let (common, rest) ← Draft.read none args .empty
  match rest with
  | [] => .error (.misuse .missingVerb)
  | word :: rest =>
      if word = "help" then .error (helpOn rest)
      else
        match Verb.ofName? word with
        | none => .error (.misuse (.unknownVerb word))
        | some verb =>
            let (own, _) ← Draft.read (some verb) rest .empty
            let request ← requestOf verb own
            own.agreed
            common.agreed
            let all := common.overriddenBy own
            return ⟨request, all.config?, (all.verbose : Int) - all.quiet⟩

end Invocation

end JitHost
