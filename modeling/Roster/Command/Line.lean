/-!
The grammar of a command line: options and words.

An option is written with two hyphens and its name, or with one hyphen and its letter;
letters may be put together behind one hyphen. An option with a value has it after an
equals sign, directly after its letter, or as the next argument; that one must not look
like an option. An option stands once unless it is repeatable. After two hyphens alone
every argument is a word. The arguments are taken one by one, and the first that is
wrong, or that asks for something else than a command, decides.
-/

namespace Roster.Command

/-- Why a command line names no command. -/
inductive Stop where
  /-- It is no command line of this program. -/
  | misuse
  /-- It asks how the program is used. -/
  | help
  /-- It asks for the version of the program. -/
  | version
  deriving DecidableEq, Repr

/-- What an option means, as a setting of type `σ`. -/
inductive Meaning (σ : Type) where
  | flag (setting : σ)
  /-- The option has a value, from which the setting is read. -/
  | value (read : String → Option σ)
  | stop (reason : Stop)

/-- An option. -/
structure OptionRule (σ : Type) where
  name : String
  letter : Option Char := none
  repeatable : Bool := false
  meaning : Meaning σ

/-- What a command accepts: its options, and which words at which places. -/
structure Grammar (σ : Type) where
  options : List (OptionRule σ)
  accepts : Nat → String → Bool

/-- What is taken from a command line so far. -/
structure Taken (σ : Type) where
  /-- The settings in their order, each with the name of its option. -/
  given : List (String × σ) := []
  words : List String := []
  /-- The option that waits for its value. -/
  waiting : Option (OptionRule σ) := none
  onlyWords : Bool := false

/-- The argument looks like an option. A hyphen alone is a word. -/
def looksLikeOption (arg : String) : Bool :=
  match arg.toList with
  | '-' :: _ :: _ => true
  | _ => false

namespace Taken

variable {σ : Type}

/-- Takes a setting of an option. -/
def addSetting (t : Taken σ) (rule : OptionRule σ) (s : σ) : Except Stop (Taken σ) :=
  if !rule.repeatable && t.given.any (fun entry => entry.1 == rule.name) then .error .misuse
  else .ok { t with given := t.given ++ [(rule.name, s)], waiting := none }

/-- Takes a value of an option. -/
def addValue (t : Taken σ) (rule : OptionRule σ) (text : String) : Except Stop (Taken σ) :=
  match rule.meaning with
  | .value read =>
    match read text with
    | some s => t.addSetting rule s
    | none => .error .misuse
  | _ => .error .misuse

/-- Takes a word. -/
def addWord (g : Grammar σ) (t : Taken σ) (word : String) : Except Stop (Taken σ) :=
  if g.accepts t.words.length word then .ok { t with words := t.words ++ [word] }
  else .error .misuse

/-- Takes an option without a value at hand. -/
def addOption (t : Taken σ) (rule : OptionRule σ) : Except Stop (Taken σ) :=
  match rule.meaning with
  | .flag s => t.addSetting rule s
  | .value _ => .ok { t with waiting := some rule }
  | .stop reason => .error reason

/-- Takes an option by its name; a value may follow after an equals sign. -/
def addNamed (g : Grammar σ) (t : Taken σ) (body : List Char) : Except Stop (Taken σ) :=
  let name := String.ofList (body.takeWhile (· != '='))
  match g.options.find? fun rule => rule.name == name, body.dropWhile (· != '=') with
  | none, _ => .error .misuse
  | some rule, [] => t.addOption rule
  | some rule, _ :: text => t.addValue rule (.ofList text)

/-- Takes options by their letters. What follows the letter of an option with a value is
its value, after an equals sign or not. -/
def addLetters (g : Grammar σ) : Taken σ → List Char → Except Stop (Taken σ)
  | t, [] => .ok t
  | t, c :: cs =>
    match g.options.find? fun rule => rule.letter == some c with
    | none => .error .misuse
    | some rule =>
      match rule.meaning, cs with
      | .value _, '=' :: text => t.addValue rule (.ofList text)
      | .value _, d :: text => t.addValue rule (.ofList (d :: text))
      | _, cs => do addLetters g (← t.addOption rule) cs

/-- Takes an argument. -/
def add (g : Grammar σ) (t : Taken σ) (arg : String) : Except Stop (Taken σ) :=
  if t.onlyWords then t.addWord g arg
  else match t.waiting with
    | some rule => if looksLikeOption arg then .error .misuse else t.addValue rule arg
    | none =>
      match arg.toList with
      | ['-', '-'] => .ok { t with onlyWords := true }
      | '-' :: '-' :: body => t.addNamed g body
      | '-' :: c :: cs => t.addLetters g (c :: cs)
      | _ => t.addWord g arg

/-- Takes all arguments. No option may be left without its value. -/
def addAll (g : Grammar σ) (args : List String) : Except Stop (Taken σ) := do
  let t ← args.foldlM (add g) {}
  if t.waiting.isSome then .error .misuse else .ok t

/-- Takes the options before the first word, which names a subcommand, and gives that
word with the arguments after it. -/
def addLeading (g : Grammar σ) :
    Taken σ → List String → Except Stop (Taken σ × String × List String)
  | _, [] => .error .misuse
  | t, arg :: args => do
    if t.waiting.isNone && !looksLikeOption arg then .ok (t, arg, args)
    else if arg == "--" then .error .misuse
    else addLeading g (← t.add g arg) args

/-- The settings in their order. -/
def settings (t : Taken σ) : List σ :=
  t.given.map Prod.snd

end Taken

end Roster.Command
