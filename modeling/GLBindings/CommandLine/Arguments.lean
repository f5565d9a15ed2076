import GLBindings.Config

namespace GLBindings.CommandLine

/-!
# CommandLine — what the arguments ask for

A long option is written `--name value` or `--name=value`, a short one `-n value`, `-nvalue` or
`-n=value`, and short ones without a value can stand together. Behind `--` nothing is an option.

* `Opt` — the options, with their names and whether they take a value.
* `Subcommand` — the subcommands, with the options that each takes.
* `Request` — what is asked for in the end.
* `parse?` — reads the arguments from left to right and stops at the first reason to.
-/

/-! ### Options -/

/-- An option. -/
inductive Opt where
  | config
  | registry
  | api
  | version
  | profile
  | language
  | output
  | stem
  | dryRun
  | verbose
  | help
  /-- Shows the version of the program. -/
  | programVersion
  deriving Repr, DecidableEq

namespace Opt

/-- The name behind two hyphens. -/
def long : Opt → String
  | config => "config"
  | registry => "registry"
  | api => "api"
  | version => "version"
  | profile => "profile"
  | language => "language"
  | output => "output"
  | stem => "prefix"
  | dryRun => "dry-run"
  | verbose => "verbose"
  | help => "help"
  | programVersion => "version"

/-- The letter behind one hyphen. -/
def short? : Opt → Option Char
  | config => some 'c'
  | registry => some 'r'
  | language => some 'l'
  | output => some 'o'
  | verbose => some 'v'
  | help => some 'h'
  | programVersion => some 'V'
  | _ => none

/-- Does a value belong to the option? -/
def takesValue : Opt → Bool
  | dryRun | verbose | help | programVersion => false
  | _ => true

end Opt

/-! ### Subcommands -/

/-- A shell that completions can be asked for. -/
inductive Shell where
  | bash
  | elvish
  | fish
  | powershell
  | zsh
  deriving Repr, DecidableEq

/-- The shell with a name. -/
def Shell.parse? : String → Option Shell
  | "bash" => some .bash
  | "elvish" => some .elvish
  | "fish" => some .fish
  | "powershell" => some .powershell
  | "zsh" => some .zsh
  | _ => none

/-- A subcommand. -/
inductive Subcommand where
  | generate
  | check
  | info
  | completions
  deriving Repr, DecidableEq

namespace Subcommand

/-- The subcommand with a name. -/
def parse? : String → Option Subcommand
  | "generate" => some .generate
  | "check" => some .check
  | "info" => some .info
  | "completions" => some .completions
  | _ => none

/-- The options that every subcommand takes. -/
def sharedOptions : List Opt := [.verbose, .help]

/-- The options that say what is wanted. -/
def targetOptions : List Opt := [.config, .registry, .api, .version, .profile]

/-- The options that a subcommand takes. -/
def options : Subcommand → List Opt
  | generate => targetOptions ++ [.language, .output, .stem, .dryRun] ++ sharedOptions
  | check => targetOptions ++ sharedOptions
  | info => [.config, .registry] ++ sharedOptions
  | completions => sharedOptions

end Subcommand

/-- The options in front of a subcommand. -/
def rootOptions : List Opt := [.verbose, .help, .programVersion]

/-! ### Requests -/

/-- What is asked for. -/
inductive Request where
  /-- Bindings for a target, in a language, below a directory and under a name. -/
  | generate (config : Option Path) (choice : TargetChoice) (language : Option Language)
      (output : Option Path) (stem : Option Stem) (dryRun : Bool)
  /-- Whether a target has everything that it needs. -/
  | check (config : Option Path) (choice : TargetChoice)
  /-- What a registry holds. -/
  | info (config registry : Option Path)
  | completions (shell : Shell)
  /-- The version of the program. -/
  | programVersion
  | help
  deriving Repr, DecidableEq

/-- Why reading stops before the last argument. -/
inductive Stop where
  /-- The arguments are wrong. -/
  | usage
  /-- The rest does not matter. -/
  | done (request : Request)
  deriving Repr, DecidableEq

/-- The options that have been met. -/
structure Draft where
  config : Option Path
  registry : Option Path
  api : Option String
  version : Option String
  profile : Option String
  language : Option Language
  output : Option Path
  stem : Option Stem
  dryRun : Bool
  shell : Option Shell
  deriving Repr, DecidableEq

namespace Draft

/-- Nothing met yet. -/
def empty : Draft := ⟨none, none, none, none, none, none, none, none, false, none⟩

/-- A value for an option that must not have one yet. -/
def once {α : Type} (old : Option α) (new : Option α) : Except Stop (Option α) :=
  match old, new with
  | none, some a => .ok (some a)
  | _, _ => .error .usage

/-- A path, which must not be empty. -/
def path? (value : String) : Option Path :=
  if value = "" then none else some value

/-- Meets an option with its value. -/
def set (d : Draft) (o : Opt) (value : String) : Except Stop Draft := do
  match o with
  | .config => return { d with config := ← once d.config (path? value) }
  | .registry => return { d with registry := ← once d.registry (path? value) }
  | .api => return { d with api := ← once d.api (some value) }
  | .version => return { d with version := ← once d.version (some value) }
  | .profile => return { d with profile := ← once d.profile (some value) }
  | .language => return { d with language := ← once d.language (Language.parse? value).toOption }
  | .output => return { d with output := ← once d.output (path? value) }
  | .stem => return { d with stem := ← once d.stem (some value) }
  | _ => throw .usage

/-- Meets an option without a value. How often messages are asked for does not matter here. -/
def mark (d : Draft) : Opt → Except Stop Draft
  | .dryRun => if d.dryRun then .error .usage else .ok { d with dryRun := true }
  | .verbose => .ok d
  | .help => .error (.done .help)
  | .programVersion => .error (.done .programVersion)
  | _ => .error .usage

/-- Meets an argument that is not an option; only a shell can be one. -/
def operand (d : Draft) (command : Subcommand) (arg : String) : Except Stop Draft :=
  match command, d.shell, Shell.parse? arg with
  | .completions, none, some shell => .ok { d with shell := some shell }
  | _, _, _ => .error .usage

/-- What the options choose of a target. -/
def choice (d : Draft) : TargetChoice := ⟨d.registry, d.api, d.version, d.profile⟩

/-- What a subcommand with these options asks for. -/
def request (d : Draft) : Subcommand → Except Stop Request
  | .generate => .ok (.generate d.config d.choice d.language d.output d.stem d.dryRun)
  | .check => .ok (.check d.config d.choice)
  | .info => .ok (.info d.config d.registry)
  | .completions =>
    match d.shell with
    | some shell => .ok (.completions shell)
    | none => .error .usage

end Draft

/-! ### One argument -/

/-- What an argument looks like. -/
inductive Shape where
  /-- Two hyphens alone. -/
  | separator
  /-- A name behind two hyphens, and what is behind an equals sign. -/
  | long (name : List Char) (attached : Option (List Char))
  /-- Letters behind one hyphen. -/
  | short (letters : List Char)
  /-- Anything else; a hyphen alone too. -/
  | plain
  deriving Repr, DecidableEq

/-- What an argument looks like. -/
def shape : List Char → Shape
  | ['-', '-'] => .separator
  | '-' :: '-' :: cs =>
    let name := cs.takeWhile (· ≠ '=')
    match cs.drop name.length with
    | [] => .long name none
    | _ :: value => .long name (some value)
  | '-' :: c :: cs => .short (c :: cs)
  | _ => .plain

/-- An option that takes a value, and the value if it is in the same argument. -/
abbrev Pending := Option (Opt × Option String)

/-- Reads letters up to one that takes a value. -/
def readLetters (options : List Opt) (d : Draft) : List Char → Except Stop (Draft × Pending)
  | [] => .ok (d, none)
  | c :: cs =>
    match options.find? (·.short? == some c) with
    | none => .error .usage
    | some o =>
      if o.takesValue then
        match cs with
        | [] => .ok (d, some (o, none))
        | '=' :: value => .ok (d, some (o, some (String.ofList value)))
        | value => .ok (d, some (o, some (String.ofList value)))
      else do readLetters options (← d.mark o) cs

/-- Reads a long option. -/
def readLong (options : List Opt) (d : Draft) (name : List Char) (attached : Option (List Char)) :
    Except Stop (Draft × Pending) :=
  match options.find? (·.long.toList == name) with
  | none => .error .usage
  | some o =>
    if o.takesValue then .ok (d, some (o, attached.map String.ofList))
    else if attached.isSome then .error .usage
    else do return (← d.mark o, none)

/-! ### All arguments -/

/-- Reads arguments that are not options. -/
def readOperands (command : Subcommand) (d : Draft) (args : List String) : Except Stop Draft :=
  args.foldlM (fun d arg => d.operand command arg) d

/-- Reads the arguments of a subcommand. `pending` is an option that waits for its value. -/
def readArguments (command : Subcommand) (d : Draft) (pending : Option Opt) :
    List String → Except Stop Draft
  | [] => if pending.isSome then .error .usage else .ok d
  | arg :: args => do
    match shape arg.toList, pending with
    | .plain, some o => readArguments command (← d.set o arg) none args
    | _, some _ => throw .usage
    | .plain, none => readArguments command (← d.operand command arg) none args
    | .separator, none => readOperands command d args
    | .long name attached, none =>
      match ← readLong command.options d name attached with
      | (d, none) => readArguments command d none args
      | (d, some (o, none)) => readArguments command d (some o) args
      | (d, some (o, some value)) => readArguments command (← d.set o value) none args
    | .short letters, none =>
      match ← readLetters command.options d letters with
      | (d, none) => readArguments command d none args
      | (d, some (o, none)) => readArguments command d (some o) args
      | (d, some (o, some value)) => readArguments command (← d.set o value) none args

/-- Reads what follows the word `help`: at most one subcommand. -/
def readHelp : List String → Except Stop Request
  | [] => .ok .help
  | [name] =>
    if name = "help" || (Subcommand.parse? name).isSome then .ok .help else .error .usage
  | _ => .error .usage

/-- Reads all arguments. -/
def readRoot : List String → Except Stop Request
  | [] => .error .usage
  | arg :: args => do
    match shape arg.toList with
    | .plain =>
      match Subcommand.parse? arg with
      | some command => (← readArguments command .empty none args).request command
      | none => if arg = "help" then readHelp args else throw .usage
    | .separator => throw .usage
    | .long name attached =>
      let _ ← readLong rootOptions .empty name attached
      readRoot args
    | .short letters =>
      let _ ← readLetters rootOptions .empty letters
      readRoot args

/-- What the arguments ask for; `none` if they are wrong. -/
def parse? (args : List String) : Option Request :=
  match readRoot args with
  | .ok request => some request
  | .error (.done request) => some request
  | .error .usage => none

end GLBindings.CommandLine
