/-
# Responder.CommandLine.Options -- reading the words of a command line

Three options take a value, which stands in the next word, or in the same word
after an equals sign or, for a letter, directly after it.  Each may be given
once, a path may not be empty, and nothing else may be given.  Help and version
are shown as soon as they are asked for, if all words before were right.
-/

namespace Responder.CommandLine

set_option autoImplicit false

/-- What a command line gives. -/
structure Options where
  config : Option String
  report : Option String
  logLevel : Option String
  deriving DecidableEq

/-- Nothing given. -/
def Options.none : Options := ⟨.none, .none, .none⟩

/-- Why a command line is not carried out. -/
inductive Stop where
  | help
  | version
  /-- The words are wrong. -/
  | misuse
  deriving DecidableEq

/-- The options that take a value. -/
inductive Key where
  | config
  | report
  | logLevel
  deriving DecidableEq

/-- The option of a long name. -/
def Key.ofName? (name : String) : Option Key :=
  match name with
  | "config" => some .config
  | "report" => some .report
  | "log-level" => some .logLevel
  | _ => Option.none

/-- The option of a letter. -/
def Key.ofLetter? (letter : Char) : Option Key :=
  match letter with
  | 'c' => some .config
  | 'r' => some .report
  | 'l' => some .logLevel
  | _ => Option.none

namespace Options

/-- Gives an option its value. -/
def set (o : Options) (key : Key) (value : String) : Except Stop Options :=
  match key with
  | .config =>
    if o.config.isSome ∨ value = "" then .error .misuse else .ok { o with config := value }
  | .report =>
    if o.report.isSome ∨ value = "" then .error .misuse else .ok { o with report := value }
  | .logLevel => if o.logLevel.isSome then .error .misuse else .ok { o with logLevel := value }

end Options

/-- What a word is before its value is looked at. -/
inductive Word where
  /-- An option, with its value if it is in the same word. -/
  | option (key : Key) (value : Option String)
  | stop (reason : Stop)
  /-- Two hyphens: options end here. -/
  | endOfOptions
  /-- Anything else, which can only be a value. -/
  | plain

/-- What a word is. -/
def Word.ofString (word : String) : Word :=
  match word.toList with
  | ['-', '-'] => .endOfOptions
  | '-' :: '-' :: rest =>
    let name := String.ofList (rest.takeWhile (· != '='))
    let value :=
      match rest.dropWhile (· != '=') with
      | _ :: value => some (String.ofList value)
      | [] => Option.none
    match Key.ofName? name, name, value with
    | some key, _, _ => .option key value
    | Option.none, "help", Option.none => .stop .help
    | Option.none, "version", Option.none => .stop .version
    | _, _, _ => .stop .misuse
  | '-' :: letter :: rest =>
    match Key.ofLetter? letter, letter with
    | some key, _ =>
      .option key <|
        match rest with
        | [] => Option.none
        | '=' :: value => some (String.ofList value)
        | value => some (String.ofList value)
    | Option.none, 'h' => .stop .help
    | Option.none, 'V' => .stop .version
    | _, _ => .stop .misuse
  | _ => .plain

/-- Reads words after what has been given. -/
def parseFrom : Options → List String → Except Stop Options
  | o, [] => .ok o
  | o, word :: rest =>
    match Word.ofString word with
    | .option key (some value) => do parseFrom (← o.set key value) rest
    | .option key Option.none =>
      match rest with
      | value :: rest =>
        match Word.ofString value with
        | .plain => do parseFrom (← o.set key value) rest
        | _ => .error .misuse
      | [] => .error .misuse
    | .stop reason => .error reason
    | .endOfOptions => if rest = [] then .ok o else .error .misuse
    | .plain => .error .misuse

/-- Reads the words of a command line. -/
def parse (words : List String) : Except Stop Options := parseFrom .none words

end Responder.CommandLine
