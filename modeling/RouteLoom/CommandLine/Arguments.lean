/-!
# Command line arguments

The arguments are taken one after the other, and the first that decides the outcome does. A flag
may be given once on each level, `--verbose` on both. Behind `--` a word that begins with a dash is
the name of a file. Short flags may be joined behind one dash.
-/

namespace RouteLoom

inductive Verb
  | weave
  | validate
  | info
deriving DecidableEq, Repr

inductive Misuse
  | noVerb
  | noFile
  | emptyFile
  | unknownVerb (word : String)
  | unexpected (word : String)
  /-- A value is joined to a flag that takes none. -/
  | unwanted (value flag : String)
  | repeated (flag : String)
deriving DecidableEq, Repr

def Misuse.message : Misuse → String
  | .noVerb =>
    "'routeweave' requires a subcommand but one was not provided\n"
    ++ "  [subcommands: weave, validate, info, help]"
  | .noFile => "the following required arguments were not provided:\n  <DEFINITION>"
  | .emptyFile => "a value is required for '<DEFINITION>' but none was supplied"
  | .unknownVerb word => "unrecognized subcommand '" ++ word ++ "'"
  | .unexpected word => "unexpected argument '" ++ word ++ "' found"
  | .unwanted value flag =>
    "unexpected value '" ++ value ++ "' for '" ++ flag ++ "' found; no more were expected"
  | .repeated flag => "the argument '" ++ flag ++ "' cannot be used multiple times"

inductive Request
  | run (verb : Verb) (file : String) (json lenient : Bool)
  | version
  | help (topic : Option Verb)
  /-- No verb and no flag is given at all. -/
  | nothing
  | misuse (misuse : Misuse)
deriving DecidableEq, Repr

namespace Request

def verb? (word : String) : Option Verb :=
  if word = "weave" then some .weave
  else if word = "validate" then some .validate
  else if word = "info" then some .info
  else none

/-- What has been given on one level. -/
structure Given where
  file : Option String := none
  json : Bool := false
  lenient : Bool := false
  verbose : Bool := false
  filesOnly : Bool := false

def isOption (word : String) : Bool := word.startsWith "-" && word ≠ "-"

def takeVerbose (g : Given) : Except Request Given :=
  if g.verbose then .error (.misuse (.repeated "--verbose")) else .ok { g with verbose := true }

/-- Refuses a word that begins with two dashes, where `known` are the flags. If the word is one of
them itself, it has been given before. -/
def refuseLong (known : List String) (word : String) : Request :=
  match word.splitOn "=" with
  | flag :: part :: parts =>
    if flag ∈ known then .misuse (.unwanted ("=".intercalate (part :: parts)) flag)
    else .misuse (.unexpected flag)
  | _ => if word ∈ known then .misuse (.repeated word) else .misuse (.unexpected word)

def refuseShort (flag : Char) : Request := .misuse (.unexpected (String.ofList ['-', flag]))

/-! ### Behind the verb -/

def longFlags : Verb → List String
  | .weave => ["--json", "--allow-missing-proceed", "--verbose", "--help"]
  | _ => ["--verbose", "--help"]

/-- The flags that a verb has beside those of the tool. -/
def takeLong (verb : Verb) (word : String) (g : Given) : Except Request Given :=
  if word = "--help" then .error (.help (some verb))
  else if word = "--verbose" then takeVerbose g
  else if verb = .weave && word = "--json" && !g.json then .ok { g with json := true }
  else if verb = .weave && word = "--allow-missing-proceed" && !g.lenient then
    .ok { g with lenient := true }
  else .error (refuseLong (longFlags verb) word)

def takeShort (verb : Verb) (g : Given) (flag : Char) : Except Request Given :=
  if flag = 'h' then .error (.help (some verb))
  else if flag = 'v' then takeVerbose g
  else .error (refuseShort flag)

/-- There is one file, and its name is not empty. -/
def takeFile (word : String) (g : Given) : Except Request Given :=
  if g.file.isSome then .error (.misuse (.unexpected word))
  else if word = "" then .error (.misuse .emptyFile)
  else .ok { g with file := some word }

def takeWord (verb : Verb) (g : Given) (word : String) : Except Request Given :=
  if g.filesOnly || !isOption word then takeFile word g
  else if word = "--" then .ok { g with filesOnly := true }
  else if word.startsWith "--" then takeLong verb word g
  else (word.toList.drop 1).foldlM (takeShort verb) g

def parseVerb (verb : Verb) (words : List String) : Request :=
  match words.foldlM (takeWord verb) {} with
  | .error request => request
  | .ok g =>
    match g.file with
    | some file => .run verb file g.json g.lenient
    | none => .misuse .noFile

/-! ### In front of the verb -/

def topic? (word : String) : Option (Option Verb) :=
  if word = "help" then some none else (verb? word).map some

/-- The words behind `help`. No topic has topics of its own. -/
def parseHelp : List String → Request
  | [] => .help none
  | word :: rest =>
    match topic? word, rest with
    | none, _ => .misuse (.unknownVerb word)
    | some topic, [] => .help topic
    | some _, word :: _ => .misuse (.unknownVerb word)

def takeToolShort (g : Given) (flag : Char) : Except Request Given :=
  if flag = 'h' then .error (.help none)
  else if flag = 'V' then .error .version
  else if flag = 'v' then takeVerbose g
  else .error (refuseShort flag)

def takeToolFlag (word : String) (g : Given) : Except Request Given :=
  if word = "--help" then .error (.help none)
  else if word = "--version" then .error .version
  else if word = "--verbose" then takeVerbose g
  else if word.startsWith "--" then
    .error (refuseLong ["--verbose", "--help", "--version"] word)
  else (word.toList.drop 1).foldlM takeToolShort g

def withoutVerb (g : Given) : Request := if g.verbose then .misuse .noVerb else .nothing

/-- The words behind `--`, where a verb is out of place. -/
def parseStray (g : Given) : List String → Request
  | [] => withoutVerb g
  | word :: _ =>
    if (topic? word).isSome then .misuse (.unexpected word) else .misuse (.unknownVerb word)

def parseTool (g : Given) : List String → Request
  | [] => withoutVerb g
  | word :: rest =>
    if word = "--" then parseStray g rest
    else if isOption word then
      match takeToolFlag word g with
      | .error request => request
      | .ok g => parseTool g rest
    else if word = "help" then parseHelp rest
    else
      match verb? word with
      | some verb => parseVerb verb rest
      | none => .misuse (.unknownVerb word)

def parse (words : List String) : Request := parseTool {} words

end Request

end RouteLoom
