import ServiceDiscovery.Text.Quoted

/-!
The grammar of a command line: options, which are known by their names and may take a value, and
operands, which are known by their place. An operand that may be left out comes last, and so does
one that names a command and hands all arguments behind it over to that command's own grammar.
-/

namespace ServiceDiscovery.CommandLine

/-- An argument. Whoever starts the program may leave one of them without a text. -/
abbrev Argument := Option String

def Argument.quoted : Argument → String
  | some text => Text.Quoted.text text
  | none => "None"

inductive Key where
  | help
  | config
  | verbose
  | logLevel
  | json
  | command
  | type
  | name
  | port
  | txt
  | browse
  | timeout
  deriving DecidableEq, Repr

structure OptionForm where
  key : Key
  /-- Names with one dash or two, each of which stands for the option. -/
  names : List String
  /-- What stands for the value in the usage. A switch has none. -/
  value : Option String := none
  help : String

inductive Extent where
  | one
  | optional
  /-- The name of a command and everything that follows it. -/
  | command
  deriving DecidableEq, Repr

structure OperandForm where
  key : Key
  /-- How messages call the operand. -/
  name : String
  extent : Extent := .one
  help : String
  /-- The commands that can be named, each with what it does. -/
  commands : List (String × String) := []

structure Grammar where
  /-- The words with which the program is started. -/
  program : String
  description : Option String := none
  options : List OptionForm
  operands : List OperandForm := []

/-- All names of an option, as messages give them. -/
def OptionForm.title (form : OptionForm) : String :=
  "/".intercalate form.names

/-- All names of options with what they stand for. -/
def Grammar.names (grammar : Grammar) : List (String × OptionForm) :=
  grammar.options.flatMap fun form => form.names.map fun name => (name, form)

def Grammar.option? (name : String) (grammar : Grammar) : Option OptionForm :=
  grammar.names.lookup name

/-- Texts between braces, as the choices that there are. -/
def braced (texts : List String) : String :=
  "\x7b" ++ ",".intercalate texts ++ "\x7d"

inductive Complaint where
  | valueMissing (title : String)
  /-- A switch was given a value. -/
  | valueIgnored (title given : String)
  | noChoice (title : String) (given : Argument) (choices : List String)
  | noValue (title kind : String) (given : Argument)
  | ambiguous (given : String) (names : List String)
  | missing (operands : List String)
  | unclaimed (arguments : List String)
  /-- A complaint that was worded elsewhere. -/
  | other (message : String)
  deriving DecidableEq, Repr

namespace Complaint

def about (title message : String) : String :=
  "argument " ++ title ++ ": " ++ message

def message : Complaint → String
  | valueMissing title => about title "expected one argument"
  | valueIgnored title given =>
      about title ("ignored explicit argument " ++ Text.Quoted.text given)
  | noChoice title given choices =>
      about title ("invalid choice: " ++ given.quoted ++ " (choose from " ++
        ", ".intercalate (choices.map Text.Quoted.text) ++ ")")
  | noValue title kind given => about title ("invalid " ++ kind ++ " value: " ++ given.quoted)
  | ambiguous given names =>
      "ambiguous option: " ++ given ++ " could match " ++ ", ".intercalate names
  | missing operands =>
      "the following arguments are required: " ++ ", ".intercalate operands
  | unclaimed arguments => "unrecognized arguments: " ++ " ".intercalate arguments
  | other message => message

end Complaint

end ServiceDiscovery.CommandLine
