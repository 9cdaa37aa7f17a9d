import ServiceDiscovery.CommandLine.Grammar

/-!
How a grammar is explained. The usage names every option and operand; where it does not fit on one
line, options are spread over as many lines as they need and operands begin a line of their own. The
help adds what each of them is for, in two columns.
-/

namespace ServiceDiscovery.CommandLine

/-- The columns that a line may take up. -/
def lineWidth : Nat := 78

/-- The column at which explanations begin. -/
def helpColumn : Nat := 24

def blanks (count : Nat) : String :=
  "".pushn ' ' count

namespace Usage

/-- An option in the usage. All options may be left out. -/
def option (form : OptionForm) : String :=
  "[" ++ " ".intercalate (form.names.take 1 ++ form.value.toList) ++ "]"

def operand (form : OperandForm) : String :=
  match form.extent with
  | .one => form.name
  | .optional => "[" ++ form.name ++ "]"
  | .command => braced (form.commands.map (·.1)) ++ " ..."

/-- Puts words on lines. Each line begins in a column of its own, and what stands there already is
counted with the first. -/
def fill (indent : Nat) : Nat → List String → List String → List (List String)
  | _, line, [] => if line = [] then [] else [line]
  | column, line, word :: rest =>
      if lineWidth < column + 1 + word.length && line ≠ [] then
        line :: fill indent (indent + word.length) [word] rest
      else fill indent (column + 1 + word.length) (line ++ [word]) rest

/-- Words on lines behind an indent. -/
def spread (indent : Nat) (words : List String) : List String :=
  (fill indent (indent - 1) [] words).map fun line => blanks indent ++ " ".intercalate line

def opening : String := "usage: "

def lines (grammar : Grammar) : List String :=
  let options := grammar.options.map option
  let operands := grammar.operands.map operand
  let whole := opening ++ " ".intercalate (grammar.program :: options ++ operands)
  if whole.length ≤ lineWidth then [whole]
  else
    let indent := opening.length + grammar.program.length + 1
    match spread indent options with
    | [] => whole :: []
    | first :: rest =>
        (opening ++ grammar.program ++ String.ofList (first.toList.drop (indent - 1))) :: rest ++
          spread indent operands

end Usage

namespace Help

/-- An entry in two columns. A long left side has its own line. -/
def entry (indent : Nat) (left right : String) : List String :=
  let start := blanks indent ++ left
  if indent + left.length + 2 ≤ helpColumn then
    [start ++ blanks (helpColumn - start.length) ++ right]
  else [start, blanks helpColumn ++ right]

/-- The names of an option, each with its value. -/
def optionNames (form : OptionForm) : String :=
  ", ".intercalate (form.names.map fun name => " ".intercalate (name :: form.value.toList))

def option (form : OptionForm) : List String :=
  entry 2 (optionNames form) form.help

/-- An operand, followed by the commands that it can name. -/
def operand (form : OperandForm) : List String :=
  let left := if form.commands = [] then form.name else braced (form.commands.map (·.1))
  entry 2 left form.help ++ form.commands.flatMap fun command => entry 4 command.1 command.2

/-- Lines under a title, after a blank line. Without lines there is nothing. -/
def titled (title : String) (lines : List String) : List String :=
  if lines = [] then [] else "" :: title :: lines

def lines (grammar : Grammar) : List String :=
  Usage.lines grammar ++ grammar.description.toList.flatMap (fun text => ["", text]) ++
    titled "positional arguments:" (grammar.operands.flatMap operand) ++
    titled "options:" (grammar.options.flatMap option)

end Help

end ServiceDiscovery.CommandLine
