import ServiceDiscovery.CommandLine.Grammar
import ServiceDiscovery.Text.Decimal
import ServiceDiscovery.Text.Split

/-!
Reading a command line. Every argument is first taken for an option or not, by its own text alone;
an option may be given by the beginning of its long name, switches of one letter may share a dash,
and behind two dashes nothing is an option. Then options take their values, and operands take the
other arguments from left to right. What nobody takes is left over.

What was given is kept in order up to the first complaint, since an option may ask for something to
be done before the complaint is due.
-/

namespace ServiceDiscovery.CommandLine

inductive Word where
  | operand
  /-- The two dashes behind which nothing is an option. -/
  | divider
  | unknown
  /-- An option with the text that is written together with it. -/
  | option (form : OptionForm) (name : String) (attached : Option String)

namespace Word

/-- The options that an argument behind one dash or two may mean. -/
def candidates (grammar : Grammar) (text : List Char) :
    List (String × OptionForm × Option String) :=
  match text with
  | '-' :: '-' :: _ =>
      let (name, value) := Text.cut '=' text
      grammar.names.filterMap fun (known, form) =>
        if name.isPrefixOf known.toList then
          some (known, form, value.map String.ofList)
        else none
  | _ =>
      grammar.names.filterMap fun (known, form) =>
        if known.toList = text.take 2 then
          some (known, form, some (String.ofList (text.drop 2)))
        else if text.isPrefixOf known.toList then some (known, form, none)
        else none

/-- Is a text a negative number without an exponent? A line feed may end it. -/
def isNegativeNumber : List Char → Bool
  | '-' :: rest =>
      let digits := if rest.getLast? = some '\n' then rest.dropLast else rest
      let isDigit (c : Char) : Bool := (Text.decimalValue? c).isSome
      match Text.cut '.' digits with
      | (whole, none) => whole ≠ [] && whole.all isDigit
      | (whole, some places) => whole.all isDigit && places ≠ [] && places.all isDigit
  | _ => false

/-- An argument that begins with a dash and is no option's name. -/
def ofDashed (grammar : Grammar) (text : List Char) : Except Complaint Word :=
  let (name, value) := Text.cut '=' text
  match grammar.option? (String.ofList name), value with
  | some form, some value =>
      .ok (.option form (String.ofList name) (some (String.ofList value)))
  | _, _ =>
      match candidates grammar text with
      | [(name, form, attached)] => .ok (.option form name attached)
      | [] => .ok (if isNegativeNumber text || text.contains ' ' then .operand else .unknown)
      | several => .error (.ambiguous (String.ofList text) (several.map (·.1)))

def ofArgument (grammar : Grammar) : Argument → Except Complaint Word
  | none => .ok .operand
  | some text =>
      if text = "--" then .ok .divider
      else match text.toList with
        | '-' :: c :: rest =>
            match grammar.option? text with
            | some form => .ok (.option form text none)
            | none => ofDashed grammar ('-' :: c :: rest)
        | _ => .ok .operand

def ofArguments (grammar : Grammar) :
    List Argument → Except Complaint (List (Argument × Word))
  | [] => .ok []
  | argument :: rest => do
      match ← ofArgument grammar argument with
      | .divider => return (argument, .divider) :: rest.map (·, .operand)
      | word => return (argument, word) :: (← ofArguments grammar rest)

end Word

/-- What was given for an option or an operand. A switch has no arguments. -/
structure Given where
  key : Key
  /-- How messages call the option or operand. -/
  title : String
  arguments : List Argument
  deriving DecidableEq, Repr

structure Reading where
  given : List Given := []
  /-- Arguments that nobody took. -/
  rest : List Argument := []
  /-- Operands that got nothing and need something. -/
  missing : List String := []
  complaint : Option Complaint := none
  deriving DecidableEq, Repr

namespace Reading

def failed (complaint : Complaint) : Reading where
  complaint := some complaint

def give (given : List Given) (reading : Reading) : Reading :=
  { reading with given := given ++ reading.given }

def leave (arguments : List Argument) (reading : Reading) : Reading :=
  { reading with rest := arguments ++ reading.rest }

def switched (form : OptionForm) : Given where
  key := form.key
  title := form.title
  arguments := []

def valued (form : OptionForm) (argument : Argument) : Given where
  key := form.key
  title := form.title
  arguments := [argument]

/-- What an argument with options amounts to: what it gives, and the option that still waits for its
value. -/
structure Cluster where
  given : List Given := []
  waiting : Option OptionForm := none

def Cluster.give (given : Given) (cluster : Cluster) : Cluster :=
  { cluster with given := given :: cluster.given }

def bare (form : OptionForm) : Cluster :=
  if form.value.isSome then { waiting := some form } else { given := [switched form] }

/-- Letters behind a switch of one letter, each of which is a switch again, until one of them takes
what is left as its value. A letter that is no option makes everything from there on a value of the
switch before it, which has no use for one. -/
def letters (grammar : Grammar) (form : OptionForm) : List Char → Except Complaint Cluster
  | [] => .ok (bare form)
  | c :: rest =>
      let text := String.ofList (c :: rest)
      if form.value.isSome then .ok { given := [valued form (some text)] }
      else match grammar.option? (String.ofList ['-', c]) with
        | none => .error (.valueIgnored form.title text)
        | some next => (letters grammar next rest).map (Cluster.give (switched form))

/-- What an argument with options amounts to. -/
def cluster (grammar : Grammar) (form : OptionForm) (name : String) :
    Option String → Except Complaint Cluster
  | none => .ok (bare form)
  | some text =>
      if form.value.isSome then .ok { given := [valued form (some text)] }
      else if text = "" || "--".isPrefixOf name then .error (.valueIgnored form.title text)
      else letters grammar form text.toList

/-- What the words read so far lead to. -/
inductive State where
  | plain
  /-- Two dashes just went by, which the next operand takes together with its argument. -/
  | behindDivider
  /-- An operand just took its argument, and two dashes behind it go to it as well. -/
  | behindOperand
  /-- An option waits for its value. Until that comes, nothing else of its argument counts. -/
  | awaiting (given : List Given) (form : OptionForm)

/-- Operands that nothing is left for. -/
def unmet (forms : List OperandForm) : List String :=
  (forms.filter (·.extent = .one)).map (·.name)

/-- An operand takes an argument. Two dashes on their own, which no other two dashes came with,
count as none. -/
def single (state : State) (argument : Argument) : List Argument :=
  match state with
  | .behindDivider => [argument]
  | _ => if argument = some "--" then [] else [argument]

def taken (form : OperandForm) (arguments : List Argument) : Given where
  key := form.key
  title := form.name
  arguments

/-- Options take their values and operands their arguments. -/
def ofWords (grammar : Grammar) :
    State → List OperandForm → List (Argument × Word) → Reading
  | .awaiting _ form, _, [] => failed (.valueMissing form.title)
  | .awaiting given form, forms, (argument, .operand) :: rest =>
      (ofWords grammar .plain forms rest).give (given ++ [valued form argument])
  | .awaiting _ form, _, _ :: _ => failed (.valueMissing form.title)
  | _, forms, [] => { missing := unmet forms }
  | _, forms, (argument, .unknown) :: rest =>
      (ofWords grammar .plain forms rest).leave [argument]
  | _, forms, (_, .option form name attached) :: rest =>
      match cluster grammar form name attached with
      | .error complaint => failed complaint
      | .ok made =>
          match made.waiting with
          | some form => ofWords grammar (.awaiting made.given form) forms rest
          | none => (ofWords grammar .plain forms rest).give made.given
  | .behindOperand, forms, (_, .divider) :: rest => ofWords grammar .plain forms rest
  | _, forms, (argument, .divider) :: rest =>
      match forms with
      | [] => (ofWords grammar .plain [] rest).leave [argument]
      | form :: later =>
          if form.extent = .optional then ofWords grammar .behindDivider forms rest
          else if rest.isEmpty then { rest := [argument], missing := unmet forms }
          else if form.extent = .one then ofWords grammar .behindDivider forms rest
          else { given := [taken form (argument :: rest.map (·.1))], missing := unmet later }
  | state, forms, (argument, .operand) :: rest =>
      match forms with
      | [] => (ofWords grammar .plain [] rest).leave [argument]
      | form :: later =>
          if form.extent = .command then
            { given := [taken form (argument :: rest.map (·.1))], missing := unmet later }
          else (ofWords grammar .behindOperand later rest).give [taken form (single state argument)]

def ofArguments (grammar : Grammar) (arguments : List Argument) : Reading :=
  match Word.ofArguments grammar arguments with
  | .ok words => ofWords grammar .plain grammar.operands words
  | .error complaint => failed complaint

end Reading

end ServiceDiscovery.CommandLine
