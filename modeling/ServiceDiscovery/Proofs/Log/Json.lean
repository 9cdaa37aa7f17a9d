import ServiceDiscovery.Log.Line
import ServiceDiscovery.Proofs.Text.Points
import ServiceDiscovery.Yaml.Character

/-!
JSON objects of texts, read back. A reader goes through a JSON text one character at a time and
cuts it into tokens; it knows every escape, takes blanks between tokens, and refuses control
characters inside a text. What was written as an object is read as the fields that it was made of,
and is printable ASCII throughout.
-/

namespace ServiceDiscovery.Log.Json

open Text Text.Point Text.Points

inductive Token where
  | opening
  | closing
  | colon
  | comma
  | text (points : Points)
  deriving DecidableEq, Repr

/-- Where a reader is: between tokens, inside a text, behind a backslash, or among the digits of an
escape by number, of which some are still due. -/
inductive Mode where
  | between
  | inside (read : Points)
  | escaped (read : Points)
  | numbered (read : Points) (due value : Nat)
  deriving DecidableEq, Repr

def isBlank (c : Char) : Bool :=
  c = ' ' || c = '\t' || c = '\n' || c = '\r'

/-- The character that a letter behind a backslash stands for. -/
def escaped? (letter : Char) : Option Char :=
  if letter = '"' || letter = '\\' || letter = '/' then some letter
  else if letter = 'b' then some '\x08'
  else if letter = 'f' then some '\x0c'
  else if letter = 'n' then some '\n'
  else if letter = 'r' then some '\r'
  else if letter = 't' then some '\t'
  else none

/-- Reads one character. The halves of a pair are joined at the end of their text. -/
def advance : Mode → Char → Option (Mode × List Token)
  | .between, c =>
      if isBlank c then some (.between, [])
      else if c = '\x7b' then some (.between, [.opening])
      else if c = '\x7d' then some (.between, [.closing])
      else if c = ':' then some (.between, [.colon])
      else if c = ',' then some (.between, [.comma])
      else if c = '"' then some (.inside [], [])
      else none
  | .inside read, c =>
      if c = '"' then some (.between, [.text (paired read)])
      else if c = '\\' then some (.escaped read, [])
      else if c.toNat < 0x20 then none
      else some (.inside (read ++ [.char c]), [])
  | .escaped read, c =>
      if c = 'u' then some (.numbered read 4 0, [])
      else (escaped? c).map fun meant => (.inside (read ++ [.char meant]), [])
  | .numbered read due value, c =>
      (Yaml.hexValue? c).map fun digit =>
        if due = 1 then (.inside (read ++ [.ofCode (value * 16 + digit)]), [])
        else (.numbered read (due - 1) (value * 16 + digit), [])

/-- The tokens of a JSON text, if it does not end inside of one. -/
def tokens? : Mode → List Char → Option (List Token)
  | .between, [] => some []
  | _, [] => none
  | mode, c :: cs => do
      let (next, made) ← advance mode c
      let rest ← tokens? next cs
      return made ++ rest

/-- Fields up to the end of their object. -/
def fields? : List Token → Option (List (Points × Points))
  | [.text key, .colon, .text value, .closing] => some [(key, value)]
  | .text key :: .colon :: .text value :: .comma :: rest =>
      (fields? rest).map fun fields => (key, value) :: fields
  | _ => none

/-- Reads a JSON object of texts: its fields, in their order. -/
def read? (cs : List Char) : Option (List (Points × Points)) := do
  match ← tokens? .between cs with
  | [.opening, .closing] => some []
  | .opening :: rest => fields? rest
  | _ => none

variable {cs : List Char} {read points : Points} {tokens : List Token} {n : Nat}

theorem tokens?_cons {mode next : Mode} {c : Char} {made : List Token}
    (h : advance mode c = some (next, made)) (cs : List Char) :
    tokens? mode (c :: cs) = (tokens? next cs).map (made ++ ·) := by
  rw [tokens?, h]
  cases htokens : tokens? next cs <;> simp [htokens]

/-- A character that ends no token only moves the reader on. -/
theorem tokens?_move {mode next : Mode} {c : Char} (h : advance mode c = some (next, []))
    (cs : List Char) : tokens? mode (c :: cs) = tokens? next cs := by
  rw [tokens?_cons h]
  simp

theorem hexValue?_hexDigit (hn : n < 16) : Yaml.hexValue? (Quoted.hexDigit n) = some n := by
  have hall : ∀ n < 16, Yaml.hexValue? (Quoted.hexDigit n) = some n := by decide
  exact hall n hn

theorem advance_digit {digit due value : Nat} (hdigit : digit < 16) (hdue : due ≠ 1) :
    advance (.numbered read due value) (Quoted.hexDigit digit) =
      some (.numbered read (due - 1) (value * 16 + digit), []) := by
  rw [advance, hexValue?_hexDigit hdigit, Option.map_some, if_neg hdue]

theorem advance_last_digit {digit value : Nat} (hdigit : digit < 16) :
    advance (.numbered read 1 value) (Quoted.hexDigit digit) =
      some (.inside (read ++ [.ofCode (value * 16 + digit)]), []) := by
  rw [advance, hexValue?_hexDigit hdigit, Option.map_some, if_pos rfl]

theorem tokens?_unit (hn : n < 0x10000) (read : Points) (cs : List Char) :
    tokens? (.inside read) (unit n ++ cs) = tokens? (.inside (read ++ [.ofCode n])) cs := by
  have hunit : unit n ++ cs = '\\' :: 'u' :: Quoted.hexDigit (n / 16 / 16 / 16 % 16) ::
      Quoted.hexDigit (n / 16 / 16 % 16) :: Quoted.hexDigit (n / 16 % 16) ::
      Quoted.hexDigit (n % 16) :: cs := rfl
  have hdigit (m : Nat) : m % 16 < 16 := Nat.mod_lt m (by decide)
  have hvalue : (((0 * 16 + n / 16 / 16 / 16 % 16) * 16 + n / 16 / 16 % 16) * 16 +
      n / 16 % 16) * 16 + n % 16 = n := by omega
  have hbackslash : advance (.inside read) '\\' = some (.escaped read, []) := rfl
  have hletter : advance (.escaped read) 'u' = some (.numbered read 4 0, []) := rfl
  rw [hunit, tokens?_move hbackslash, tokens?_move hletter,
    tokens?_move (advance_digit (hdigit _) (by decide)),
    tokens?_move (advance_digit (hdigit _) (by decide)),
    tokens?_move (advance_digit (hdigit _) (by decide)),
    tokens?_move (advance_last_digit (hdigit _)), hvalue]

theorem tokens?_short {letter c : Char} (hescaped : escaped? letter = some c) (hu : letter ≠ 'u')
    (read : Points) (cs : List Char) :
    tokens? (.inside read) ('\\' :: letter :: cs) = tokens? (.inside (read ++ [.char c])) cs := by
  have hbackslash : advance (.inside read) '\\' = some (.escaped read, []) := rfl
  have hletter : advance (.escaped read) letter = some (.inside (read ++ [.char c]), []) := by
    rw [advance, if_neg hu, hescaped, Option.map_some]
  rw [tokens?_move hbackslash, tokens?_move hletter]

theorem tokens?_plain {c : Char} (hquote : c ≠ '"') (hbackslash : c ≠ '\\')
    (hcontrol : 0x20 ≤ c.toNat) (read : Points) (cs : List Char) :
    tokens? (.inside read) (c :: cs) = tokens? (.inside (read ++ [.char c])) cs := by
  have hmove : advance (.inside read) c = some (.inside (read ++ [.char c]), []) := by
    rw [advance, if_neg hquote, if_neg hbackslash, if_neg (Nat.not_lt.mpr hcontrol)]
  exact tokens?_move hmove cs

/-- A character is read as its units, in whichever way it was written. -/
theorem tokens?_escape (c : Char) (read : Points) (cs : List Char) :
    tokens? (.inside read) (escape c ++ cs) =
      tokens? (.inside (read ++ (Point.char c).units)) cs := by
  unfold escape
  split
  case isTrue h => subst h; exact tokens?_short rfl (by decide) read cs
  split
  case isTrue h => subst h; exact tokens?_short rfl (by decide) read cs
  split
  case isTrue h => subst h; exact tokens?_short rfl (by decide) read cs
  split
  case isTrue h => subst h; exact tokens?_short rfl (by decide) read cs
  split
  case isTrue h => subst h; exact tokens?_short rfl (by decide) read cs
  split
  case isTrue h => subst h; exact tokens?_short rfl (by decide) read cs
  split
  case isTrue h => subst h; exact tokens?_short rfl (by decide) read cs
  case isFalse hquote hbackslash _ _ _ _ _ =>
    split
    case isTrue hprintable =>
      rw [Bool.and_eq_true, decide_eq_true_iff, decide_eq_true_iff] at hprintable
      rw [units_narrow (by omega)]
      exact tokens?_plain hquote hbackslash hprintable.1 read cs
    split
    case isTrue hnarrow =>
      rw [units_narrow hnarrow, tokens?_unit hnarrow, ofCode_toNat]
    case isFalse hwide =>
      have hvalid := toNat_valid c
      rw [units_wide hwide, List.append_assoc, tokens?_unit (by omega), tokens?_unit (by omega),
        List.append_assoc]
      rfl

theorem tokens?_escapePoint (point : Point) (read : Points) (cs : List Char) :
    tokens? (.inside read) (escapePoint point ++ cs) =
      tokens? (.inside (read ++ point.units)) cs := by
  cases point with
  | char c => exact tokens?_escape c read cs
  | half h =>
      have hnarrow : h.code < 0x10000 := by have := h.most; omega
      rw [escapePoint, tokens?_unit hnarrow, ofCode_code, units]

theorem tokens?_inside (points read : Points) (cs : List Char) :
    tokens? (.inside read) (points.flatMap escapePoint ++ cs) =
      tokens? (.inside (read ++ points.flatMap units)) cs := by
  induction points generalizing read with
  | nil => rw [List.flatMap_nil, List.flatMap_nil, List.append_nil, List.nil_append]
  | cons point rest ih =>
      rw [List.flatMap_cons, List.append_assoc, tokens?_escapePoint, ih, List.flatMap_cons,
        List.append_assoc]

/-- A text is one token, in which pairs are joined. -/
theorem tokens?_string (points : Points) (cs : List Char) :
    tokens? .between (string points ++ cs) =
      (tokens? .between cs).map ([.text (paired points)] ++ ·) := by
  have hopen : advance .between '"' = some (.inside [], []) := rfl
  have hclose : advance (.inside (points.flatMap units)) '"' =
      some (.between, [.text (paired points)]) := by
    rw [advance, if_pos rfl, paired_units]
  rw [string, List.cons_append, List.cons_append, List.append_assoc, tokens?_move hopen,
    tokens?_inside, List.nil_append, List.singleton_append, tokens?_cons hclose]

/-- One field, as it stands in an object. -/
def member (field : String × Points) : List Char :=
  string (.ofString field.1) ++ ": ".toList ++ string field.2

variable {fields : List (String × Points)}

theorem tokens?_member (field : String × Points) (cs : List Char) :
    tokens? .between (member field ++ cs) = (tokens? .between cs).map
      ([.text (ofString field.1), .colon, .text (paired field.2)] ++ ·) := by
  have hcolon : advance .between ':' = some (.between, [.colon]) := rfl
  have hblank : advance .between ' ' = some (.between, []) := rfl
  have hgap : ": ".toList = [':', ' '] := rfl
  rw [member, List.append_assoc, List.append_assoc, tokens?_string, hgap, List.cons_append,
    List.cons_append, List.nil_append, tokens?_cons hcolon, tokens?_move hblank, tokens?_string,
    paired_ofString]
  simp only [Option.map_map]
  rfl

/-- Fields with commas between them and a brace behind them are read one by one. -/
theorem fields?_members (hsome : fields ≠ []) :
    ∃ tokens,
      tokens? .between (", ".toList.intercalate (fields.map member) ++ ['\x7d']) = some tokens ∧
        fields? tokens = some (fields.map (Prod.map ofString paired)) := by
  induction fields with
  | nil => exact absurd rfl hsome
  | cons field rest ih =>
      cases rest with
      | nil =>
          refine ⟨[.text (ofString field.1), .colon, .text (paired field.2), .closing], ?_, rfl⟩
          rw [List.map_singleton, List.intercalate_singleton, tokens?_member]
          rfl
      | cons next rest =>
          obtain ⟨tokens, htokens, hfields⟩ := ih (List.cons_ne_nil next rest)
          have hcomma : advance .between ',' = some (.between, [.comma]) := rfl
          have hblank : advance .between ' ' = some (.between, []) := rfl
          have hgap : ", ".toList = [',', ' '] := rfl
          rw [List.map_cons] at htokens
          refine ⟨.text (ofString field.1) :: .colon :: .text (paired field.2) :: .comma :: tokens,
            ?_, ?_⟩
          · rw [List.map_cons, List.map_cons, List.intercalate_cons_cons, List.append_assoc,
              List.append_assoc, tokens?_member, hgap, List.cons_append, List.cons_append,
              List.nil_append, tokens?_cons hcomma, tokens?_move hblank, ← hgap,
              htokens]
            rfl
          · rw [fields?, hfields]
            rfl

/-- What is written as an object is read as its fields, in which pairs of halves are joined. -/
theorem read?_object (fields : List (String × Points)) :
    read? (object fields) = some (fields.map (Prod.map ofString paired)) := by
  by_cases hsome : fields = []
  · rw [hsome]
    rfl
  · obtain ⟨tokens, htokens, hfields⟩ := fields?_members hsome
    have hopen : advance .between '\x7b' = some (.between, [.opening]) := rfl
    have hwritten : object fields =
        '\x7b' :: (", ".toList.intercalate (fields.map member) ++ ['\x7d']) := rfl
    have hmore : tokens ≠ [.closing] := by
      rintro rfl
      cases hfields
    rw [read?, hwritten, tokens?_cons hopen, htokens, Option.map_some]
    simpa [hmore] using hfields

example : read? " \x7b\"a\" :\"\\u00E9\\/\\uD83C\\udf89\"\n\x7d".toList =
    some [(ofString "a", ofString "é/🎉")] := by
  decide +kernel

/-- Is a text made of printable ASCII characters? There are no line breaks among them. -/
def Printable (cs : List Char) : Prop :=
  ∀ c ∈ cs, 0x20 ≤ c.toNat ∧ c.toNat < 0x7F

instance (cs : List Char) : Decidable (Printable cs) :=
  List.decidableBAll _ cs

theorem Printable.append {front back : List Char} (hfront : Printable front)
    (hback : Printable back) : Printable (front ++ back) := by
  intro c hc
  rcases List.mem_append.mp hc with hc | hc
  · exact hfront c hc
  · exact hback c hc

theorem printable_flatMap {α : Type} {write : α → List Char} {items : List α}
    (hwrite : ∀ item, Printable (write item)) : Printable (items.flatMap write) := by
  intro c hc
  obtain ⟨item, -, hc⟩ := List.mem_flatMap.mp hc
  exact hwrite item c hc

theorem printable_hex (width n : Nat) : Printable (Quoted.hex width n) := by
  induction width generalizing n with
  | zero => exact fun c hc => absurd hc List.not_mem_nil
  | succ width ih =>
      have hall : ∀ n < 16, Printable [Quoted.hexDigit n] := by decide
      exact (ih (n / 16)).append (hall (n % 16) (Nat.mod_lt n (by decide)))

theorem printable_unit (n : Nat) : Printable (unit n) := by
  have hlead : Printable ['\\', 'u'] := by decide
  exact hlead.append (printable_hex 4 n)

theorem printable_escape (c : Char) : Printable (escape c) := by
  unfold escape
  split
  case isTrue => decide
  split
  case isTrue => decide
  split
  case isTrue => decide
  split
  case isTrue => decide
  split
  case isTrue => decide
  split
  case isTrue => decide
  split
  case isTrue => decide
  split
  case isTrue hprintable =>
    rw [Bool.and_eq_true, decide_eq_true_iff, decide_eq_true_iff] at hprintable
    intro same hsame
    rw [List.mem_singleton.mp hsame]
    exact hprintable
  split
  case isTrue => exact printable_unit _
  case isFalse => exact (printable_unit _).append (printable_unit _)

theorem printable_string (points : Points) : Printable (string points) := by
  have hquote : Printable ['"'] := by decide
  have hpoint (point : Point) : Printable (escapePoint point) := by
    cases point with
    | char c => exact printable_escape c
    | half h => exact printable_unit h.code
  exact (hquote.append (printable_flatMap hpoint)).append hquote

theorem printable_intercalate {gap : List Char} (hgap : Printable gap) {parts : List (List Char)}
    (hparts : ∀ part ∈ parts, Printable part) : Printable (gap.intercalate parts) := by
  induction parts with
  | nil => exact fun c hc => absurd hc List.not_mem_nil
  | cons part rest ih =>
      rw [List.forall_mem_cons] at hparts
      cases rest with
      | nil =>
          rw [List.intercalate_singleton]
          exact hparts.1
      | cons next rest =>
          rw [List.intercalate_cons_cons]
          exact (hparts.1.append hgap).append (ih hparts.2)

theorem printable_object (fields : List (String × Points)) : Printable (object fields) := by
  have hopen : Printable ['\x7b'] := by decide
  have hclose : Printable ['\x7d'] := by decide
  have hcomma : Printable ", ".toList := by decide
  have hcolon : Printable ": ".toList := by decide
  have hmembers : ∀ part ∈ fields.map member, Printable part := by
    intro part hpart
    obtain ⟨field, -, rfl⟩ := List.mem_map.mp hpart
    exact ((printable_string _).append hcolon).append (printable_string field.2)
  exact hopen.append ((printable_intercalate hcomma hmembers).append hclose)

end ServiceDiscovery.Log.Json
