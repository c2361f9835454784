import TextAdventure.Ron.Value
import TextAdventure.Text.EscapeTable

/-!
# Writing RON files

A value is written with one field, entry or element a line, each with a comma
after it and four spaces deeper than what is around it. In a quoted text, quotes,
backslashes and the characters that are not shown are escaped.
-/

namespace TextAdventure.Ron

/-! ## Quoted texts -/

/-- The character stands by itself in a quoted text, if it is no quote and no
backslash. -/
def isShown (c : Char) : Bool :=
  if c.toNat < 0x80 then ' ' ≤ c && c ≤ '~' else !Text.inSpans Text.unshownSpans c.toNat

def quotedChar (c : Char) : List Char :=
  match c with
  | '\x00' => ['\\', '0']
  | '\t' => ['\\', 't']
  | '\r' => ['\\', 'r']
  | '\n' => ['\\', 'n']
  | '\'' => ['\\', '\'']
  | '"' => ['\\', '"']
  | '\\' => ['\\', '\\']
  | c =>
    if isShown c then [c]
    else '\\' :: 'u' :: '\x7b' :: (Nat.toDigits 16 c.toNat ++ ['\x7d'])

def quote (text : String) : String :=
  String.ofList ('"' :: (text.toList.flatMap quotedChar ++ ['"']))

/-! ## Values -/

/-- Parts in brackets, one a line, with a comma after each. -/
def block (opening closing : String) (level : Nat) (parts : List String) : String :=
  let margin (n : Nat) := String.ofList (List.replicate (4 * n) ' ')
  if parts.isEmpty then opening ++ closing
  else
    opening ++ "\n" ++ String.join (parts.map fun part => margin (level + 1) ++ part ++ ",\n")
      ++ margin level ++ closing

def Name.render (n : Name) : String := if n.isRaw then "r#" ++ n.text else n.text

/-- What is written in front of parentheses. -/
def leading (name : Option Name) : String := name.elim "" Name.render

mutual

/-- A value that stands so many levels deep. -/
def Value.render (level : Nat) : Value → String
  | .text t => quote t
  | .number t => t
  | .name n => n.render
  | .bareSome v => "Some " ++ v.render level
  | .unit | .other => "()"
  | .group name items => leading name ++ "(" ++ ", ".intercalate (renderAll level items) ++ ")"
  | .record name fields => leading name ++ block "(" ")" level (renderPairs (level + 1) fields)
  | .list items => block "[" "]" level (renderAll (level + 1) items)
  | .map entries => block "\x7b" "\x7d" level (renderPairs (level + 1) entries)

/-- Values that stand so many levels deep. -/
def renderAll (level : Nat) : List Value → List String
  | [] => []
  | v :: rest => v.render level :: renderAll level rest

/-- Keys and values that stand so many levels deep. -/
def renderPairs (level : Nat) : List (Value × Value) → List String
  | [] => []
  | (key, v) :: rest =>
    (key.render level ++ ": " ++ v.render level) :: renderPairs level rest

end

/-- The text of a file that holds the value. -/
def Value.toText (v : Value) : String := v.render 0

end TextAdventure.Ron
