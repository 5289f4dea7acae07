import Stylesheet.Json.Basic

set_option autoImplicit false

/-! # Writing JSON

Documents are written without any blanks.
-/

namespace Stylesheet.Json

/-- Texts written one after the other with commas between them. -/
def commaSeparated : List (List Char) → List Char
  | [] => []
  | [t] => t
  | t :: u :: rest => t ++ ',' :: commaSeparated (u :: rest)

def quoted (text : List Char) : List Char := '"' :: text ++ ['"']

mutual

/-- The text of a document, without any blanks between its tokens. -/
def render : Json → List Char
  | .null => ['n', 'u', 'l', 'l']
  | .bool true => ['t', 'r', 'u', 'e']
  | .bool false => ['f', 'a', 'l', 's', 'e']
  | .number text => text
  | .string text => quoted text
  | .array items => '[' :: commaSeparated (renderItems items) ++ [']']
  | .object members => '\x7b' :: commaSeparated (renderMembers members) ++ ['\x7d']

def renderItems : List Json → List (List Char)
  | [] => []
  | j :: js => render j :: renderItems js

def renderMembers : List (List Char × Json) → List (List Char)
  | [] => []
  | (key, value) :: rest => (quoted key ++ ':' :: render value) :: renderMembers rest

end

end Stylesheet.Json
