import Stylesheet.Config
import Stylesheet.Json.Number
import Stylesheet.Text.Quoted

set_option autoImplicit false

/-! # Describing a configuration

A configuration is described on one line for whoever looks for a mistake in it: search roots
and options in full, hooks by whether they are set.
-/

namespace Stylesheet

def listed : List (List Char) → List Char
  | [] => []
  | [t] => t
  | t :: u :: rest => t ++ ',' :: ' ' :: listed (u :: rest)

namespace Json

def plain (text : List Char) : List Char := (unescape? text).getD text

mutual

/-- A document with the kind of each value. -/
def describe : Json → List Char
  | .null => "Null".toList
  | .bool true => "Bool(true)".toList
  | .bool false => "Bool(false)".toList
  | .number text => "Number(".toList ++ (Number.ofText text).text ++ [')']
  | .string text => "String(".toList ++ Text.quoted (plain text) ++ [')']
  | .array items => "Array [".toList ++ listed (describeItems items) ++ [']']
  | .object members =>
    "Object \x7b".toList ++ listed ((describeMembers members).map (·.2)) ++ ['\x7d']

def describeItems : List Json → List (List Char)
  | [] => []
  | j :: js => describe j :: describeItems js

/-- The members of an object with their keys, sorted by key. Of members with one key the
last counts. -/
def describeMembers : List (List Char × Json) → List (String × List Char)
  | [] => []
  | (key, value) :: rest =>
    insertMember (String.ofList (plain key))
      (Text.quoted (plain key) ++ ':' :: ' ' :: describe value) (describeMembers rest)
where
  insertMember (key : String) (text : List Char) :
      List (String × List Char) → List (String × List Char)
    | [] => [(key, text)]
    | (k, t) :: rest =>
      if key = k then (k, t) :: rest
      else if key < k then (key, text) :: (k, t) :: rest
      else (k, t) :: insertMember key text rest

end

end Json

namespace Config

def setting (name : String) (text : List Char) : List Char := name.toList ++ ':' :: ' ' :: text

def flag (b : Bool) : List Char := (if b then "true" else "false").toList

def description (c : Config) : String :=
  String.ofList <|
    "RendererConfig \x7b ".toList
    ++ listed
      [ setting "search_roots"
          ('[' :: listed (c.searchRoots.map fun p => Text.quoted p.display.toList) ++ [']']),
        setting "preprocess" (flag c.preprocess.isSome),
        setting "rewrite" (flag c.redirect.isSome),
        setting "logger" (flag c.listener.isSome),
        setting "source_map" (flag c.sourceMap),
        setting "compiler_options"
          ('\x7b' :: listed (c.options.map fun (key, value) =>
            Text.quoted key.toList ++ ':' :: ' ' :: value.describe) ++ ['\x7d']),
        "..".toList ]
    ++ " \x7d".toList

end Config

end Stylesheet
