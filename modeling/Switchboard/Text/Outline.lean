import Switchboard.Text.Quoted

/-!
# Outlines of values

A configuration, a registry or a header can be shown to a person: on one line, or spread over
indented lines with one entry on each. An `Outline` is what there is to show; `oneLine` and
`indented` are the two layouts.
-/

namespace Switchboard

/-- What is shown of a value. -/
inductive Outline
  | leaf (text : String)
  | wrapped (name : String) (inner : Outline)
  | sequence (elements : List Outline)
  /-- Named parts; `more` says that there are others that are not shown. -/
  | record (name : String) (parts : List (String × Outline)) (more : Bool)

namespace Outline

def text (value : String) : Outline :=
  .leaf (Quoted.quote value)

def flag (value : Bool) : Outline :=
  .leaf (if value then "true" else "false")

def number (value : Nat) : Outline :=
  .leaf (toString value)

def optional {α : Type} (shape : α → Outline) : Option α → Outline
  | none => .leaf "None"
  | some value => .wrapped "Some" (shape value)

mutual

def oneLine : Outline → String
  | .leaf text => text
  | .wrapped name inner => name ++ "(" ++ inner.oneLine ++ ")"
  | .sequence elements => "[" ++ ", ".intercalate (elementLines elements) ++ "]"
  | .record name parts more =>
      name ++ " \x7b " ++
        ", ".intercalate (partLines parts ++ if more then [".."] else []) ++ " \x7d"

def elementLines : List Outline → List String
  | [] => []
  | element :: rest => element.oneLine :: elementLines rest

def partLines : List (String × Outline) → List String
  | [] => []
  | (name, value) :: rest => (name ++ ": " ++ value.oneLine) :: partLines rest

end

mutual

/-- The outline over several lines, each entry four columns further in than what holds it and with a
comma after it. `margin` is what every further line begins with. -/
def indentedFrom (margin : String) : Outline → String
  | .leaf text => text
  | .wrapped name inner =>
      name ++ "(\n" ++ margin ++ "    " ++ inner.indentedFrom (margin ++ "    ") ++ ",\n" ++
        margin ++ ")"
  | .sequence [] => "[]"
  | .sequence (element :: rest) =>
      "[\n" ++ elementBlock (margin ++ "    ") (element :: rest) ++ margin ++ "]"
  | .record name parts more =>
      name ++ " \x7b\n" ++ partBlock (margin ++ "    ") parts ++
        (if more then margin ++ "    ..\n" else "") ++ margin ++ "\x7d"

def elementBlock (margin : String) : List Outline → String
  | [] => ""
  | element :: rest => margin ++ element.indentedFrom margin ++ ",\n" ++ elementBlock margin rest

def partBlock (margin : String) : List (String × Outline) → String
  | [] => ""
  | (name, value) :: rest =>
      margin ++ name ++ ": " ++ value.indentedFrom margin ++ ",\n" ++ partBlock margin rest

end

def indented (outline : Outline) : String :=
  outline.indentedFrom ""

/-- The outline in the layout that was asked for. -/
def layout (outline : Outline) (spread : Bool) : String :=
  if spread then outline.indented else outline.oneLine

end Outline

end Switchboard
