set_option autoImplicit false

namespace WireScript.Text

inductive Outline
  | atom (text : String)
  | wrapped (name : String) (content : Outline)
  | items (content : List Outline)
  | record (name : String) (fields : List (String × Outline))

namespace Outline

mutual

def inline : Outline → String
  | .atom text => text
  | .wrapped name content => name ++ "(" ++ content.inline ++ ")"
  | .items content => "[" ++ ", ".intercalate (inlineItems content) ++ "]"
  | .record name fields => name ++ " \x7b " ++ ", ".intercalate (inlineFields fields) ++ " \x7d"

def inlineItems : List Outline → List String
  | [] => []
  | o :: rest => o.inline :: inlineItems rest

def inlineFields : List (String × Outline) → List String
  | [] => []
  | (name, o) :: rest => (name ++ ": " ++ o.inline) :: inlineFields rest

end

def margin (level : Nat) : String :=
  String.ofList (List.replicate (4 * level) ' ')

mutual

def spread (level : Nat) : Outline → String
  | .atom text => text
  | .wrapped name content =>
    name ++ "(\n" ++ margin (level + 1) ++ content.spread (level + 1) ++ ",\n" ++
      margin level ++ ")"
  | .items [] => "[]"
  | .items content => "[\n" ++ spreadItems (level + 1) content ++ margin level ++ "]"
  | .record name fields =>
    name ++ " \x7b\n" ++ spreadFields (level + 1) fields ++ margin level ++ "\x7d"

def spreadItems (level : Nat) : List Outline → String
  | [] => ""
  | o :: rest => margin level ++ o.spread level ++ ",\n" ++ spreadItems level rest

def spreadFields (level : Nat) : List (String × Outline) → String
  | [] => ""
  | (name, o) :: rest =>
    margin level ++ name ++ ": " ++ o.spread level ++ ",\n" ++ spreadFields level rest

end

end Outline

end WireScript.Text
