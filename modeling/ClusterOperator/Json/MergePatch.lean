import ClusterOperator.Json.Basic

/-!
# Merge patches

An edit of a document is itself a document: a patch that is an object sets the fields it names and
removes those it names with `null`; any other patch replaces what it is applied to.
-/

set_option autoImplicit false

namespace ClusterOperator.Json

/-- The fields of an object; none for any other document. -/
def fieldsOf : Json → List (String × Json)
  | .obj fields => fields
  | _ => []

mutual

/-- A document with a patch applied to it. -/
def mergePatch (target : Json) : Json → Json
  | .obj patch => .obj (mergeFields (fieldsOf target) patch)
  | .null => .null
  | .bool b => .bool b
  | .int n => .int n
  | .dec m e => .dec m e
  | .str s => .str s
  | .arr items => .arr items

/-- The fields of an object with the fields of a patch applied to them. -/
def mergeFields (fields : List (String × Json)) : List (String × Json) → List (String × Json)
  | [] => fields
  | (key, patch) :: rest =>
    let others := fields.filter (·.1 != key)
    let fields :=
      match patch with
      | .null => others
      | patch => others ++ [(key, mergePatch ((fields.lookup key).getD .null) patch)]
    mergeFields fields rest

end

end ClusterOperator.Json
