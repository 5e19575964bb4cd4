import PoolOperator.Json

/-!
# Merge patches

The change that a JSON merge patch (RFC 7386) makes: members of the patch replace those of the
target, null removes, and objects are merged member by member.
-/

namespace PoolOperator.Json

/-- The members without one name. -/
def eraseMember (name : String) (members : List (String × Json)) : List (String × Json) :=
  members.filter (·.1 != name)

/-- The members with a value put under a name: at the name's place, else at the end. -/
def setMember (name : String) (v : Json) : List (String × Json) → List (String × Json)
  | [] => [(name, v)]
  | m :: ms => if m.1 = name then (name, v) :: eraseMember name ms else m :: setMember name v ms

mutual

/-- The target after a patch. -/
def mergePatch (target : Json) : Json → Json
  | .obj changes =>
    .obj (mergeMembers (match target with | .obj members => members | _ => []) changes)
  | v => v

/-- The members after each change of a list. -/
def mergeMembers (members : List (String × Json)) : List (String × Json) → List (String × Json)
  | [] => members
  | (name, .null) :: changes => mergeMembers (eraseMember name members) changes
  | (name, v) :: changes =>
    let old := (member? name members).getD .null
    mergeMembers (setMember name (mergePatch old v) members) changes

end

end PoolOperator.Json
