import MeshRouting.Match.Comparison
import MeshRouting.Match.Method

/-!
The one criterion of a rule, in the form that is provisioned.
-/

namespace MeshRouting

structure PathMatch where
  comparison : PathComparison
  value : String
  caseSensitive : Bool
  deriving DecidableEq

structure HeaderMatch where
  name : String
  comparison : HeaderComparison
  value : String
  caseSensitive : Bool
  deriving DecidableEq

inductive Criterion
  | method (method : HttpMethod)
  | path (path : PathMatch)
  | headers (headers : List HeaderMatch)
  deriving DecidableEq

namespace PathMatch

def describe (path : PathMatch) : String := s!"path {path.comparison.keyword} \"{path.value}\""

def toJson (path : PathMatch) : Json :=
  .object [("match", .object [(path.comparison.keyword, .string path.value)]),
    ("caseSensitive", .bool path.caseSensitive)]

end PathMatch

namespace HeaderMatch

def describe (header : HeaderMatch) : String :=
  s!"{header.name} {header.comparison.keyword} \"{header.value}\""

def toJson (header : HeaderMatch) : Json :=
  .object [("name", .string header.name),
    ("match", .object [(header.comparison.keyword, .string header.value)]),
    ("caseSensitive", .bool header.caseSensitive)]

end HeaderMatch

namespace Criterion

def describe : Criterion → String
  | .method selected => s!"method {selected.name}"
  | .path matched => matched.describe
  | .headers all => "headers [" ++ ", ".intercalate (all.map HeaderMatch.describe) ++ "]"

def toJson : Criterion → Json
  | .method selected => .object [("method", .string selected.name)]
  | .path matched => .object [("pathMatch", matched.toJson)]
  | .headers all => .object [("headerMatches", .array (all.map HeaderMatch.toJson))]

end Criterion

end MeshRouting
