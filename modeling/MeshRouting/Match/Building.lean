import MeshRouting.Match.Criterion
import MeshRouting.Match.Spec

/-!
Building the criterion of a rule from a match spec. Unknown keys are looked at first, so
that a misspelled key never widens a rule; then the kinds are counted; then the one kind
has to be well formed.
-/

namespace MeshRouting

/-- Paths and headers are compared without regard to case unless asked otherwise. -/
def defaultCaseSensitive : Bool := false

namespace PathMatchSpec

def build (spec : PathMatchSpec) : Except MatchProblem PathMatch :=
  match PathComparison.ofName? spec.matchType with
  | some comparison =>
      .ok ⟨comparison, spec.value, spec.caseSensitive.getD defaultCaseSensitive⟩
  | none => .error (.unknownPathType spec.matchType)

end PathMatchSpec

namespace HeaderMatchSpec

def build (spec : HeaderMatchSpec) : Except MatchProblem HeaderMatch :=
  match HeaderComparison.ofName? spec.operator with
  | some comparison =>
      .ok ⟨spec.headerName, comparison, spec.value, spec.caseSensitive.getD defaultCaseSensitive⟩
  | none => .error (.unknownOperator spec.operator spec.headerName)

/-- The first header that cannot be built decides. -/
def buildAll : List HeaderMatchSpec → Except MatchProblem (List HeaderMatch)
  | [] => .ok []
  | spec :: rest => do
      let header ← spec.build
      let headers ← buildAll rest
      .ok (header :: headers)

end HeaderMatchSpec

namespace MatchSpec

def buildMethod (name : String) : Except MatchProblem Criterion :=
  match HttpMethod.ofName? name with
  | some method => .ok (.method method)
  | none => .error (.unknownMethod name)

def buildHeaders : List HeaderMatchSpec → Except MatchProblem Criterion
  | [] => .error .noHeaders
  | specs => (HeaderMatchSpec.buildAll specs).map .headers

def build (spec : MatchSpec) : Except MatchProblem Criterion :=
  if spec.unrecognized.isEmpty then
    match spec.methodMatch, spec.pathMatch, spec.headerMatches with
    | some name, none, none => buildMethod name
    | none, some path, none => path.build.map .path
    | none, none, some headers => buildHeaders headers
    | none, none, none => .error .noKind
    | _, _, _ => .error (.severalKinds spec.kinds)
  else .error (.unrecognizedFields spec.unrecognized.keys)

end MatchSpec

end MeshRouting
