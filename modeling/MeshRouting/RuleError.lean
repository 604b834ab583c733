/-!
Why a rule is rejected. Each error names the rule it is about.
-/

namespace MeshRouting

/-- The kinds of match, of which a rule has exactly one. -/
inductive MatchKind
  | method
  | path
  | headers
  deriving DecidableEq

namespace MatchKind

def key : MatchKind → String
  | .method => "methodMatch"
  | .path => "pathMatch"
  | .headers => "headerMatches"

end MatchKind

inductive MatchProblem
  | unrecognizedFields (keys : List String)
  | noKind
  | severalKinds (kinds : List MatchKind)
  | unknownMethod (name : String)
  | unknownPathType (name : String)
  | noHeaders
  | unknownOperator (operator header : String)
  deriving DecidableEq

namespace MatchProblem

def message : MatchProblem → String
  | .unrecognizedFields keys => "unrecognized field(s) " ++ ", ".intercalate keys
  | .noKind => "one of methodMatch, pathMatch or headerMatches must be set"
  | .severalKinds kinds =>
      "only one of methodMatch, pathMatch or headerMatches may be set, got " ++
        " and ".intercalate (kinds.map MatchKind.key)
  | .unknownMethod name => s!"unrecognized HTTP method '{name}'"
  | .unknownPathType name => s!"unrecognized path match type '{name}'"
  | .noHeaders => "headerMatches must not be empty"
  | .unknownOperator operator header =>
      s!"unrecognized operator '{operator}' for header '{header}'"

end MatchProblem

inductive RuleError
  | invalidMatch (rule : String) (problem : MatchProblem)
  /-- One of several targets of a rule has no weight. -/
  | missingWeight (rule target : String)
  /-- A rule forwards to nothing. -/
  | emptyAction (rule : String)
  | duplicatePriority (rule : String) (priority : UInt32)
  deriving DecidableEq

namespace RuleError

def rule : RuleError → String
  | .invalidMatch rule _ => rule
  | .missingWeight rule _ => rule
  | .emptyAction rule => rule
  | .duplicatePriority rule _ => rule

def message : RuleError → String
  | .invalidMatch rule problem => s!"invalid match in rule '{rule}': {problem.message}"
  | .missingWeight rule target =>
      s!"rule '{rule}' forwards to multiple target groups; target '{target}' needs a weight"
  | .emptyAction rule => s!"rule '{rule}' forwards to no target groups"
  | .duplicatePriority rule priority =>
      s!"priority {priority} of rule '{rule}' is already in use on this listener"

end RuleError

end MeshRouting
