import MeshRouting.Decoding.Record
import MeshRouting.RuleError

/-!
Matches as a caller describes them. Types and operators stay text, so that one that is
not recognized can be reported; members of other keys are kept for the same reason.
-/

namespace MeshRouting

structure PathMatchSpec where
  matchType : String
  value : String
  caseSensitive : Option Bool
  deriving DecidableEq

structure HeaderMatchSpec where
  headerName : String
  operator : String
  value : String
  caseSensitive : Option Bool
  deriving DecidableEq

/-- Of the three kinds of match exactly one should be there. -/
structure MatchSpec where
  methodMatch : Option String
  pathMatch : Option PathMatchSpec
  headerMatches : Option (List HeaderMatchSpec)
  unrecognized : FreeMembers

namespace PathMatchSpec

def exact (value : String) : PathMatchSpec := ⟨"EXACT", value, none⟩

def startsWith (value : String) : PathMatchSpec := ⟨"PREFIX", value, none⟩

def fields : Fields PathMatchSpec :=
  ((Fields.required "matchType" Decoder.string).and
    ((Fields.required "value" Decoder.string).and
      (Fields.optional "caseSensitive" Decoder.boolean))).map
        fun (matchType, value, caseSensitive) => ⟨matchType, value, caseSensitive⟩

def decoder : Decoder PathMatchSpec := .record "PathMatchSpec" fields

def toJson (spec : PathMatchSpec) : Json :=
  .object (("matchType", .string spec.matchType) :: ("value", .string spec.value) ::
    Json.memberIfSome "caseSensitive" .bool spec.caseSensitive)

end PathMatchSpec

namespace HeaderMatchSpec

def fields : Fields HeaderMatchSpec :=
  ((Fields.required "headerName" Decoder.string).and
    ((Fields.required "operator" Decoder.string).and
      ((Fields.required "value" Decoder.string).and
        (Fields.optional "caseSensitive" Decoder.boolean)))).map
          fun (headerName, operator, value, caseSensitive) =>
            ⟨headerName, operator, value, caseSensitive⟩

def decoder : Decoder HeaderMatchSpec := .record "HeaderMatchSpec" fields

def toJson (spec : HeaderMatchSpec) : Json :=
  .object (("headerName", .string spec.headerName) :: ("operator", .string spec.operator) ::
    ("value", .string spec.value) :: Json.memberIfSome "caseSensitive" .bool spec.caseSensitive)

end HeaderMatchSpec

namespace MatchSpec

def empty : MatchSpec := ⟨none, none, none, .empty⟩

/-- The kinds that are there, in the order in which messages name them. -/
def kinds (spec : MatchSpec) : List MatchKind :=
  (if spec.methodMatch.isSome then [.method] else []) ++
    (if spec.pathMatch.isSome then [.path] else []) ++
    (if spec.headerMatches.isSome then [.headers] else [])

def fields : Fields (Option String × Option PathMatchSpec × Option (List HeaderMatchSpec)) :=
  (Fields.optional MatchKind.method.key Decoder.string).and
    ((Fields.optional MatchKind.path.key PathMatchSpec.decoder).and
      (Fields.optional MatchKind.headers.key (Decoder.list HeaderMatchSpec.decoder)))

def ofMembers (context : Context) (members : Members) (ending : Except DecodeError Unit) :
    Except DecodeError MatchSpec := do
  let ((methodMatch, pathMatch, headerMatches), others) ←
    Decoder.readAndKeep fields context members ending
  .ok ⟨methodMatch, pathMatch, headerMatches, .ofList others⟩

def decoder : Decoder MatchSpec := .object "MatchSpec" ofMembers

def members (spec : MatchSpec) : List (String × Json) :=
  Json.memberIfSome MatchKind.method.key .string spec.methodMatch ++
    Json.memberIfSome MatchKind.path.key PathMatchSpec.toJson spec.pathMatch ++
    Json.memberIfSome MatchKind.headers.key (fun headers => .array (headers.map HeaderMatchSpec.toJson))
      spec.headerMatches ++
    spec.unrecognized.members

def toJson (spec : MatchSpec) : Json := .object spec.members

end MatchSpec

end MeshRouting
