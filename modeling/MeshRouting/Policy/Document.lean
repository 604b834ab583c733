import MeshRouting.Json.Render
import MeshRouting.Policy.Statement

/-!
Policy documents. Every auth statement becomes one statement of the document, in order,
about the one action there is.
-/

namespace MeshRouting

structure PolicyDocument where
  version : String
  statements : List PolicyStatement

structure AuthPolicyConfig where
  statements : List AuthStatement

namespace AuthStatement

def invokeAction : String := "vpc-lattice-svcs:Invoke"

def flatten (statement : AuthStatement) : PolicyStatement :=
  ⟨statement.effect, invokeAction, statement.resources, statement.principal, statement.conditions⟩

end AuthStatement

namespace PolicyDocument

/-- The version of the policy language. -/
def languageVersion : String := "2012-10-17"

def ofStatements (statements : List AuthStatement) : PolicyDocument :=
  ⟨languageVersion, statements.map AuthStatement.flatten⟩

def fields : Fields PolicyDocument :=
  ((Fields.required "Version" Decoder.string).and
    (Fields.required "Statement" (Decoder.list PolicyStatement.decoder))).map
      fun (version, statements) => ⟨version, statements⟩

def decoder : Decoder PolicyDocument := .record "PolicyDocument" fields

def toJson (document : PolicyDocument) : Json :=
  .object [("Version", .string document.version),
    ("Statement", .array (document.statements.map PolicyStatement.toJson))]

def text (document : PolicyDocument) : String := document.toJson.compact

end PolicyDocument

namespace AuthPolicyConfig

def fields : Fields AuthPolicyConfig :=
  (Fields.required "authStatements" (Decoder.list AuthStatement.decoder)).map fun statements =>
    ⟨statements⟩

def decoder : Decoder AuthPolicyConfig := .record "AuthPolicyConfig" fields

def toJson (config : AuthPolicyConfig) : Json :=
  .object [("authStatements", .array (config.statements.map AuthStatement.toJson))]

end AuthPolicyConfig

namespace PolicyDocument

/-- The document of a policy configuration written as JSON. -/
def ofText (text : String) : Except DecodeError PolicyDocument :=
  (AuthPolicyConfig.decoder.run text).map fun config => ofStatements config.statements

end PolicyDocument

end MeshRouting
