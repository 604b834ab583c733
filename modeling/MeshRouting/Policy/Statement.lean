import MeshRouting.Decoding.Record

/-!
Auth statements as an operator writes them, and the statements of the policy document they
turn into. Principals and conditions are free-form and passed on untouched.
-/

namespace MeshRouting

inductive Effect
  | allow
  | deny
  deriving DecidableEq

/-- One resource or a list of them; a list of one stays a list. -/
inductive Resources
  | one (resource : String)
  | many (resources : List String)
  deriving DecidableEq

structure AuthStatement where
  effect : Effect
  principal : Option FreeForm
  resources : Resources
  conditions : Option FreeForm

structure PolicyStatement where
  effect : Effect
  action : String
  resource : Resources
  principal : Option FreeForm
  condition : Option FreeForm

namespace Effect

def name : Effect → String
  | .allow => "Allow"
  | .deny => "Deny"

def decoder : Decoder Effect :=
  .variant [("ALLOW", .allow), ("Allow", .allow), ("allow", .allow),
    ("DENY", .deny), ("Deny", .deny), ("deny", .deny)]

def toJson (effect : Effect) : Json := .string effect.name

end Effect

namespace Resources

def decoder : Decoder Resources :=
  .choice "Resources" [Decoder.string.map .one, (Decoder.list Decoder.string).map .many]

def toJson : Resources → Json
  | .one resource => .string resource
  | .many resources => .array (resources.map .string)

end Resources

namespace AuthStatement

/-- A statement for every principal and without conditions. -/
def ofResources (effect : Effect) (resources : Resources) : AuthStatement :=
  ⟨effect, none, resources, none⟩

def fields : Fields AuthStatement :=
  ((Fields.required "effect" Effect.decoder).and
    ((Fields.optional "principal" Decoder.freeForm).and
      ((Fields.required "resources" Resources.decoder).and
        (Fields.optional "conditions" Decoder.freeForm)))).map
          fun (effect, principal, resources, conditions) =>
            ⟨effect, principal, resources, conditions⟩

def decoder : Decoder AuthStatement := .record "AuthStatement" fields

def toJson (statement : AuthStatement) : Json :=
  .object (("effect", statement.effect.toJson) ::
    Json.memberIfSome "principal" FreeForm.tree statement.principal ++
    ("resources", statement.resources.toJson) ::
    Json.memberIfSome "conditions" FreeForm.tree statement.conditions)

end AuthStatement

namespace PolicyStatement

def fields : Fields PolicyStatement :=
  ((Fields.required "Effect" Effect.decoder).and
    ((Fields.required "Action" Decoder.string).and
      ((Fields.required "Resource" Resources.decoder).and
        ((Fields.optional "Principal" Decoder.freeForm).and
          (Fields.optional "Condition" Decoder.freeForm))))).map
            fun (effect, action, resource, principal, condition) =>
              ⟨effect, action, resource, principal, condition⟩

def decoder : Decoder PolicyStatement := .record "PolicyStatement" fields

def toJson (statement : PolicyStatement) : Json :=
  .object (("Effect", statement.effect.toJson) :: ("Action", .string statement.action) ::
    ("Resource", statement.resource.toJson) ::
    Json.memberIfSome "Principal" FreeForm.tree statement.principal ++
    Json.memberIfSome "Condition" FreeForm.tree statement.condition)

end PolicyStatement

end MeshRouting
