import MeshRouting.Text.Keyword

/-!
HTTP methods a match can select.
-/

namespace MeshRouting

inductive HttpMethod
  | get
  | post
  | put
  | delete
  | patch
  | head
  | options
  | connect
  | trace
  deriving DecidableEq

namespace HttpMethod

def all : List HttpMethod :=
  [.get, .post, .put, .delete, .patch, .head, .options, .connect, .trace]

def name : HttpMethod → String
  | .get => "GET"
  | .post => "POST"
  | .put => "PUT"
  | .delete => "DELETE"
  | .patch => "PATCH"
  | .head => "HEAD"
  | .options => "OPTIONS"
  | .connect => "CONNECT"
  | .trace => "TRACE"

def ofName? (name : String) : Option HttpMethod := Text.findKeyword HttpMethod.name all name

end HttpMethod

end MeshRouting
