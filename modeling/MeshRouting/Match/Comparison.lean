import MeshRouting.Json.Basic
import MeshRouting.Text.Keyword

/-!
How a path or a header value is compared with the text of a match. A caller may write the
keyword in any case; the provisioned form and descriptions have it in lower case.
-/

namespace MeshRouting

inductive PathComparison
  | exact
  | startsWith
  deriving DecidableEq

namespace PathComparison

def all : List PathComparison := [.exact, .startsWith]

def keyword : PathComparison → String
  | .exact => "exact"
  | .startsWith => "prefix"

def ofName? (name : String) : Option PathComparison := Text.findKeyword keyword all name

end PathComparison

inductive HeaderComparison
  | exact
  | contains
  | startsWith
  deriving DecidableEq

namespace HeaderComparison

def all : List HeaderComparison := [.exact, .contains, .startsWith]

def keyword : HeaderComparison → String
  | .exact => "exact"
  | .contains => "contains"
  | .startsWith => "prefix"

def ofName? (name : String) : Option HeaderComparison := Text.findKeyword keyword all name

end HeaderComparison

end MeshRouting
