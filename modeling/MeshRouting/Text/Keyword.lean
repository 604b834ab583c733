/-!
Keywords recognized without regard to the case of ASCII letters. No other character has a
case here, so nothing but its own spellings matches a keyword.
-/

namespace MeshRouting.Text

def sameIgnoringCase (s t : String) : Bool :=
  s.toList.map Char.toUpper == t.toList.map Char.toUpper

/-- The first of `values` that is spelled like `name`. -/
def findKeyword (spelling : α → String) (values : List α) (name : String) : Option α :=
  values.find? fun value => sameIgnoringCase (spelling value) name

end MeshRouting.Text
