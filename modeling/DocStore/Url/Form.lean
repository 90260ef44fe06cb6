import DocStore.Url.Percent

/-!
# Form encoding

Parameters in the query of a URL: each name and its value joined by `=`, and these by `&`. Letters,
digits and four signs stand for themselves, a space becomes `+`, and all else is percent-encoded.
-/

namespace DocStore.Url.Form

/-- What is encoded in a name or a value; the space is not among it. -/
def encodedSet (c : Char) : Bool :=
  !(c.isAlphanum || ['*', '-', '.', '_', ' '].contains c)

/-- A name or a value. -/
def component (s : String) : String :=
  String.ofList ((encode encodedSet s.toList).map fun c => if c = ' ' then '+' else c)

/-- A parameter. -/
def parameter (p : String × String) : String := component p.1 ++ "=" ++ component p.2

/-- Parameters in order. -/
def parameters (ps : List (String × String)) : String := "&".intercalate (ps.map parameter)

end DocStore.Url.Form
