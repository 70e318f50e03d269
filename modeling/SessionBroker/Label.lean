import SessionBroker.Text.Basic

/-!
# SessionBroker.Label — hierarchical session labels

Each component that forwards a request puts its own name in front, so a label reads from the outermost forwarder to
the original client, as in `init -> app -> worker`.

* `Label.within`: the label with a new outermost element.
* `Label.first`, `Label.last`: the outermost and the innermost element.
-/

namespace SessionBroker

/-- The label of the client of a session. -/
@[ext]
structure Label where
  text : String
  deriving DecidableEq

namespace Label

/-- What stands between two elements. -/
def separator : String := " -> "

def empty : Label := ⟨""⟩

instance : Inhabited Label := ⟨empty⟩

def isEmpty (l : Label) : Bool := l.text == ""

/-- The label with a new outermost element; an empty one changes nothing. -/
def within (l : Label) (outer : String) : Label :=
  if outer == "" then l
  else if l.isEmpty then ⟨outer⟩
  else ⟨outer ++ separator ++ l.text⟩

/-- The innermost element. -/
def last (l : Label) : String := .ofList (Text.afterLast separator.toList l.text.toList)

/-- The outermost element. -/
def first (l : Label) : String := .ofList (Text.beforeFirst separator.toList l.text.toList)

def beginsWith (l : Label) (s : String) : Bool := s.toList.isPrefixOf l.text.toList

def endsWith (l : Label) (s : String) : Bool := s.toList.isSuffixOf l.text.toList

end Label

end SessionBroker
