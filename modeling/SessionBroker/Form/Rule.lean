import SessionBroker.Json.Document
import SessionBroker.Routing.Rule

/-!
# SessionBroker.Form.Rule — the written forms of routing rules

For each type `read?` reads a value of a document, and `toJson` writes it as JSON.  A rule that leaves out its service
or its label applies to any.
-/

namespace SessionBroker

open Document

variable {δ : Type} [Document δ]

namespace ServiceMatcher

def read? (d : δ) : Option ServiceMatcher := (text? d).map ofText

def toJson (m : ServiceMatcher) : Json := .ofText m.text

end ServiceMatcher

namespace LabelMatcher

/-- The matcher with a pattern, by the name of its case. -/
def ofCase? : String → Option (String → LabelMatcher)
  | "exact" => some .exact
  | "prefix" => some .begins
  | "suffix" => some .ends
  | "last" => some .last
  | _ => none

def read? (d : δ) : Option LabelMatcher :=
  match case? d with
  | some ("any", none) => some .any
  | some ("any", some p) => if isUnit p then some .any else none
  | some (name, some p) => do return (← ofCase? name) (← text? p)
  | _ => none

def toJson : LabelMatcher → Json
  | .any => .ofText "any"
  | .exact p => .ofMembers [("exact", .ofText p)]
  | .begins p => .ofMembers [("prefix", .ofText p)]
  | .ends p => .ofMembers [("suffix", .ofText p)]
  | .last p => .ofMembers [("last", .ofText p)]

end LabelMatcher

namespace Target

def read? (d : δ) : Option Target :=
  match case? d with
  | some ("local", some p) => (text? p).map .here
  | some ("child", some p) => (text? p).map .child
  | some ("parent", some p) =>
    match payload? ["rename"] p with
    | some [rename] => (orElse none (option? text?) rename).map .parent
    | _ => none
  | _ => none

def toJson : Target → Json
  | .here n => .ofMembers [("local", .ofText n)]
  | .parent rename => .ofMembers [("parent", .ofMembers [("rename", .ofOption .ofText rename)])]
  | .child n => .ofMembers [("child", .ofText n)]

end Target

namespace Rule

def read? (d : δ) : Option Rule :=
  match fields? ["service", "label", "target", "label_override"] d with
  | some [service, label, target, labelOverride] => do
    let service ← orElse .any ServiceMatcher.read? service
    let label ← orElse .any LabelMatcher.read? label
    let target ← required Target.read? target
    let labelOverride ← orElse none (option? text?) labelOverride
    return { service, label, target, labelOverride }
  | _ => none

def toJson (r : Rule) : Json :=
  .ofMembers [("service", r.service.toJson), ("label", r.label.toJson), ("target", r.target.toJson),
    ("label_override", .ofOption .ofText r.labelOverride)]

end Rule

end SessionBroker
