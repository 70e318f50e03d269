import SessionBroker.Broker.Response
import SessionBroker.Form.Domain
import SessionBroker.Json.Printer

/-!
# SessionBroker.Broker.Report — state reports and request listings as JSON

* `Broker.report`: all sessions in ascending order of their ids.  What a session does not have is left out.
* `Request.toJson`: a request as a child reads it.
-/

namespace SessionBroker

/-- A member of a JSON object that is left out if it is absent. -/
def optionalMember {α : Type} (name : String) (f : α → Json) : Option α → List (String × Json)
  | none => []
  | some a => [(name, f a)]

namespace Slot

def toJson (id : ServerId) (t : Slot) (listsResources : Bool) : Json :=
  let s := t.session
  .ofMembers
    ([("id", id.toJson), ("service", .ofText s.service), ("label", s.label.toJson), ("phase", s.phase.toJson)] ++
      optionalMember "resources" Quota.toJson (if listsResources then some s.resources else none) ++
      optionalMember "downstream" Ident.toJson s.downstream ++
      optionalMember "provider" (fun p => Json.ofText (Provider.text p)) t.provider)

end Slot

namespace RequestKind

def toJson : RequestKind → Json
  | .create label args resources =>
    .ofMembers
      [("create", .ofMembers [("label", label.toJson), ("args", .ofText args.text), ("resources", resources.toJson)])]
  | .upgrade delta => .ofMembers [("upgrade", .ofMembers [("resources", delta.toJson)])]
  | .close => .ofText "close"

end RequestKind

def Request.toJson (r : Request) : Json :=
  .ofMembers [("service", .ofText r.service), ("id", r.id.toJson), ("kind", r.kind.toJson)]

namespace Broker

/-- The report on all sessions. -/
def reportJson (b : Broker) (generatedAt : String) : Json :=
  .ofMembers
    [("generated_at", .ofText generatedAt),
      ("sessions", .list (b.sessions.entries.map fun e => e.2.toJson e.1 b.config.report.listsResources))]

def report (b : Broker) (generatedAt : String) : String := (b.reportJson generatedAt).pretty

end Broker

end SessionBroker
