import SessionBroker.Config.File

/-!
# SessionBroker.Command.Script — scripts of requests

A script lists local services to provide and the requests of the parent in the order of their arrival:

* `create` with an id, a service and arguments, `upgrade` with an id and quota, `close` with an id, and `reap`.

The name of a request stands under `op`.  A script that names no quota starts with `defaultAccount`.
-/

namespace SessionBroker

open Document

inductive ScriptRequest where
  | create (id : ServerId) (service args : String)
  | upgrade (id : ServerId) (q : Quota)
  | close (id : ServerId)
  | reap
  deriving DecidableEq

structure Script where
  /-- The balance of the own account at the start. -/
  account : Quota
  services : List String
  requests : List ScriptRequest
  deriving DecidableEq

namespace ScriptRequest

/-- Read a request of a name from its fields. -/
def ofCase? (name : String) (d : Buffered) : Option ScriptRequest :=
  match name with
  | "create" =>
    match fields? ["id", "service", "args"] d with
    | some [id, service, args] => do
      return .create (← required Ident.read? id) (← required text? service) (← orElse "" text? args)
    | _ => none
  | "upgrade" =>
    match fields? ["id", "ram_quota", "cap_quota"] d with
    | some [id, ram, caps] => do
      return .upgrade (← required Ident.read? id) ⟨← orElse 0 word? ram, ← orElse 0 word? caps⟩
    | _ => none
  | "close" =>
    match fields? ["id"] d with
    | some [id] => (required Ident.read? id).map .close
    | _ => none
  | "reap" =>
    match d with
    | .table _ | .list [] => some .reap
    | _ => none
  | _ => none

/-- Read a request.  It is taken in first, because its name may stand behind its other fields. -/
def read? {δ : Type} [BufferedDocument δ] (d : δ) : Option ScriptRequest := do
  let (name, fields) ← (← BufferedDocument.buffer? 2 d).tagged? "op"
  ofCase? name fields

end ScriptRequest

namespace Script

/-- The balance of the own account unless the script says otherwise. -/
def defaultAccount : Quota := ⟨⟨1048576, by decide⟩, ⟨100, by decide⟩⟩

instance : Readable Script where
  read? d :=
    match fields? ["env_ram_quota", "env_cap_quota", "local_services", "requests"] d with
    | some [ram, caps, services, requests] => do
      let ram ← orElse defaultAccount.ram word? ram
      let caps ← orElse defaultAccount.caps word? caps
      let services ← orElse [] (list? text?) services
      let requests ← orElse [] (list? ScriptRequest.read?) requests
      return { account := ⟨ram, caps⟩, services, requests }
    | _ => none

end Script

end SessionBroker
