import SessionBroker.Proofs.Histories

/-!
# SessionBroker.Proofs.Correspondence — posted requests and sessions

A child knows a session by the id of the request posted at its service, the parent by an id of its own choice.

* `Broker.Refers b id k request`: session `id` was routed to service `k` and refers to a request of it.
* `posted_iff_refers`: the requests posted at a service of a child are those that its sessions refer to, each with the
  session that refers to it.
* `requests_correspond`: in every state that is reached, requests and sessions stand for each other one to one.
-/

namespace SessionBroker.Broker

variable {b : Broker} {id : ServerId} {k : ChildKey} {c : ChildService} {request : ClientId}

/-- Whether session `id` was routed to a service of a child and refers to a request of it. -/
def Refers (b : Broker) (id : ServerId) (k : ChildKey) (request : ClientId) : Prop :=
  ∃ t, b.sessions.find? id = some t ∧ t.provider = some k.provider ∧ t.session.downstream = some request

theorem request?_of_child (hc : b.providers.children.find? k = some c) (request : ClientId) :
    b.providers.request? k.provider request = c.desk.lookup? request := by
  rw [Registry.request?_child, hc]
  rfl

/-- What is posted at a desk is what can be looked up there. -/
theorem mem_posted_iff {d : Desk} : (request, id) ∈ d.posted ↔ d.lookup? request = some id :=
  Table.find?_eq_some_iff.symm

/-- A request stands for the session that refers to it. -/
theorem request?_eq_some_iff (hb : b.Sound) :
    b.providers.request? k.provider request = some id ↔ b.Refers id k request := by
  constructor
  · intro h
    exact hb.posted k.provider request id h
  · rintro ⟨t, ht, hp, hdown⟩
    exact hb.listed id t k.child k.service request ht hp hdown

/-- The requests posted at a service of a child are those that its sessions refer to. -/
theorem posted_iff_refers (hb : b.Sound) (hc : b.providers.children.find? k = some c) :
    (request, id) ∈ c.desk.posted ↔ b.Refers id k request := by
  rw [mem_posted_iff, ← request?_of_child hc, request?_eq_some_iff hb]

/-- The service of a session that refers to a request is there. -/
theorem Refers.exists_service (hb : b.Sound) (h : b.Refers id k request) :
    ∃ c, b.providers.children.find? k = some c := by
  have hrequest := (request?_eq_some_iff hb).2 h
  rw [Registry.request?_child] at hrequest
  obtain ⟨c, hc, -⟩ := Option.bind_eq_some_iff.1 hrequest
  exact ⟨c, hc⟩

/-- No two sessions refer to one request. -/
theorem Refers.unique (hb : b.Sound) {id' : ServerId} (h : b.Refers id k request) (h' : b.Refers id' k request) :
    id = id' := by
  have hrequest := (request?_eq_some_iff hb).2 h
  have hrequest' := (request?_eq_some_iff hb).2 h'
  exact Option.some.inj (hrequest.symm.trans hrequest')

/-- A session refers to one request of one service. -/
theorem Refers.eq {k' : ChildKey} {request' : ClientId} (h : b.Refers id k request) (h' : b.Refers id k' request') :
    k = k' ∧ request = request' := by
  obtain ⟨t, ht, hp, hdown⟩ := h
  obtain ⟨t', ht', hp', hdown'⟩ := h'
  obtain rfl := Option.some.inj (ht.symm.trans ht')
  have hprovider : k.provider = k'.provider := Option.some.inj (hp.symm.trans hp')
  obtain ⟨hchild, hservice⟩ := Provider.child.inj hprovider
  exact ⟨ChildKey.ext hchild hservice, Option.some.inj (hdown.symm.trans hdown')⟩

/-- No session has two requests at a service. -/
theorem nodup_posted_sessions (hb : b.Sound) (hc : b.providers.children.find? k = some c) :
    (c.desk.posted.map Prod.snd).Nodup := by
  have hkeys : (c.desk.posted.map Prod.fst).Nodup := Table.nodup_keys c.desk.requests.table
  refine List.Nodup.map_on (fun e he e' he' hid => ?_) (List.Nodup.of_map Prod.fst hkeys)
  have href : b.Refers e.2 k e.1 := (posted_iff_refers hb hc).1 he
  have href' : b.Refers e.2 k e'.1 := by
    rw [hid]
    exact (posted_iff_refers hb hc).1 he'
  exact Prod.ext (href.eq href').2 hid

/-- The requests posted at the services of children, and the sessions of these services that refer to a request, stand
for each other. -/
structure Correspondence (b : Broker) : Prop where
  /-- A posted request names the session of the service that refers to it, and each such session has its request. -/
  posted : ∀ k c, b.providers.children.find? k = some c → ∀ request id,
    (request, id) ∈ c.desk.posted ↔ b.Refers id k request
  /-- No request is posted twice, and none is posted twice for a session. -/
  once : ∀ k c, b.providers.children.find? k = some c →
    (c.desk.posted.map Prod.fst).Nodup ∧ (c.desk.posted.map Prod.snd).Nodup
  /-- A session refers to a request only while its service is there. -/
  registered : ∀ id k request, b.Refers id k request → ∃ c, b.providers.children.find? k = some c
  /-- No two sessions refer to one request of a service. -/
  unique : ∀ id id' k request, b.Refers id k request → b.Refers id' k request → id = id'

theorem Sound.correspondence (hb : b.Sound) : b.Correspondence where
  posted _ _ hc _ _ := posted_iff_refers hb hc
  once _ c hc := ⟨Table.nodup_keys c.desk.requests.table, nodup_posted_sessions hb hc⟩
  registered _ _ _ h := h.exists_service hb
  unique _ _ _ _ h h' := h.unique hb h'

/-- In every state that is reached, whatever the parent and the surroundings do, the requests posted at the services of
children and the sessions that refer to them stand for each other one to one. -/
theorem requests_correspond {env : Env} {config : RuntimeConfig}
    (h : Reaches (fun _ _ => True) (fun _ _ => True) (start env config) b) : b.Correspondence :=
  (h.sound (sound_start env config)).correspondence

/-- The child refuses a create, the parent closes the session and takes its id again. -/
def requestedAgain : Broker :=
  requestedOnce.run [.childAnswer ⟨"fs", "log"⟩ ⟨0⟩ .denied, .close ⟨1⟩, .withdraw ⟨"fs", "log"⟩,
    .announce ⟨"fs", "log"⟩ 1, .create ⟨1⟩ "log" "" {}]

theorem reaches_requestedAgain {around : Env → Env → Prop} :
    Reaches around (fun _ _ => True) (start sampleEnv sampleConfig) requestedAgain :=
  reaches_run _ reaches_requestedOnce (by simp [Op.IsBuiltIn])

/-- After a refusal, a close, a new announcement and a new create under the old id, one request is posted, and it is
that of the new session. -/
theorem correspondence_requestedAgain : requestedAgain.Correspondence ∧
    ∃ c, requestedAgain.providers.children.find? ⟨"fs", "log"⟩ = some c ∧ c.desk.posted = [(⟨0⟩, ⟨1⟩)] ∧
      requestedAgain.Refers ⟨1⟩ ⟨"fs", "log"⟩ ⟨0⟩ := by
  have hcorr : requestedAgain.Correspondence := requests_correspond reaches_requestedAgain
  obtain ⟨c, hc, hposted⟩ : ∃ c, requestedAgain.providers.children.find? ⟨"fs", "log"⟩ = some c ∧
      c.desk.posted = [(⟨0⟩, ⟨1⟩)] := ⟨_, rfl, by decide +kernel⟩
  refine ⟨hcorr, c, hc, hposted, ?_⟩
  exact (hcorr.posted _ c hc ⟨0⟩ ⟨1⟩).1 (by rw [hposted]; exact List.mem_singleton_self _)

end SessionBroker.Broker
