import SessionBroker.Config.File
import SessionBroker.Proofs.JsonTexts

/-!
# SessionBroker.Proofs.Configurations — configurations that are written are read as what they were

* `Document.fields?_ofMembers` and its like: what a typed reader finds in a value that was written.
* `Rule.Spelled`: a rule whose service is not a name that stands for any service.  Reading yields no other rules, in
  whatever format (`Rule.spelled_of_read?`), and these are read back (`Rule.read?_toJson`).
* `configurations_survive`: a configuration that was parsed survives being written as JSON and parsed again.
-/

namespace SessionBroker

open Document

namespace Json

/-! ### What is found in a value that was written -/

theorem members?_ofMembers (members : List (String × Json)) :
    members? (members.map fun m => (Quoted.encode m.1.toList, m.2)) = some members := by
  unfold members?
  induction members with
  | nil => rfl
  | cons m rest ih =>
    obtain ⟨name, v⟩ := m
    rw [List.map_cons, List.mapM_cons, ih, Quoted.decode?_encode]
    simp

theorem fields?_ofMembers (names : List String) (members : List (String × Json)) :
    Document.fields? names (ofMembers members) = names.mapM (named? members) := by
  show (members? (members.map fun m => (Quoted.encode m.1.toList, m.2))).bind (fun ms => names.mapM (named? ms)) = _
  rw [members?_ofMembers]
  rfl

theorem payload?_ofMembers (names : List String) (members : List (String × Json)) :
    Document.payload? names (ofMembers members) = names.mapM (named? members) := fields?_ofMembers names members

@[simp] theorem text?_ofText (s : String) : Document.text? (ofText s) = some s := by
  show (Quoted.decode? (Quoted.encode s.toList)).map String.ofList = some s
  rw [Quoted.decode?_encode]
  simp

@[simp] theorem case?_ofText (s : String) : Document.case? (ofText s) = some (s, none) := by
  show (Quoted.decode? (Quoted.encode s.toList)).map (fun s => (String.ofList s, none)) = some (s, none)
  rw [Quoted.decode?_encode]
  simp

/-- A case is written as an object with one member. -/
@[simp] theorem case?_ofMembers (name : String) (v : Json) :
    Document.case? (ofMembers [(name, v)]) = some (name, some v) := by
  show (Quoted.decode? (Quoted.encode name.toList)).map (fun s => (String.ofList s, some v)) = some (name, some v)
  rw [Quoted.decode?_encode]
  simp

@[simp] theorem option?_ofOption (o : Option String) : option? Document.text? (ofOption ofText o) = some o := by
  cases o with
  | none => rfl
  | some s =>
    show (Document.text? (ofText s)).map some = some (some s)
    rw [text?_ofText]
    rfl

@[simp] theorem word?_toJson (w : Word) : word? w.toJson = some w := by
  have hint : Document.int? w.toJson = some (Int.ofNat w.val) := by
    show Json.int? (.number (Text.digits w.val)) = _
    have hread := Text.number?_digits w.val
    unfold Json.int?
    split
    · rename_i ds heq
      have hds : Text.digits w.val = '-' :: ds := by simpa using heq
      have hsign : ('-' : Char).isDigit = true := Text.isDigit_of_mem_digits (by rw [hds]; exact List.mem_cons_self)
      cases hsign
    · rename_i ds _ heq
      obtain rfl : Text.digits w.val = ds := by simpa using heq
      rw [hread]
      rfl
    · rename_i hnot
      exact absurd rfl (hnot _)
  unfold word?
  rw [hint]
  exact Word.ofNat?_val w

/-- What is written entry by entry is read entry by entry. -/
theorem list?_map {α : Type} {read : Json → Option α} {write : α → Json} :
    ∀ (l : List α), (∀ a ∈ l, read (write a) = some a) → list? read (.list (l.map write)) = some l := by
  intro l h
  show (l.map write).mapM read = some l
  induction l with
  | nil => rfl
  | cons a rest ih =>
    rw [List.map_cons, List.mapM_cons, h a List.mem_cons_self, ih fun b hb => h b (List.mem_cons_of_mem _ hb)]
    rfl

end Json

/-! ### Rules -/

theorem ServiceMatcher.ofText_ne_wildcard (s : String) : ofText s ≠ .name "*" := by
  unfold ofText
  split
  · exact ServiceMatcher.noConfusion
  · rename_i hs
    intro h
    obtain rfl := ServiceMatcher.name.inj h
    exact hs rfl

theorem LabelMatcher.read?_toJson (m : LabelMatcher) : read? m.toJson = some m := by
  cases m <;> simp [read?, toJson, ofCase?]

theorem Target.read?_toJson (t : Target) : read? t.toJson = some t := by
  cases t with
  | here n | child n => simp [read?, toJson]
  | parent rename =>
    have hpayload : Document.payload? ["rename"] (Json.ofMembers [("rename", Json.ofOption Json.ofText rename)]) =
        some [some (Json.ofOption Json.ofText rename)] := by
      rw [Json.payload?_ofMembers]
      rfl
    simp only [read?, toJson, Json.case?_ofMembers, hpayload, orElse, Json.option?_ofOption]
    rfl

namespace Rule

/-- The service of a rule is not a name that stands for any service. -/
def Spelled (r : Rule) : Prop := r.service ≠ .name "*"

instance (r : Rule) : Decidable r.Spelled := inferInstanceAs (Decidable (r.service ≠ .name "*"))

/-- Reading yields rules that can be written, in whatever format they stand. -/
theorem spelled_of_read? {δ : Type} [Document δ] {d : δ} {r : Rule} (h : read? d = some r) : r.Spelled := by
  unfold read? at h
  split at h
  · rename_i service _ _ _ _
    simp only [Option.bind_eq_bind, Option.bind_eq_some_iff] at h
    obtain ⟨m, hm, _, _, _, _, _, _, hr⟩ := h
    obtain rfl := Option.some.inj hr
    show m ≠ .name "*"
    unfold orElse at hm
    split at hm
    · obtain rfl := Option.some.inj hm
      exact ServiceMatcher.noConfusion
    · obtain ⟨s, -, rfl⟩ := Option.map_eq_some_iff.1 hm
      exact ServiceMatcher.ofText_ne_wildcard s
  · cases h

theorem service_read?_toJson {r : Rule} (h : r.Spelled) : ServiceMatcher.read? r.service.toJson = some r.service := by
  unfold ServiceMatcher.read? ServiceMatcher.toJson
  rw [Json.text?_ofText]
  unfold Spelled at h
  cases hs : r.service with
  | any => rfl
  | name s =>
    have hname : ¬s = "*" := by
      rintro rfl
      exact h hs
    simp [ServiceMatcher.text, ServiceMatcher.ofText, hname]

theorem read?_toJson {r : Rule} (h : r.Spelled) : read? r.toJson = some r := by
  have hfields : Document.fields? ["service", "label", "target", "label_override"] r.toJson =
      some [some r.service.toJson, some r.label.toJson, some r.target.toJson,
        some (Json.ofOption Json.ofText r.labelOverride)] := by
    unfold toJson
    rw [Json.fields?_ofMembers]
    rfl
  simp only [read?, hfields, orElse, required, service_read?_toJson h, LabelMatcher.read?_toJson, Target.read?_toJson,
    Json.option?_ofOption]
  rfl

end Rule

/-- What is read from a list was read from one of its entries. -/
theorem exists_of_mem_mapM {α β : Type} {f : α → Option β} {l : List α} {bs : List β} (h : l.mapM f = some bs) :
    ∀ b ∈ bs, ∃ a ∈ l, f a = some b := by
  induction l generalizing bs with
  | nil =>
    obtain rfl := Option.some.inj h
    exact fun _ hb => absurd hb List.not_mem_nil
  | cons a l ih =>
    simp only [List.mapM_cons, Option.bind_eq_bind, Option.bind_eq_some_iff, Option.pure_def, Option.some.injEq] at h
    obtain ⟨b, hab, bs, hbs, rfl⟩ := h
    intro c hc
    rcases List.mem_cons.1 hc with rfl | hc
    · exact ⟨a, List.mem_cons_self, hab⟩
    · obtain ⟨d, hd, hdc⟩ := ih hbs c hc
      exact ⟨d, List.mem_cons_of_mem a hd, hdc⟩

/-- Reading a list of rules yields rules that can be written. -/
theorem spelled_of_rules {δ : Type} [Document δ] {o : Option δ} {rules : List Rule}
    (h : orElse [] (list? Rule.read?) o = some rules) : ∀ r ∈ rules, r.Spelled := by
  intro r hr
  cases o with
  | none =>
    obtain rfl := Option.some.inj h
    cases hr
  | some d =>
    obtain ⟨items, -, hitems⟩ := Option.bind_eq_some_iff.1 h
    obtain ⟨d', -, hread⟩ := exists_of_mem_mapM hitems r hr
    exact Rule.spelled_of_read? hread

theorem rules_read?_toJson {rules : List Rule} (h : ∀ r ∈ rules, r.Spelled) :
    list? Rule.read? (.list (rules.map Rule.toJson) : Json) = some rules :=
  Json.list?_map rules fun r hr => Rule.read?_toJson (h r hr)

theorem ReportConfig.read?_toJson (c : ReportConfig) : read? c.toJson = some c := by
  obtain ⟨enabled, includeResources⟩ := c
  have hfields : Document.fields? ["enabled", "include_resources"] (toJson ⟨enabled, includeResources⟩) =
      some [some (.bool enabled), includeResources.map .bool] := by
    unfold toJson
    rw [Json.fields?_ofMembers]
    cases includeResources <;> rfl
  unfold read?
  rw [hfields]
  cases includeResources <;> rfl

namespace RoutingConfig

theorem spelled_of_read? {δ : Type} [BufferedDocument δ] {d : δ} {c : RoutingConfig} (h : Readable.read? d = some c) :
    ∀ r ∈ c.rules, r.Spelled := by
  simp only [Readable.read?] at h
  split at h
  · obtain ⟨rules, hrules, rfl⟩ := Option.map_eq_some_iff.1 h
    exact spelled_of_rules hrules
  · cases h

theorem read?_toJson {c : RoutingConfig} (h : ∀ r ∈ c.rules, r.Spelled) : Readable.read? c.toJson = some c := by
  have hfields : Document.fields? ["routes"] c.toJson = some [some (.list (c.rules.map Rule.toJson))] := by
    unfold toJson
    rw [Json.fields?_ofMembers]
    rfl
  simp only [Readable.read?, hfields, orElse, rules_read?_toJson h]
  rfl

end RoutingConfig

namespace RuntimeConfig

theorem spelled_of_read? {δ : Type} [BufferedDocument δ] {d : δ} {c : RuntimeConfig} (h : Readable.read? d = some c) :
    ∀ r ∈ c.rules, r.Spelled := by
  simp only [Readable.read?] at h
  split at h
  · simp only [Option.bind_eq_bind, Option.bind_eq_some_iff] at h
    obtain ⟨_, _, _, _, _, _, _, _, rules, hrules, hc⟩ := h
    obtain rfl := Option.some.inj hc
    exact spelled_of_rules hrules
  · cases h

theorem read?_toJson {c : RuntimeConfig} (h : ∀ r ∈ c.rules, r.Spelled) : Readable.read? c.toJson = some c := by
  have hfields : Document.fields? ["parent_retry_limit", "default_ram_quota", "default_cap_quota", "report", "routes"]
      c.toJson = some [some c.retryLimit.toJson, some c.defaultQuota.ram.toJson, some c.defaultQuota.caps.toJson,
        some c.report.toJson, some (.list (c.rules.map Rule.toJson))] := by
    unfold toJson
    rw [Json.fields?_ofMembers]
    rfl
  simp only [Readable.read?, hfields, orElse, Json.word?_toJson, ReportConfig.read?_toJson, rules_read?_toJson h]
  rfl

end RuntimeConfig

/-! ### Configurations as texts -/

namespace Rule

theorem written_toJson (r : Rule) : r.toJson.Written := by
  have hlabel : r.label.toJson.Written := by
    cases r.label with
    | any => exact Json.written_ofText _
    | exact p | begins p | ends p | last p => exact Json.written_ofMembers (by simp [Json.written_ofText])
  have htarget : r.target.toJson.Written := by
    cases r.target with
    | here n | child n => exact Json.written_ofMembers (by simp [Json.written_ofText])
    | parent rename =>
      have hrename := Json.written_ofOption Json.written_ofText rename
      exact Json.written_ofMembers (by simpa using Json.written_ofMembers (by simpa using hrename))
  have hservice : r.service.toJson.Written := Json.written_ofText _
  have hoverride := Json.written_ofOption Json.written_ofText r.labelOverride
  exact Json.written_ofMembers (by simp [hservice, hlabel, htarget, hoverride])

end Rule

theorem written_rules (rules : List Rule) : (Json.list (rules.map Rule.toJson)).Written := by
  refine .list fun v hv => ?_
  obtain ⟨r, -, rfl⟩ := List.mem_map.1 hv
  exact r.written_toJson

theorem RoutingConfig.written_toJson (c : RoutingConfig) : c.toJson.Written :=
  Json.written_ofMembers (by simp [written_rules])

theorem ReportConfig.written_toJson (c : ReportConfig) : c.toJson.Written := by
  refine Json.written_ofMembers ?_
  cases c.includeResources <;> simp [Json.Written.bool]

theorem RuntimeConfig.written_toJson (c : RuntimeConfig) : c.toJson.Written := by
  have hword : ∀ w : Word, w.toJson.Written := fun w => Json.written_ofNat w.val
  exact Json.written_ofMembers (by simp [hword, c.report.written_toJson, written_rules])

/-- What was parsed was read from a document of one format or the other. -/
theorem exists_of_parse {α : Type} [Readable α] {format : Format} {text : String} {a : α}
    (h : parse α format text = .ok a) : ∃ (δ : Type) (_ : BufferedDocument δ) (d : δ), Readable.read? d = some a := by
  unfold parse at h
  dsimp only at h
  split at h
  · rename_i hvalue
    obtain rfl := Except.ok.inj h
    cases format with
    | json =>
      obtain ⟨v, -, hread⟩ := Option.bind_eq_some_iff.1 hvalue
      exact ⟨Json, inferInstance, v, hread⟩
    | toml =>
      obtain ⟨v, -, hread⟩ := Option.bind_eq_some_iff.1 hvalue
      exact ⟨Toml, inferInstance, v, hread⟩
  · cases h

/-- A value that a text can hold is parsed as what is read from it, in whichever way it is printed. -/
theorem parse_printed {α : Type} [Readable α] {v : Json} {a : α} (h : v.Written) (hread : Readable.read? v = some a) :
    parse α .json v.compact = .ok a ∧ parse α .json v.pretty = .ok a := by
  simp [parse, Json.parse?_compact h, Json.parse?_pretty h, hread]

/-- **Configurations survive being written.**  Whatever configuration a text of either format yields, its JSON form,
without white space or with one entry a line, is parsed and yields the same configuration. -/
theorem configurations_survive (format : Format) (text : String) :
    (∀ c, parse RoutingConfig format text = .ok c →
      parse RoutingConfig .json c.toJson.compact = .ok c ∧ parse RoutingConfig .json c.toJson.pretty = .ok c) ∧
    ∀ c, parse RuntimeConfig format text = .ok c →
      parse RuntimeConfig .json c.toJson.compact = .ok c ∧ parse RuntimeConfig .json c.toJson.pretty = .ok c := by
  refine ⟨fun c h => ?_, fun c h => ?_⟩
  · obtain ⟨_, _, _, hread⟩ := exists_of_parse h
    exact parse_printed c.written_toJson (RoutingConfig.read?_toJson (RoutingConfig.spelled_of_read? hread))
  · obtain ⟨_, _, _, hread⟩ := exists_of_parse h
    exact parse_printed c.written_toJson (RuntimeConfig.read?_toJson (RuntimeConfig.spelled_of_read? hread))

/-- A rule for any service, with a label pattern that has to be escaped and a target without new name. -/
def escapedRouting : RoutingConfig := ⟨[{ label := .ends "\"é\n", target := .parent none }]⟩

def escapedText : String :=
  "\x7b\"routes\":[\x7b\"service\":\"*\",\"label\":\x7b\"suffix\":\"\\\"\\u00e9\\n\"\x7d," ++
    "\"target\":\x7b\"parent\":[]\x7d\x7d]\x7d"

/-- A configuration that leaves the limit and one quota out. -/
def partialRuntime : RuntimeConfig := { defaultQuota := ⟨⟨7, by decide⟩, 0⟩, report := ⟨true, some false⟩ }

def partialText : String := "default_ram_quota = 7\nreport = [true, false]"

theorem configurations_survive_escapes :
    (parse RoutingConfig .json escapedText = .ok escapedRouting ∧
        parse RoutingConfig .json escapedRouting.toJson.compact = .ok escapedRouting ∧
        parse RoutingConfig .json escapedRouting.toJson.pretty = .ok escapedRouting) ∧
      parse RuntimeConfig .toml partialText = .ok partialRuntime ∧
        parse RuntimeConfig .json partialRuntime.toJson.compact = .ok partialRuntime ∧
        parse RuntimeConfig .json partialRuntime.toJson.pretty = .ok partialRuntime := by
  have hrouting : parse RoutingConfig .json escapedText = .ok escapedRouting := by decide +kernel
  have hruntime : parse RuntimeConfig .toml partialText = .ok partialRuntime := by decide +kernel
  exact ⟨⟨hrouting, (configurations_survive .json escapedText).1 _ hrouting⟩,
    hruntime, (configurations_survive .toml partialText).2 _ hruntime⟩

end SessionBroker
