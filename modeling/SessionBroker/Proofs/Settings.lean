import SessionBroker.Config.File

/-!
# SessionBroker.Proofs.Settings — what a configuration text sets, and what merging makes of it

A text need not mention every option.  Reading fills in defaults for those that it leaves out, so the configuration no
longer tells which options were set, and merging goes by the values.  That is right for quotas, where zero is the
default and counts as unset; but a limit of ten attempts and all report options are taken over whether the text set
them or not.

* `Settings`: the options that a text mentions; `Settings.filled` is the configuration that is read (`parse_eq_filled`).
* `Settings.Respects s base merged`: what the text sets is taken over, and what it does not mention is kept.
* `RuntimeConfig.merge_settings`: what merging does, and exactly when it respects the text.
-/

namespace SessionBroker

open Document

/-- The report options of a text.  One that the text does not mention is none. -/
structure ReportSettings where
  enabled : Option Bool := none
  /-- A text may mention the option and leave it unset. -/
  includeResources : Option (Option Bool) := none
  deriving DecidableEq

/-- The options of a text.  One that the text does not mention is none. -/
structure Settings where
  retryLimit : Option Word := none
  ram : Option Word := none
  caps : Option Word := none
  report : ReportSettings := {}
  rules : Option (List Rule) := none
  deriving DecidableEq

/-! ### Reading what is there -/

/-- Read a field if it is there. -/
def ifPresent {δ α : Type} (read : δ → Option α) : Option δ → Option (Option α)
  | none => some none
  | some d => (read d).map some

theorem orElse_eq_ifPresent {δ α : Type} (a : α) (read : δ → Option α) (o : Option δ) :
    orElse a read o = (ifPresent read o).map fun x => x.getD a := by
  cases o with
  | none => rfl
  | some d =>
    show read d = ((read d).map some).map fun x => x.getD a
    cases read d <;> rfl

/-- Where the readers of a field differ by a function, so do those of a field that may be missing. -/
theorem orElse_map {δ α β : Type} {read : δ → Option α} {f : α → β} (a : α) (o : Option δ) :
    orElse (f a) (fun d => (read d).map f) o = (orElse a read o).map f := by
  cases o <;> rfl

namespace ReportSettings

def read? {δ : Type} [Document δ] (d : δ) : Option ReportSettings :=
  match fields? ["enabled", "include_resources"] d with
  | some [enabled, includeResources] => do
    return ⟨← ifPresent bool? enabled, ← ifPresent (option? bool?) includeResources⟩
  | _ => none

/-- The report options with the defaults. -/
def filled (s : ReportSettings) : ReportConfig := ⟨s.enabled.getD true, s.includeResources.getD none⟩

theorem read?_filled {δ : Type} [Document δ] (d : δ) : ReportConfig.read? d = (read? d).map filled := by
  unfold ReportConfig.read? read?
  cases fields? ["enabled", "include_resources"] d with
  | none => rfl
  | some fields =>
    rcases fields with _ | ⟨enabled, _ | ⟨includeResources, _ | _⟩⟩
    case cons.cons.nil =>
      simp only [orElse_eq_ifPresent, Option.bind_eq_bind, Option.bind_map, Option.map_bind, Option.pure_def,
        Function.comp_def, Option.map_some]
      rfl
    all_goals rfl

end ReportSettings

namespace Settings

instance : Readable Settings where
  read? d :=
    match fields? ["parent_retry_limit", "default_ram_quota", "default_cap_quota", "report", "routes"] d with
    | some [limit, ram, caps, report, rules] => do
      let retryLimit ← ifPresent word? limit
      let ram ← ifPresent word? ram
      let caps ← ifPresent word? caps
      let report ← orElse {} ReportSettings.read? report
      let rules ← ifPresent (list? Rule.read?) rules
      return { retryLimit, ram, caps, report, rules }
    | _ => none

/-- The configuration with the defaults in the place of what is not mentioned. -/
def filled (s : Settings) : RuntimeConfig where
  retryLimit := s.retryLimit.getD defaultRetryLimit
  defaultQuota := ⟨s.ram.getD 0, s.caps.getD 0⟩
  report := s.report.filled
  rules := s.rules.getD []

theorem read?_filled {δ : Type} [BufferedDocument δ] (d : δ) :
    (Readable.read? d : Option RuntimeConfig) = (Readable.read? d : Option Settings).map filled := by
  have hreport : ∀ o : Option δ, orElse {} ReportConfig.read? o =
      (orElse {} ReportSettings.read? o).map ReportSettings.filled := by
    intro o
    rw [← orElse_map, ← funext ReportSettings.read?_filled]
    rfl
  simp only [Readable.read?]
  cases fields? ["parent_retry_limit", "default_ram_quota", "default_cap_quota", "report", "routes"] d with
  | none => rfl
  | some fields =>
    rcases fields with _ | ⟨limit, _ | ⟨ram, _ | ⟨caps, _ | ⟨report, _ | ⟨rules, _ | _⟩⟩⟩⟩⟩
    case cons.cons.cons.cons.cons.nil =>
      simp only [hreport, orElse_eq_ifPresent, Option.bind_eq_bind, Option.bind_map, Option.map_bind, Option.pure_def,
        Function.comp_def, Option.map_some]
      rfl
    all_goals rfl

end Settings

/-- A text is read as a configuration by filling in defaults for what it does not mention. -/
theorem parse_eq_filled (format : Format) (text : String) :
    parse RuntimeConfig format text = (parse Settings format text).map Settings.filled := by
  have hread : ∀ {δ : Type} [BufferedDocument δ] (o : Option δ), (o >>= Readable.read? : Option RuntimeConfig) =
      (o >>= Readable.read? : Option Settings).map Settings.filled := by
    intro δ _ o
    cases o with
    | none => rfl
    | some d => exact Settings.read?_filled d
  unfold parse
  cases format with
  | json =>
    simp only [hread]
    cases (Json.parse? text >>= Readable.read? : Option Settings) <;> rfl
  | toml =>
    simp only [hread]
    cases (Toml.parse? text >>= Readable.read? : Option Settings) <;> rfl

/-! ### Merging what was read -/

/-- What a text does not mention is kept, and what it mentions is taken if the value counts. -/
def Settles {α : Type} (set : Option α) (counts : α → Prop) (before after : α) : Prop :=
  (set = none → after = before) ∧ ∀ a, set = some a → counts a → after = a

namespace Settings

variable {s : Settings} {base merged : RuntimeConfig}

/-- Merging heeds what a text says: options that it mentions are taken over, limits and quotas if they are not zero, and
all else is kept. -/
structure Respects (s : Settings) (base merged : RuntimeConfig) : Prop where
  retryLimit : Settles s.retryLimit (· ≠ 0) base.retryLimit merged.retryLimit
  ram : Settles s.ram (· ≠ 0) base.defaultQuota.ram merged.defaultQuota.ram
  caps : Settles s.caps (· ≠ 0) base.defaultQuota.caps merged.defaultQuota.caps
  enabled : Settles s.report.enabled (fun _ => True) base.report.enabled merged.report.enabled
  includeResources :
    Settles s.report.includeResources (fun _ => True) base.report.includeResources merged.report.includeResources
  rules : s.rules = none → merged.rules = base.rules

/-- What merging makes of the settings of a text: quotas and rules are merged as they should be, but the limit and the
report options become what the text makes of them with the defaults. -/
structure Merges (s : Settings) (base merged : RuntimeConfig) : Prop where
  retryLimit :
    merged.retryLimit = if s.retryLimit = some 0 then base.retryLimit else s.retryLimit.getD defaultRetryLimit
  ram : merged.defaultQuota.ram = if s.ram.getD 0 = 0 then base.defaultQuota.ram else s.ram.getD 0
  caps : merged.defaultQuota.caps = if s.caps.getD 0 = 0 then base.defaultQuota.caps else s.caps.getD 0
  report : merged.report = s.report.filled
  rules : merged.rules = s.rules.getD [] ++ base.rules

/-- A zero is the default and counts as unset, so a value that is zero by default is merged rightly. -/
theorem settles_of_zero {set : Option Word} {before after : Word}
    (h : after = if set.getD 0 = 0 then before else set.getD 0) : Settles set (· ≠ 0) before after := by
  refine ⟨?_, ?_⟩
  · rintro rfl
    exact h
  · rintro a rfl ha
    rw [h]
    exact if_neg ha

/-- A value that is always overwritten is kept only by chance: it has to be the default, unless the text mentions it. -/
theorem settles_iff_of_overwritten {α : Type} {set : Option α} {counts : α → Prop} {default before after : α}
    (h : ∀ a, set = some a → counts a → after = a) (hdefault : set = none → after = default) :
    Settles set counts before after ↔ (set = none → before = default) := by
  constructor
  · intro hs hnone
    exact (hs.1 hnone).symm.trans (hdefault hnone)
  · intro hb
    exact ⟨fun hnone => (hdefault hnone).trans (hb hnone).symm, h⟩

theorem merges_filled (s : Settings) (base : RuntimeConfig) : s.Merges base (base.merge s.filled) where
  retryLimit := by
    show (if s.retryLimit.getD defaultRetryLimit = 0 then base.retryLimit else s.retryLimit.getD defaultRetryLimit) = _
    cases s.retryLimit with
    | none => rfl
    | some w => simp
  ram := rfl
  caps := rfl
  report := rfl
  rules := rfl

/-- Merging respects a text exactly if the base has the default of each option that is always overwritten and that the
text does not mention. -/
theorem Merges.respects_iff (h : s.Merges base merged) : s.Respects base merged ↔
    (s.retryLimit = none → base.retryLimit = defaultRetryLimit) ∧
      (s.report.enabled = none → base.report.enabled = true) ∧
      (s.report.includeResources = none → base.report.includeResources = none) := by
  have hlimit : Settles s.retryLimit (· ≠ 0) base.retryLimit merged.retryLimit ↔
      (s.retryLimit = none → base.retryLimit = defaultRetryLimit) := by
    apply settles_iff_of_overwritten
    · intro w hw hne
      simp [h.retryLimit, hw, hne]
    · intro hnone
      simp [h.retryLimit, hnone]
  have henabled : Settles s.report.enabled (fun _ => True) base.report.enabled merged.report.enabled ↔
      (s.report.enabled = none → base.report.enabled = true) := by
    apply settles_iff_of_overwritten
    · intro b hb _
      simp [h.report, ReportSettings.filled, hb]
    · intro hnone
      simp [h.report, ReportSettings.filled, hnone]
  have hresources :
      Settles s.report.includeResources (fun _ => True) base.report.includeResources merged.report.includeResources ↔
        (s.report.includeResources = none → base.report.includeResources = none) := by
    apply settles_iff_of_overwritten
    · intro b hb _
      simp [h.report, ReportSettings.filled, hb]
    · intro hnone
      simp [h.report, ReportSettings.filled, hnone]
  rw [← hlimit, ← henabled, ← hresources]
  constructor
  · intro hr
    exact ⟨hr.retryLimit, hr.enabled, hr.includeResources⟩
  · rintro ⟨hr, he, hi⟩
    exact
      { retryLimit := hr
        ram := settles_of_zero h.ram
        caps := settles_of_zero h.caps
        enabled := he
        includeResources := hi
        rules := fun hnone => by simp [h.rules, hnone] }

end Settings

/-- **What merging makes of a text.**  Every configuration that is read comes from the settings of its text, and merging
it does with each option what `Merges` says: quotas that are set and not zero are taken and others kept, and the rules
of the text go in front.  The law that all that a text does not mention is kept holds exactly if, of the limit
and the two report options, the text mentions each one that is not the default in the base.  So a text without settings
leaves a base as it is only if its limit and its report options are the defaults. -/
theorem RuntimeConfig.merge_settings {format : Format} {text : String} {other : RuntimeConfig} (base : RuntimeConfig)
    (h : parse RuntimeConfig format text = .ok other) : ∃ s, parse Settings format text = .ok s ∧ other = s.filled ∧
      s.Merges base (base.merge other) ∧
      (s.Respects base (base.merge other) ↔
        (s.retryLimit = none → base.retryLimit = defaultRetryLimit) ∧
          (s.report.enabled = none → base.report.enabled = true) ∧
          (s.report.includeResources = none → base.report.includeResources = none)) ∧
      (s = {} → (base.merge other = base ↔ base.retryLimit = defaultRetryLimit ∧ base.report = {})) := by
  rw [parse_eq_filled] at h
  cases hs : parse Settings format text with
  | error e =>
    rw [hs] at h
    cases h
  | ok s =>
    rw [hs] at h
    obtain rfl := Except.ok.inj h
    refine ⟨s, rfl, rfl, s.merges_filled base, (s.merges_filled base).respects_iff, ?_⟩
    rintro rfl
    have hm := (({} : Settings).merges_filled base)
    constructor
    · intro heq
      rw [heq] at hm
      exact ⟨hm.retryLimit, hm.report⟩
    · rintro ⟨hr, hb⟩
      exact RuntimeConfig.ext (hm.retryLimit.trans hr.symm) rfl (hm.report.trans hb.symm) rfl

/-- A base that differs from the defaults in the limit and in the report options. -/
def oneAttempt : RuntimeConfig := { retryLimit := 1, report := { enabled := false } }

/-- A text that sets the limit and a report option, and a quota to zero. -/
def fiveAttemptsText : String := "parent_retry_limit = 5\ndefault_cap_quota = 0\n[report]\ninclude_resources = false\n"

def fiveAttempts : RuntimeConfig := { retryLimit := ⟨5, by decide⟩, report := { includeResources := some false } }

theorem RuntimeConfig.merge_settings_fiveAttempts : parse RuntimeConfig .toml fiveAttemptsText = .ok fiveAttempts ∧
    ∃ s, parse Settings .toml fiveAttemptsText = .ok s ∧ s.Merges oneAttempt (oneAttempt.merge fiveAttempts) ∧
      (s.Respects oneAttempt (oneAttempt.merge fiveAttempts) ↔
        (s.retryLimit = none → oneAttempt.retryLimit = defaultRetryLimit) ∧
          (s.report.enabled = none → oneAttempt.report.enabled = true) ∧
          (s.report.includeResources = none → oneAttempt.report.includeResources = none)) := by
  have hparse : parse RuntimeConfig .toml fiveAttemptsText = .ok fiveAttempts := rfl
  obtain ⟨s, hs, -, hm, hr, -⟩ := RuntimeConfig.merge_settings oneAttempt hparse
  exact ⟨hparse, s, hs, hm, hr⟩

/-- Merging does not keep what a text leaves out: an empty text, which sets nothing, undoes a limit of one attempt
and switches reports on. -/
theorem Settings.unset_options_lost : parse RuntimeConfig .toml "" = .ok {} ∧ parse Settings .toml "" = .ok {} ∧
    ¬({} : Settings).Respects oneAttempt (oneAttempt.merge {}) ∧ oneAttempt.merge {} ≠ oneAttempt ∧
    (oneAttempt.merge {}).retryLimit = defaultRetryLimit ∧ (oneAttempt.merge {}).report.enabled = true := by
  have hlimit : (oneAttempt.merge {}).retryLimit ≠ oneAttempt.retryLimit := by decide
  refine ⟨rfl, rfl, ?_, ?_, rfl, rfl⟩
  · intro h
    exact hlimit (h.retryLimit.1 rfl)
  · intro h
    exact hlimit (congrArg RuntimeConfig.retryLimit h)

end SessionBroker
