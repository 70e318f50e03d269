import SessionBroker.Proofs.Fallbacks

/-!
# SessionBroker.Proofs.Expanding — upgrades at the parent are paid for once

An upgrade that lacks a resource asks the parent for it and tries again, once for each resource.

* `tryUpgrade_outcome`: a try fails and restores the bank, or it is paid for.
* `Lacked id args q rs env env'`: tries that lacked the resources `rs`, each with a request for the resource right
  behind it, led from `env` to `env'`.
* `upgradeWith_ends`: the tries end behind ones that lacked resources that are apart, so behind two at most.
  `upgradeWith_congr`: they do not end for want of further tries.
* `upgrade_pays_once`: an upgrade that succeeds is paid for once, and one that fails is not paid for.
-/

namespace SessionBroker.Env

variable {env env' : Env} {id : ClientId} {args : Args} {q : Quota} {n m : Nat} {may rs : List Resource}

/-! ### One try -/

/-- A try fails and restores the bank, or it is paid for. -/
theorem tryUpgrade_outcome (env : Env) (id : ClientId) (args : Args) (q : Quota)
    (hpayee : env.bank.Names env.parent.account) :
    (∃ e env', env.tryUpgrade id args q = (.error e, env') ∧ Resumes [] env env') ∨
      ∃ o env', env.tryUpgrade id args q = (.ok o, env') ∧
        env.bank.pay (some env.own) env.parent.account q = .ok env'.bank ∧ env'.demands = env.demands := by
  have hdemands : (env.record (.upgradeAsked id args.text)).demands = env.demands := by
    show (env.trace ++ [_]).filterMap _ = env.trace.filterMap _
    simp
  unfold tryUpgrade paying
  dsimp only
  cases hpay : env.bank.pay (some env.own) env.parent.account q with
  | error lack => exact .inl ⟨_, _, rfl, .refl env⟩
  | ok b =>
    dsimp only [askUpgrade, record]
    have hback : b.tryPay env.parent.account (some env.own) q = env.bank := Bank.tryPay_back hpay hpayee
    cases env.parent.upgrades.head?.getD (.ok .done) with
    | error e => exact .inl ⟨_, _, rfl, .of_bank rfl rfl rfl rfl rfl hback hdemands⟩
    | ok o => exact .inr ⟨_, _, rfl, rfl, hdemands⟩

theorem lacking?_eq_some {e : SessionError} {r : Resource} : lacking? e = some r ↔ e = .outOf r := by
  cases e <;> cases r <;> simp [lacking?, SessionError.outOf]

/-! ### Tries behind each other -/

/-- Tries that lacked the resources `rs` led from `env` to `env'`, each with a request for the resource behind it. -/
inductive Lacked (id : ClientId) (args : Args) (q : Quota) : List Resource → Env → Env → Prop
  | nil (env : Env) : Lacked id args q [] env env
  | cons {r : Resource} {rs : List Resource} {env after env' : Env} :
      env.tryUpgrade id args q = (.error (.outOf r), after) →
      Lacked id args q rs (after.requestResources (resourceText q r)) env' → Lacked id args q (r :: rs) env env'

/-- Tries that lacked a resource leave nothing behind but the resource requests. -/
theorem Lacked.resumes (h : Lacked id args q rs env env') (henv : env.Generous) :
    env.Resumes (rs.map (resourceText q)) env' := by
  induction h with
  | nil env => exact .refl env
  | @cons r rs env after env' htry _ ih =>
    have hundone : env.Resumes [] after := by
      rcases env.tryUpgrade_outcome id args q henv.payee with ⟨e, env₁, heq, hresumes⟩ | ⟨o, env₁, heq, -⟩
      · rw [heq] at htry
        obtain ⟨-, rfl⟩ : e = .outOf r ∧ env₁ = after := by simpa using htry
        exact hresumes
      · rw [heq] at htry
        cases htry
    have hasked := hundone.trans (resumes_requestResources after (resourceText q r))
    exact hasked.trans (ih (hasked.generous henv))

/-- A resource that was asked for is not asked for again. -/
theorem length_filter_lt {r : Resource} (hr : r ∈ may) : (may.filter (· != r)).length < may.length :=
  List.length_filter_lt_length_iff_exists.2 ⟨r, hr, by simp⟩

/-- Tries end behind ones that lacked resources, each of them once.  A failure at the end is for another reason than a
resource that could still be asked for. -/
theorem upgradeWith_ends (id : ClientId) (args : Args) (q : Quota) : ∀ (n : Nat) (may : List Resource) (env : Env),
    may.length ≤ n → ∃ rs last, Lacked id args q rs env last ∧ rs.Nodup ∧ (∀ r ∈ rs, r ∈ may) ∧
      last.tryUpgrade id args q = upgradeWith id args q n may env ∧
      ∀ r ∈ may, (upgradeWith id args q n may env).1 = .error (.outOf r) → r ∈ rs
  | 0, may, env, hmay => by
    obtain rfl : may = [] := List.eq_nil_of_length_eq_zero (Nat.le_zero.1 hmay)
    exact ⟨[], env, .nil env, List.nodup_nil, nofun, rfl, nofun⟩
  | n + 1, may, env, hmay => by
    -- the try ends the upgrade unless it lacks a resource that can be asked for
    have hlast : (∀ r ∈ may, (env.tryUpgrade id args q).1 ≠ .error (.outOf r)) →
        env.tryUpgrade id args q = upgradeWith id args q (n + 1) may env →
        ∃ rs last, Lacked id args q rs env last ∧ rs.Nodup ∧ (∀ r ∈ rs, r ∈ may) ∧
          last.tryUpgrade id args q = upgradeWith id args q (n + 1) may env ∧
          ∀ r ∈ may, (upgradeWith id args q (n + 1) may env).1 = .error (.outOf r) → r ∈ rs :=
      fun hends heq => ⟨[], env, .nil env, List.nodup_nil, nofun, heq, fun r hr he => absurd (heq ▸ he) (hends r hr)⟩
    cases htry : env.tryUpgrade id args q with
    | mk result after =>
    cases result with
    | ok o => exact hlast (by simp [htry]) (by simp [upgradeWith, htry])
    | error e =>
      cases hlack : lacking? e with
      | none =>
        refine hlast (fun r _ he => ?_) (by simp [upgradeWith, htry, hlack])
        rw [htry] at he
        rw [lacking?_eq_some.2 (Except.error.inj he)] at hlack
        cases hlack
      | some r =>
        obtain rfl := lacking?_eq_some.1 hlack
        by_cases hr : r ∈ may
        · have hnext : upgradeWith id args q (n + 1) may env = upgradeWith id args q n (may.filter (· != r))
              (after.requestResources (resourceText q r)) := by
            simp [upgradeWith, htry, hlack, hr]
          obtain ⟨rs, last, hlacked, hapart, hmem, hfinal, hend⟩ := upgradeWith_ends id args q n
            (may.filter (· != r)) (after.requestResources (resourceText q r))
            (Nat.le_of_lt_succ (Nat.lt_of_lt_of_le (length_filter_lt hr) hmay))
          rw [hnext]
          refine ⟨r :: rs, last, .cons htry hlacked, List.nodup_cons.2 ⟨fun hagain => ?_, hapart⟩, ?_, hfinal, ?_⟩
          · simpa using hmem r hagain
          · exact List.forall_mem_cons.2 ⟨hr, fun r' hr' => List.mem_of_mem_filter (hmem r' hr')⟩
          · intro r' hr' he
            by_cases hsame : r' = r
            · exact hsame ▸ List.mem_cons_self
            · exact List.mem_cons_of_mem _ (hend r' (by simp [hr', hsame]) he)
        · refine hlast (fun r' hr' he => hr ?_) (by simp [upgradeWith, htry, hlack, hr])
          rw [htry] at he
          obtain rfl : r = r' := by
            have hsame := lacking?_eq_some.2 (Except.error.inj he)
            exact Option.some.inj (hlack.symm.trans hsame)
          exact hr'

theorem upgradeWith_nil (n : Nat) (env : Env) : upgradeWith id args q n [] env = env.tryUpgrade id args q := by
  cases n with
  | zero => rfl
  | succ n =>
    unfold upgradeWith
    split
    · rename_i heq
      rw [heq]
    · rename_i heq
      rw [heq]
      split <;> simp

/-- Further tries than there are resources to ask for change nothing. -/
theorem upgradeWith_congr : ∀ (n m : Nat) (may : List Resource) (env : Env), may.length ≤ n → may.length ≤ m →
    upgradeWith id args q n may env = upgradeWith id args q m may env
  | 0, m, may, env, hn, _ => by
    obtain rfl : may = [] := List.eq_nil_of_length_eq_zero (Nat.le_zero.1 hn)
    rw [upgradeWith_nil, upgradeWith_nil]
  | n + 1, 0, may, env, _, hm => by
    obtain rfl : may = [] := List.eq_nil_of_length_eq_zero (Nat.le_zero.1 hm)
    rw [upgradeWith_nil, upgradeWith_nil]
  | n + 1, m + 1, may, env, hn, hm => by
    unfold upgradeWith
    split
    · rfl
    · split
      · rename_i r _
        split
        · rename_i hr
          have hfewer := length_filter_lt (List.contains_iff_mem.1 hr)
          exact upgradeWith_congr n m _ _ (by omega) (by omega)
        · rfl
      · rfl

/-! ### Upgrades -/

/-- An upgrade with the quota `q` tried in vain for want of the resources `rs`, asked for each of them, and then ended
with the try in `last`. -/
structure Expands (id : ClientId) (args : Args) (q : Quota) (rs : List Resource) (env last : Env)
    (result : Except SessionError UpgradeOutcome) (env' : Env) : Prop where
  lacked : Lacked id args q rs env last
  final : last.tryUpgrade id args q = (result, env')
  /-- Each resource is asked for once at most. -/
  apart : rs.Nodup
  tries : rs.length + 1 ≤ 3
  demands : env'.demands = env.demands ++ rs.map (resourceText q)
  /-- Nor would it end otherwise with further tries to come. -/
  settled : ∀ n, 2 ≤ n → upgradeWith id args q n [.ram, .caps] env = (result, env')
  /-- An upgrade that succeeds moves its quota to the parent, once. -/
  paid : ∀ o, result = .ok o → (env.bankAfter rs.length).pay (some env.own) env.parent.account q = .ok env'.bank ∧
    env.PaysParent q env' ∧ ∀ i, env.parent.account = some i → i ≠ env.own → ∀ r,
      (env'.bank.available r env.own).val + (q.get r).val = ((env.bankAfter rs.length).available r env.own).val
  /-- An upgrade that fails leaves nothing but the grants. -/
  unpaid : ∀ e, result = .error e → env'.bank = env.bankAfter rs.length ∧ env.PaysParent 0 env'
  /-- It does not report that a resource is lacking before it has asked for it. -/
  reported : ∀ r, result = .error (.outOf r) → r ∈ rs

/-- What an upgrade leads to. -/
structure UpgradesOnce (id : ClientId) (args : Args) (env : Env) (result : Except SessionError UpgradeOutcome)
    (env' : Env) : Prop where
  /-- An upgrade of the own session is one resource request, and moves nothing. -/
  own : id = ownSession → result = .ok .done ∧ env' = env.requestResources args.text ∧ env.Resumes [args.text] env' ∧
    env.PaysParent 0 env'
  /-- Arguments that name no quota are refused. -/
  denied : id ≠ ownSession → ∀ fault, args.quota = .error fault → result = .error .serviceDenied ∧ env' = env
  expands : id ≠ ownSession → ∀ q, args.quota = .ok q → ∃ rs last, Expands id args q rs env last result env'
  /-- Every wait for a grant ends. -/
  returns : ∀ own given, env.InStep own given → env.Through Returns env' ∧ env'.InStep own given

theorem expands_upgrade (henv : env.Generous) (hid : id ≠ ownSession) (hq : args.quota = .ok q) :
    ∃ rs last, Expands id args q rs env last (env.upgrade id args).1 (env.upgrade id args).2 := by
  have hupgrade : env.upgrade id args = upgradeWith id args q 2 [.ram, .caps] env := by
    unfold upgrade
    rw [if_neg hid, hq]
  obtain ⟨rs, last, hlacked, hapart, hmem, hfinal, hend⟩ :=
    upgradeWith_ends id args q 2 [.ram, .caps] env (Nat.le_refl _)
  rw [← hupgrade] at hfinal hend
  have hresumes := hlacked.resumes henv
  have hbank : last.bank = env.bankAfter rs.length := by
    rw [hresumes.bank, List.length_map]
  have hfew : rs.length ≤ 2 := (List.subperm_of_subset hapart fun r hr => hmem r hr).length_le
  have hall : ∀ r : Resource, r ∈ [Resource.ram, .caps] := fun r => by cases r <;> decide
  have hsettled : ∀ n, 2 ≤ n → upgradeWith id args q n [.ram, .caps] env = env.upgrade id args :=
    fun n hn => (upgradeWith_congr n 2 [.ram, .caps] env hn (Nat.le_refl 2)).trans hupgrade.symm
  refine ⟨rs, last, ?_⟩
  rcases last.tryUpgrade_outcome id args q (hresumes.generous henv).payee with ⟨e, env', htry, hundone⟩ |
    ⟨o, env', htry, hpay, hdemands⟩
  · have hwhole := hresumes.trans hundone
    rw [List.append_nil] at hwhole
    have hleft : env'.bank = env.bankAfter rs.length := by rw [hwhole.bank, List.length_map]
    obtain hresult : env.upgrade id args = (.error e, env') := hfinal.symm.trans htry
    rw [hresult] at hend hsettled ⊢
    exact
      { lacked := hlacked
        final := htry
        apart := hapart
        tries := Nat.succ_le_succ hfew
        demands := hwhole.demands
        settled := hsettled
        paid := nofun
        unpaid := fun _ _ => ⟨hleft, henv.paysParent_zero hleft⟩
        reported := fun r he => hend r (hall r) he }
  · have hpaid : (env.bankAfter rs.length).pay (some env.own) env.parent.account q = .ok env'.bank := by
      rw [← hbank, ← hresumes.own, ← hresumes.account]
      exact hpay
    obtain hresult : env.upgrade id args = (.ok o, env') := hfinal.symm.trans htry
    rw [hresult] at hsettled ⊢
    refine
      { lacked := hlacked
        final := htry
        apart := hapart
        tries := Nat.succ_le_succ hfew
        demands := hdemands.trans hresumes.demands
        settled := hsettled
        paid := fun _ _ => ⟨hpaid, henv.paysParent_of_pay hpaid, fun i hi hown r => ?_⟩
        unpaid := nofun
        reported := nofun }
    rw [hi] at hpaid
    have hbooks := Bank.available_pay (k := env.own) hpaid (.inr (by
      rw [(henv.untouched hi hown rs.length).length]; exact henv.payee i hi)) r
    rw [if_pos rfl, if_neg (Ne.symm hown), Nat.add_zero] at hbooks
    exact hbooks

/-- **Upgrades at the parent end, and are paid for once.**  That is so for every session and all arguments, and whatever
the parent answers and grants. -/
theorem upgrade_pays_once (henv : env.Generous) (id : ClientId) (args : Args) :
    UpgradesOnce id args env (env.upgrade id args).1 (env.upgrade id args).2 where
  own := by
    rintro rfl
    have hresumes := env.resumes_requestResources args.text
    exact ⟨rfl, rfl, hresumes, henv.paysParent_zero hresumes.bank⟩
  denied hid fault hfault := by
    unfold upgrade
    rw [if_neg hid, hfault]
    exact ⟨rfl, rfl⟩
  expands hid q hq := expands_upgrade henv hid hq
  returns own given h := h.through (env.through_upgrade id args)

/-- An upgrade that lacks both resources one after the other, and is paid for at the third try. -/
theorem upgrade_pays_once_thirdTry :
    let env : Env := {
      bank := ⟨[⟨"own", 0⟩, ⟨"parent", 0⟩, ⟨"reserve", ⟨⟨8192, by decide⟩, ⟨4, by decide⟩⟩⟩]⟩
      own := 0
      parent := { account := some 1, grants := [[⟨some 2, some 0, ⟨⟨2048, by decide⟩, 0⟩⟩],
        [⟨some 2, some 0, ⟨0, ⟨1, by decide⟩⟩⟩]] } }
    let args : Args := ⟨[("ram_quota", "2K"), ("cap_quota", "1")]⟩
    env.Generous ∧ (env.upgrade ⟨⟨2, by decide⟩⟩ args).1 = .ok .done ∧
      (env.upgrade ⟨⟨2, by decide⟩⟩ args).2.demands = ["ram_quota=2048", "cap_quota=1"] ∧
      UpgradesOnce ⟨⟨2, by decide⟩⟩ args env (env.upgrade ⟨⟨2, by decide⟩⟩ args).1
        (env.upgrade ⟨⟨2, by decide⟩⟩ args).2 := by
  intro env args
  have hgenerous : env.Generous := by
    refine ⟨fun i hi => ?_, fun ms hms m hm => ?_⟩
    · obtain rfl := Option.some.inj hi
      decide
    · have hpayer : ∀ i, env.parent.account = some i → some 2 ≠ some i := fun i hi => hi ▸ by decide
      rcases List.mem_pair.1 hms with rfl | rfl
      · obtain rfl := List.mem_singleton.1 hm
        exact ⟨rfl, hpayer⟩
      · obtain rfl := List.mem_singleton.1 hm
        exact ⟨rfl, hpayer⟩
  exact ⟨hgenerous, by decide +kernel, by decide +kernel, upgrade_pays_once hgenerous _ _⟩

end SessionBroker.Env
