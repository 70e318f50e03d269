import SessionBroker.Proofs.Parts

/-!
# SessionBroker.Proofs.Histories — the states that a broker can reach

* `Broker.Reaches around allowed b c`: operations lead from `b` to `c`, and between them the surroundings may change.
* `Reaches.invariant`: what every change preserves holds in every state that is reached.
* `reaches_run`: a run of the broker is such a history.
* `requestedOnce`: a small history, in which a child has a request to answer.
-/

namespace SessionBroker.Broker

/-- The brokers that a history leads to.  The operations of the history are `allowed`, and between two of them the
surroundings may change as `around` says. -/
inductive Reaches (around : Env → Env → Prop) (allowed : Broker → Op → Prop) (b : Broker) : Broker → Prop
  | refl : Reaches around allowed b b
  | op {c : Broker} (op : Op) :
      Reaches around allowed b c → op.IsBuiltIn → allowed c op → Reaches around allowed b (c.step op).2
  | around {c : Broker} {env : Env} :
      Reaches around allowed b c → around c.env env → Reaches around allowed b { c with env := env }

variable {around : Env → Env → Prop} {allowed : Broker → Op → Prop} {new : ServerId → Prop} {b c : Broker}

/-- A run of the broker is a history in which the surroundings change only as it makes them. -/
theorem reaches_run : ∀ (ops : List Op) {c : Broker}, Reaches around allowed b c →
    (∀ op ∈ ops, op.IsBuiltIn ∧ ∀ c, allowed c op) → Reaches around allowed b (c.run ops)
  | [], _, h, _ => h
  | op :: ops, c, h, hops => by
    obtain ⟨hop, hallowed⟩ := hops op List.mem_cons_self
    exact reaches_run ops (.op op h hop (hallowed c)) fun op' h' => hops op' (List.mem_cons_of_mem _ h')

theorem Sound.with_env (hb : b.Sound) (env : Env) : Sound { b with env := env } :=
  ⟨hb.slots, hb.builtIn, hb.retries, hb.posted, hb.listed⟩

theorem sound_start (env : Env) (config : RuntimeConfig) : (start env config).Sound where
  slots _ _ h := by cases h
  builtIn := ⟨fun _ _ h => (by cases h), fun _ _ h => (by cases h)⟩
  retries _ _ _ h := by cases h
  posted p i id h := by cases p <;> cases h
  listed _ _ _ _ _ h := by cases h

/-- What changes preserve, changes one after the other preserve. -/
theorem Changes.invariant {I : Broker → Prop} (step : ∀ c c', c.Sound → I c → Change new c c' → I c')
    (h : Changes new b c) (hb : b.Sound) (hI : I b) : I c := by
  induction h with
  | refl => exact hI
  | tail hchanges hchange ih => exact step _ _ (Changes.sound hchanges hb) ih hchange

namespace Reaches

/-- What is sound stays sound, and what every change preserves holds in every state that is reached. -/
theorem invariant (new : ServerId → Prop) {I : Broker → Prop} (h : Reaches around allowed b c) (hb : b.Sound) (hI : I b)
    (hnew : ∀ c op id, allowed c op → op.Opens c id → new id)
    (step : ∀ c c', c.Sound → I c → Change new c c' → I c')
    (haround : ∀ c env, I c → around c.env env → I { c with env := env }) : c.Sound ∧ I c := by
  induction h with
  | refl => exact ⟨hb, hI⟩
  | op op _ hop hallowed ih =>
    obtain ⟨hc, hIc⟩ := ih
    have hchanges := (changes_step hc hop).mono fun id hid => hnew _ op id hallowed hid
    exact ⟨hchanges.sound hc, hchanges.invariant step hc hIc⟩
  | around _ hround ih => exact ⟨ih.1.with_env _, haround _ _ ih.2 hround⟩

theorem sound (h : Reaches around allowed b c) (hb : b.Sound) : c.Sound :=
  (h.invariant (fun _ => True) (I := fun _ => True) hb trivial (fun _ _ _ _ _ => trivial)
    (fun _ _ _ _ _ => trivial) fun _ _ _ _ => trivial).1

end Reaches

/-! ### A history in small -/

/-- A component with some quota, and a child without. -/
def sampleEnv : Env := { bank := ⟨[⟨"own", ⟨⟨64, by decide⟩, ⟨8, by decide⟩⟩⟩, ⟨"fs", 0⟩]⟩, own := 0 }

/-- All sessions are for the child. -/
def sampleConfig : RuntimeConfig := { rules := [{ target := .child "fs" }] }

/-- The child provides a service. -/
def provided : Broker := (start sampleEnv sampleConfig).run [.announce ⟨"fs", "log"⟩ 1]

/-- The parent has requested a session of the child's service, and the child has not answered. -/
def requestedOnce : Broker := (provided.create ⟨1⟩ "log" "ram_quota=5" {}).2

theorem reaches_provided : Reaches around (fun _ _ => True) (start sampleEnv sampleConfig) provided :=
  reaches_run _ .refl (by simp [Op.IsBuiltIn])

theorem reaches_requestedOnce : Reaches around (fun _ _ => True) (start sampleEnv sampleConfig) requestedOnce :=
  .op (.create ⟨1⟩ "log" "ram_quota=5" {}) reaches_provided trivial trivial

end SessionBroker.Broker
