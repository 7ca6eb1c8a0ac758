import RemoteConsole.Options
import RemoteConsole.Proofs.Json.Record

/-!
# Options of which some are missing

* `Backoff.Policy.without`, `HealthOptions.without`, `Options.without`: a record with the defaults
  for some of its fields.
* `Options.Partial`: what is left of written options when members were removed from them, at the
  top, inside the policy and inside the health options.
* `Options.partial_read`: they are read as the options with the defaults for what was removed.
-/

namespace RemoteConsole

open Json (Trims Spells)

/-! ## Policies -/

namespace Backoff.Policy

/-- The policy with the default options' values for the fields that are omitted. -/
def without (p : Policy) (omitted : String → Bool) : Policy where
  initialStep :=
    if omitted "initial_step" then Options.default.backoff.initialStep else p.initialStep
  maxStep := if omitted "max_step" then Options.default.backoff.maxStep else p.maxStep
  unitMs := if omitted "unit_ms" then Options.default.backoff.unitMs else p.unitMs
  maxRetries := if omitted "max_retries" then Options.default.backoff.maxRetries else p.maxRetries

/-- What a missing field is read as is what a missing policy has in its place. -/
theorem default_eq : Options.default.backoff =
    ⟨defaultInitialStep, defaultMaxStep, defaultUnitMs, defaultMaxRetries⟩ := rfl

theorem reads_trimmed (p : Policy) {omitted : String → Bool} {v : Json}
    (h : Trims omitted p.toJson v) : decoder.Reads v (p.without omitted) := by
  obtain ⟨members, ms, hmembers, rfl, hms⟩ := h
  injection hmembers with hmembers
  subst hmembers
  refine Json.Shape.Restores.reads ⟨rfl, fun h => ?_, by simp, ?_⟩ hms
  · simp only [List.forall_mem_cons] at h
    simp [without, h]
  · exact
      .cons ((Json.Decoder.word32_reads p.initialStep).restores
        (fun _ h => by simp [without, default_eq, h]) fun _ => by simp [without]) <|
      .cons ((Json.Decoder.word32_reads p.maxStep).restores
        (fun _ h => by simp [without, default_eq, h]) fun _ => by simp [without]) <|
      .cons ((Json.Decoder.word64_reads "u64" p.unitMs).restores
        (fun _ h => by simp [without, default_eq, h]) fun _ => by simp [without]) <|
      .cons ((Json.Decoder.word32_reads p.maxRetries).restores
        (fun _ h => by simp [without, default_eq, h]) fun _ => by simp [without]) .nil

end Backoff.Policy

/-! ## Health options -/

namespace HealthOptions

/-- The health options with the default options' values for the fields that are omitted. -/
def without (h : HealthOptions) (omitted : String → Bool) : HealthOptions where
  debounceMs := if omitted "debounce_ms" then Options.default.health.debounceMs else h.debounceMs
  arming := if omitted "arming" then Options.default.health.arming else h.arming

theorem default_eq : Options.default.health = ⟨defaultDebounceMs, .default⟩ := rfl

theorem arming_reads (a : Arming) :
    (Json.Decoder.variant Arming.names).Reads (.string a.name) a :=
  Json.Decoder.variant_reads (by cases a <;> rfl)

theorem reads_trimmed (h : HealthOptions) {omitted : String → Bool} {v : Json}
    (hv : Trims omitted h.toJson v) : decoder.Reads v (h.without omitted) := by
  obtain ⟨members, ms, hmembers, rfl, hms⟩ := hv
  injection hmembers with hmembers
  subst hmembers
  refine Json.Shape.Restores.reads ⟨rfl, fun h => ?_, by simp, ?_⟩ hms
  · simp only [List.forall_mem_cons] at h
    simp [without, h]
  · exact
      .cons ((Json.Decoder.word64_reads "u64" h.debounceMs).restores
        (fun _ h => by simp [without, default_eq, h]) fun _ => by simp [without]) <|
      .cons ((arming_reads h.arming).restores
        (fun _ h => by simp [without, default_eq, h]) fun _ => by simp [without]) .nil

end HealthOptions

/-! ## Options -/

namespace Options

/-- The options with the default options' values for the fields that are omitted. -/
def without (o : Options) (omitted : String → Bool) : Options where
  backoff := if omitted "backoff" then default.backoff else o.backoff
  health := if omitted "health" then default.health else o.health
  offload := if omitted "offload" then default.offload else o.offload
  workerCapacity :=
    if omitted "worker_channel_capacity" then default.workerCapacity else o.workerCapacity
  eventCapacity := if omitted "event_capacity" then default.eventCapacity else o.eventCapacity

/-- The names of the members that are left out of options, and out of the policy and the health
options in them. -/
structure Omission where
  options : String → Bool
  policy : String → Bool
  health : String → Bool

/-- The options with the default options' values for all that is omitted. -/
def lacking (o : Options) (s : Omission) : Options :=
  { o with
    backoff := o.backoff.without s.policy
    health := o.health.without s.health }.without s.options

/-- The value is what is left of the options in JSON: what is omitted is missing, the other members
are there in some order, and there may be others. -/
def Partial (o : Options) (s : Omission) (v : Json) : Prop :=
  ∃ policy health, Trims s.policy o.backoff.toJson policy ∧ Trims s.health o.health.toJson health ∧
    Trims s.options ((o.toJson.update "backoff" policy).update "health" health) v

theorem default_eq :
    default = ⟨.default, .default, .default, defaultWorkerCapacity, defaultEventCapacity⟩ := rfl

theorem offload_reads (m : OffloadMode) :
    (Json.Decoder.variant OffloadMode.names).Reads (.string m.name) m :=
  Json.Decoder.variant_reads (by cases m <;> rfl)

theorem update_toJson (o : Options) (policy health : Json) :
    (o.toJson.update "backoff" policy).update "health" health =
      .object [
        ("backoff", policy),
        ("health", health),
        ("offload", .string o.offload.name),
        ("worker_channel_capacity", .nat o.workerCapacity.toNat),
        ("event_capacity", .nat o.eventCapacity.toNat)] := by
  simp [toJson, Json.update]

theorem reads_trimmed {o : Options} {policy health v : Json} {p : Backoff.Policy}
    {h : HealthOptions} (hp : Backoff.Policy.decoder.Reads policy p)
    (hh : HealthOptions.decoder.Reads health h) {omitted : String → Bool}
    (hv : Trims omitted ((o.toJson.update "backoff" policy).update "health" health) v) :
    decoder.Reads v (({ o with backoff := p, health := h } : Options).without omitted) := by
  rw [update_toJson] at hv
  obtain ⟨members, ms, hmembers, rfl, hms⟩ := hv
  injection hmembers with hmembers
  subst hmembers
  refine Json.Shape.Restores.reads ⟨rfl, fun h => ?_, by simp, ?_⟩ hms
  · simp only [List.forall_mem_cons] at h
    simp [without, h]
  · exact
      .cons (hp.restores
        (fun _ h => by simp [without, default_eq, h]) fun _ => by simp [without]) <|
      .cons (hh.restores
        (fun _ h => by simp [without, default_eq, h]) fun _ => by simp [without]) <|
      .cons ((offload_reads o.offload).restores
        (fun _ h => by simp [without, default_eq, h]) fun _ => by simp [without]) <|
      .cons ((Json.Decoder.word64_reads "usize" o.workerCapacity).restores
        (fun _ h => by simp [without, default_eq, h]) fun _ => by simp [without]) <|
      .cons ((Json.Decoder.word64_reads "usize" o.eventCapacity).restores
        (fun _ h => by simp [without, default_eq, h]) fun _ => by simp [without]) .nil

theorem Partial.reads {o : Options} {s : Omission} {v : Json} (h : o.Partial s v) :
    decoder.Reads v (o.lacking s) := by
  obtain ⟨policy, health, hpolicy, hhealth, hv⟩ := h
  exact reads_trimmed (o.backoff.reads_trimmed hpolicy) (o.health.reads_trimmed hhealth) hv

/-- Nothing is omitted. -/
def Omission.none : Omission := ⟨fun _ => false, fun _ => false, fun _ => false⟩

/-- Whatever is omitted, something is left. -/
theorem exists_partial (o : Options) (s : Omission) : ∃ v, o.Partial s v := by
  have hpolicy : Trims s.policy o.backoff.toJson _ :=
    ⟨_, _, rfl, rfl, Json.trimmed_filter _ s.policy⟩
  have hhealth : Trims s.health o.health.toJson _ :=
    ⟨_, _, rfl, rfl, Json.trimmed_filter _ s.health⟩
  exact ⟨_, _, _, hpolicy, hhealth, _, _, update_toJson o _ _, rfl, Json.trimmed_filter _ s.options⟩

theorem partial_none (o : Options) : o.Partial .none o.toJson := by
  have hwhole (ms : List (String × Json)) : Trims (fun _ => false) (.object ms) (.object ms) :=
    ⟨ms, ms, rfl, rfl, by simpa using Json.trimmed_filter ms fun _ => false⟩
  refine ⟨o.backoff.toJson, o.health.toJson, hwhole _, hwhole _, ?_⟩
  rw [update_toJson]
  exact hwhole _

/-- Written options are read as they were. With some of their members removed, at the top or inside
the policy and the health options, they are read as they were but for the default options' values in
place of what was removed: whatever the order of the members is, whatever others are among them, and
however all is spelled in a text. -/
theorem partial_read (o : Options) :
    (decoder.ofJson o.toJson = .ok o ∧ decoder.parse o.toJson.compact = .ok o) ∧
    ∀ s, (∃ v, o.Partial s v) ∧
      ∀ v, o.Partial s v →
        decoder.ofJson v = .ok (o.lacking s) ∧ decoder.parse v.compact = .ok (o.lacking s) ∧
        ∀ text, Spells text v → decoder.parse text = .ok (o.lacking s) := by
  have hwhole : decoder.Reads o.toJson o := o.partial_none.reads
  refine ⟨⟨hwhole.ofJson, hwhole.parse (Json.spells_compact _)⟩, fun s => ?_⟩
  refine ⟨o.exists_partial s, fun v hv => ?_⟩
  have hleft : decoder.Reads v (o.lacking s) := hv.reads
  exact ⟨hleft.ofJson, hleft.parse (Json.spells_compact v), fun _ ht => hleft.parse ht⟩

/-- A policy with one field left and health options that are gone, among members of other names. -/
theorem partial_read_brief :
    let o : Options := ⟨⟨1, 2, 3, 4⟩, ⟨5000, .onEveryPoll⟩, .never, 7, 8⟩
    let s : Omission := ⟨fun name => name = "health" || name = "event_capacity",
      fun name => name ≠ "max_step", fun _ => false⟩
    let policy : Json := .object [("max_step", .nat 2), ("note", .string "a\"b")]
    let v : Json := .object [("offload", .string "never"), ("extra", .array [.null, policy]),
      ("worker_channel_capacity", .nat 7), ("backoff", policy)]
    o.Partial s v ∧
    decoder.ofJson v = .ok ⟨⟨8, 2, 1, 12⟩, ⟨1000, .onFailure⟩, .never, 7, 256⟩ ∧
    decoder.parse v.compact = .ok ⟨⟨8, 2, 1, 12⟩, ⟨1000, .onFailure⟩, .never, 7, 256⟩ := by
  intro o s policy v
  have hpolicy : Trims s.policy o.backoff.toJson policy :=
    ⟨_, _, rfl, rfl, .refl _⟩
  have hhealth : Trims s.health o.health.toJson o.health.toJson :=
    ⟨_, _, rfl, rfl, .refl _⟩
  have hv : o.Partial s v :=
    ⟨policy, o.health.toJson, hpolicy, hhealth, _, _, update_toJson _ _ _, rfl,
      @List.perm_append_comm _ [_, _] [_]⟩
  obtain ⟨-, hs⟩ := partial_read o
  obtain ⟨hvalue, htext, -⟩ := (hs s).2 v hv
  exact ⟨hv, hvalue, htext⟩

end Options

end RemoteConsole
