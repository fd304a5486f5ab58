import FramePipeline.Config.Schema
import FramePipeline.Proofs.Config.RecordSettings

/-!
# The leaves of the configuration

The configuration consists of sections, and these of settings, its leaves. A tree of given values converts
leaf by leaf: each leaf is converted from the value that stands at its place, or is as in the default
configuration if none stands there.

Main definitions: `Config.Section`, `Config.Leaf`, `Config.Leaf.all`, `Config.Leaf.converted`,
`Config.Leaf.find?` (the value at the place of a leaf), `Config.IsSectioned` (trees of which the sections
are tables). Main statement: `Config.IsSectioned.convert_cases`.
-/

namespace FramePipeline

namespace Config

/-! ## Sections -/

/-- A section of the configuration and its settings. -/
structure Section where
  σ : Type
  name : String
  record : Record σ
  settings : List (Setting σ)
  get : Config → σ
  set : σ → Config → Config
  get_set : ∀ a c, get (set a c) = a := by intro a c; rfl

namespace Section

/-- The section as a setting of the whole configuration. -/
def setting (p : Section) : Setting Config :=
  .mk p.name p.record.kind p.get p.set p.get_set

/-- The capture section. -/
def capture : Section where
  σ := CaptureConfig
  name := "capture"
  record := Schema.capture
  settings := [
    .mk "source" Schema.sourceKind (·.source) fun x s => { s with source := x },
    .mk "device" Kind.text (·.device) fun x s => { s with device := x },
    .mk "width" Kind.word32 (·.width) fun x s => { s with width := x },
    .mk "height" Kind.word32 (·.height) fun x s => { s with height := x },
    .mk "fps" Kind.word32 (·.fps) fun x s => { s with fps := x },
    .mk "format" Schema.pixelFormat (·.format) fun x s => { s with format := x },
    .mk "buffer_count" Kind.word32 (·.bufferCount) fun x s => { s with bufferCount := x },
    .mk "max_consecutive_errors" Kind.word32 (·.maxConsecutiveErrors)
      fun x s => { s with maxConsecutiveErrors := x }]
  get := (·.capture)
  set x c := { c with capture := x }

/-- The pipeline section. -/
def pipeline : Section where
  σ := PipelineConfig
  name := "pipeline"
  record := Schema.pipeline
  settings := [
    .mk "poll_interval_ms" Kind.word64 (·.pollIntervalMs) fun x s => { s with pollIntervalMs := x },
    .mk "freeze_output_ms" Kind.word64 (·.freezeOutputMs) fun x s => { s with freezeOutputMs := x },
    .mk "pin_render_core" (Kind.optional Kind.size) (·.pinRenderCore)
      fun x s => { s with pinRenderCore := x },
    .mk "latency_window" Kind.size (·.latencyWindow) fun x s => { s with latencyWindow := x }]
  get := (·.pipeline)
  set x c := { c with pipeline := x }

/-- The section of the modes of the transform. -/
def cartoon : Section where
  σ := CartoonModes
  name := "cartoon"
  record := Schema.cartoon
  settings := [
    .mk "sketch" Kind.switch (·.sketch) fun x s => { s with sketch := x },
    .mk "alien" Kind.switch (·.alien) fun x s => { s with alien := x },
    .mk "evil" Kind.switch (·.evil) fun x s => { s with evil := x },
    .mk "debug" Kind.switch (·.debug) fun x s => { s with debug := x }]
  get := (·.cartoon)
  set x c := { c with cartoon := x }

/-- The section of the whole run. -/
def run : Section where
  σ := RunConfig
  name := "run"
  record := Schema.run
  settings := [
    .mk "duration_secs" (Kind.optional Kind.word64) (·.durationSecs) fun x s => { s with durationSecs := x },
    .mk "snapshot_every_ms" (Kind.optional Kind.word64) (·.snapshotEveryMs)
      fun x s => { s with snapshotEveryMs := x },
    .mk "stats_interval_ms" Kind.word64 (·.statsIntervalMs) fun x s => { s with statsIntervalMs := x }]
  get := (·.run)
  set x c := { c with run := x }

/-- All sections. -/
def all : List Section :=
  [capture, pipeline, cartoon, run]

/-- The section lists the fields of its record, which starts from the default configuration. -/
structure Sound (p : Section) : Prop where
  lists : p.record.SettingsInv p.settings
  default_eq : p.record.default = p.get {}

theorem sound_of_mem {p : Section} (mem : p ∈ all) : p.Sound := by
  simp only [all, List.mem_cons, List.not_mem_nil, or_false] at mem
  obtain rfl | rfl | rfl | rfl := mem
  · exact ⟨⟨rfl, by simp [capture, Setting.apart_iff]⟩, rfl⟩
  · exact ⟨⟨rfl, by simp [pipeline, Setting.apart_iff]⟩, rfl⟩
  · exact ⟨⟨rfl, by simp [cartoon, Setting.apart_iff]⟩, rfl⟩
  · exact ⟨⟨rfl, by simp [run, Setting.apart_iff]⟩, rfl⟩

theorem settingsInv_all : Schema.config.SettingsInv (all.map setting) :=
  ⟨rfl, by simp [all, setting, capture, pipeline, cartoon, run, Setting.apart_iff]⟩

end Section

/-! ## Leaves -/

/-- A setting of a section. -/
structure Leaf where
  part : Section
  setting : Setting part.σ

namespace Leaf

/-- All leaves, in order. -/
def all : List Leaf :=
  Section.all.flatMap fun p => p.settings.map fun x => ⟨p, x⟩

theorem mem_all_iff {leaf : Leaf} :
    leaf ∈ all ↔ leaf.part ∈ Section.all ∧ leaf.setting ∈ leaf.part.settings := by
  constructor
  · intro mem
    obtain ⟨p, there, mem⟩ := List.mem_flatMap.mp mem
    obtain ⟨x, listed, rfl⟩ := List.mem_map.mp mem
    exact ⟨there, listed⟩
  · rintro ⟨there, mem⟩
    exact List.mem_flatMap.mpr ⟨leaf.part, there, List.mem_map.mpr ⟨leaf.setting, mem, rfl⟩⟩

/-- The leaf in a configuration. -/
def get (leaf : Leaf) (c : Config) : leaf.setting.α :=
  leaf.setting.get (leaf.part.get c)

/-- What the value that is given for a leaf, if there is one, converts to; without one the leaf is as in the
default configuration. -/
def converted (leaf : Leaf) : Option Value → Except Fault leaf.setting.α :=
  leaf.setting.converted (leaf.part.get {})

/-- The value at the place of a leaf. -/
def find? (leaf : Leaf) (root : Value) : Option Value :=
  (root.entries.lookup leaf.part.name).bind (·.entries.lookup leaf.setting.name)

end Leaf

end Config

/-! ## Trees of given values -/

/-- The value is a table in which each key stands once. -/
structure Value.IsKeyed (v : Value) : Prop where
  isTable : ∃ origin, v = .table origin v.entries
  once : (v.entries.map (·.1)).Nodup

namespace Config

/-- The tree is a table, and so is each section that is there. -/
structure IsSectioned (root : Value) : Prop where
  keyed : root.IsKeyed
  parts : ∀ p ∈ Section.all, ∀ v, root.entries.lookup p.name = some v → v.IsKeyed

variable {root v : Value} {p : Section}

/-- The settings of a section that is given. -/
theorem Section.convert_cases (mem : p ∈ Section.all) (keyed : v.IsKeyed) :
    (∃ s, p.record.convert v = .ok s ∧ ∀ x ∈ p.settings,
        x.converted (p.get {}) (v.entries.lookup x.name) = .ok (x.get s)) ∨
      ((∃ fault, p.record.convert v = .error fault) ∧ ∃ x ∈ p.settings, ∃ fault,
        x.converted (p.get {}) (v.entries.lookup x.name) = .error fault) := by
  obtain ⟨origin, eq⟩ := keyed.isTable
  have sound := Section.sound_of_mem mem
  have converts : p.record.convert v = p.record.convertEntries v.entries (p.get {}) := by
    rw [← sound.default_eq]
    exact congrArg p.record.convert eq
  rw [converts]
  exact sound.lists.convertEntries_cases keyed.once (p.get {})

/-- **Conversion of the configuration.** Either the values at the places of all leaves convert, and each
leaf of the configuration is what its value converts to, or as in the default configuration if there is none;
or the value of some leaf does not convert, and nor does the configuration. -/
theorem IsSectioned.convert_cases (h : IsSectioned root) :
    (∃ c, Schema.config.convert root = .ok c ∧
        ∀ leaf ∈ Leaf.all, leaf.converted (leaf.find? root) = .ok (leaf.get c)) ∨
      ((∃ fault, Schema.config.convert root = .error fault) ∧
        ∃ leaf ∈ Leaf.all, ∃ fault, leaf.converted (leaf.find? root) = .error fault) := by
  obtain ⟨origin, eq⟩ := h.keyed.isTable
  have converts : Schema.config.convert root = Schema.config.convertEntries root.entries {} :=
    congrArg Schema.config.convert eq
  rw [converts]
  obtain ⟨c, ok, all⟩ | ⟨failed, x, mem, fault, bad⟩ :=
    Section.settingsInv_all.convertEntries_cases h.keyed.once {}
  · refine .inl ⟨c, ok, fun leaf mem => ?_⟩
    obtain ⟨there, mem⟩ := Leaf.mem_all_iff.mp mem
    have given := all leaf.part.setting (List.mem_map_of_mem there)
    unfold Leaf.find?
    cases found : root.entries.lookup leaf.part.name with
    | none =>
      rw [show root.entries.lookup leaf.part.setting.name = none from found] at given
      have same : leaf.part.get {} = leaf.part.get c := Except.ok.inj given
      simp only [Option.bind_none, Leaf.converted, Setting.converted, Leaf.get, same]
    | some v =>
      rw [show root.entries.lookup leaf.part.setting.name = some v from found] at given
      obtain ⟨s, ok, all⟩ | ⟨⟨fault, failed⟩, -⟩ := Section.convert_cases there (h.parts _ there v found)
      · obtain rfl : s = leaf.part.get c := Except.ok.inj (ok.symm.trans given)
        exact all leaf.setting mem
      · cases failed.symm.trans given
  · obtain ⟨p, there, rfl⟩ := List.mem_map.mp mem
    cases found : root.entries.lookup p.name with
    | none =>
      rw [show root.entries.lookup p.setting.name = none from found] at bad
      cases bad
    | some v =>
      rw [show root.entries.lookup p.setting.name = some v from found] at bad
      obtain ⟨s, ok, -⟩ | ⟨-, x, mem, fault, bad⟩ := Section.convert_cases there (h.parts _ there v found)
      · cases ok.symm.trans bad
      · refine .inr ⟨failed, ⟨p, x⟩, Leaf.mem_all_iff.mpr ⟨there, mem⟩, fault, ?_⟩
        have value : Leaf.find? ⟨p, x⟩ root = v.entries.lookup x.name := by simp [Leaf.find?, found]
        rw [value]
        exact bad

end Config

end FramePipeline
