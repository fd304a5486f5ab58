import FramePipeline.Config.Environment
import FramePipeline.Config.File
import FramePipeline.Config.Schema

/-!
# Loading the configuration

The configuration is the defaults, overridden by a file if one is named, overridden by the
environment: the layers are laid over each other key by key, and what results is converted.

Main definitions: `Config.ofLayers`, `Config.load`; `GlobalConfig`, the configuration in force.
-/

namespace FramePipeline

namespace Config

/-- How `Config::load` builds and converts its layers of given values, later ones over earlier ones. -/
def ofLayers (layers : List (Entries Value)) : Except LoadError Config := do
  let given ← (layers.foldlM Value.overlay (.table none [])).mapError .overload
  (Schema.config.convert given).mapError .fault

/-- Model of `Config::load`: the configuration from the file that `path` means, if it is given, and from the
variables of the environment. -/
def load (contents : String → Option ByteArray) (path : Option String)
    (vars : Entries String) : Except LoadError Config := do
  let file ← match path with
    | some p => ConfigFile.layer contents p
    | none => .ok []
  ofLayers [file, Environment.layer vars]

end Config

/-! ## The configuration in force -/

/-- Model of `CONFIG`: the configuration that all parts of the program see, the defaults at first, and a
snapshot of it that one of them keeps. -/
structure GlobalConfig where
  current : Config := {}
  kept : Config := {}
  deriving DecidableEq, Repr

namespace GlobalConfig

/-- Model of `config`: a snapshot of the configuration in force. -/
def config (g : GlobalConfig) : Config :=
  g.current

/-- `CONFIG.store`: puts another configuration in force. -/
def store (g : GlobalConfig) (c : Config) : GlobalConfig :=
  { g with current := c }

/-- Keeps a snapshot. -/
def keep (g : GlobalConfig) : GlobalConfig :=
  { g with kept := g.config }

@[simp] theorem config_store (g : GlobalConfig) (c : Config) : (g.store c).config = c := rfl

/-- What is kept does not change when another configuration is put in force. -/
@[simp] theorem kept_store (g : GlobalConfig) (c : Config) : (g.store c).kept = g.kept := rfl

end GlobalConfig

end FramePipeline
