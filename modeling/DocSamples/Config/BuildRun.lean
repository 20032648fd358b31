import DocSamples.Config.Basic
import DocSamples.Program.BuildRun

/-!
Contract: the configuration of building programs.
-/

namespace DocSamples.BuildRunConfig

def ofEntries? (entries : Toml.Entries) : Option BuildRunConfig := do
  let default : BuildRunConfig := {}
  return {
    neon := ← setting? entries "neon" default.neon
    buildScript := ← setting? entries "builder-script" default.buildScript }

def ofText (text : Text) : Except ConfigError BuildRunConfig :=
  match (Toml.read? text).bind ofEntries? with
  | none => .error .malformed
  | some config => .ok config

def load {World : Type} (files : Files World) (path : Text) (world : World) :
    Except ConfigError BuildRunConfig :=
  files.loadConfig ofText path world

end DocSamples.BuildRunConfig
