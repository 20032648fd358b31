import DocSamples.Config.Basic
import DocSamples.Tool.Toolchain

/-!
Contract: the configuration of the toolchain that checks samples.
-/

namespace DocSamples.ToolchainConfig

def ofEntries? (entries : Toml.Entries) : Option ToolchainConfig := do
  let default : ToolchainConfig := {}
  return {
    compileOnly := ← setting? entries "compile-only" default.compileOnly
    compileAndRun := ← setting? entries "compile-and-run" default.compileAndRun
    inputArgument := ← setting? entries "stdin-arg" default.inputArgument }

def ofText (text : Text) : Except ConfigError ToolchainConfig :=
  match (Toml.read? text).bind ofEntries? with
  | none => .error .malformed
  | some config => .ok config

def load {World : Type} (files : Files World) (path : Text) (world : World) :
    Except ConfigError ToolchainConfig :=
  files.loadConfig ofText path world

end DocSamples.ToolchainConfig
