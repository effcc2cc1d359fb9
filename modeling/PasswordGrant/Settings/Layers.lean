import PasswordGrant.Settings.Environment
import PasswordGrant.Settings.File

/-!
# Layers of settings

Settings come in layers: the built-in ones, those of a file, and those of the environment. A later
layer is laid over the earlier ones entry by entry, so each layer only names what it changes.

* `Settings.builtIn` : the built-in settings;
* `Settings.tree` : all layers together;
* `Settings.load` : the settings of a file and an environment.
-/

namespace PasswordGrant.Settings

/-- The built-in settings: where they are, and what they say. -/
def builtIn : List (String × RawScalar) :=
  [("server.base_url", .text "http://127.0.0.1:8182"),
   ("server.realm", .text "myapp"),
   ("server.client_type", .text "confidential"),
   ("server.client_id", .text "test-service-app-client"),
   ("server.client_secret", .text "fb6Z4RsOadVycQoeQiN57xpu8w8wplYz"),
   ("server.context_path", .text RealmClient.defaultContextPath),
   ("credentials.username", .text "admin"),
   ("credentials.password", .text "1s2d3f4g90xs"),
   ("credentials.scope", .text "profile"),
   ("timeout_secs", .integer 30),
   ("log_filter", .text "info"),
   ("wait_for_enter", .flag true)]

/-- The tree of the built-in settings. -/
def base : Raw :=
  Raw.emptyTable.overlay (builtIn.map fun e => (e.1, .scalar none e.2))

/-- All layers together: those of file and environment first make up one tree, which is then laid
over the built-in settings. -/
def tree (file environment : List (String × Raw)) : Raw :=
  base.overlay ((Raw.emptyTable.overlay file).overlay environment).entries

/-- A file of settings, and whether it must exist. -/
structure FileChoice where
  path : String
  required : Bool
  deriving DecidableEq, Repr

/-- The settings of a file, if one is named, and an environment. -/
def load (directory : Directory) (file : Option FileChoice) (env : Environment.Variables) :
    Except SettingsError Settings := do
  let entries ← match file with
    | none => .ok []
    | some f => SettingsFile.entries directory f.path f.required
  ofRaw (tree entries (Environment.entries env))

/-- The variable that names the file of settings. -/
def fileVariable : String := "FERRUM_CHECKER_CONFIG"

/-- The file of settings where none is named. -/
def defaultFile : String := "ferrum-checker.toml"

/-- The file that an environment asks for: the one it names, which must exist, or the usual one. -/
def fileOf (env : Environment.Variables) : FileChoice :=
  match Environment.get? env fileVariable with
  | some path => ⟨path, true⟩
  | none => ⟨defaultFile, false⟩

end PasswordGrant.Settings
