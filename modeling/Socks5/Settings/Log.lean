import Socks5.Settings.Dialer

/-!
# Settings of the log

What is written to the log, where, and in which form. As with a dialer, the environment prevails
over the section of a settings file.
-/

namespace Socks5

/-- The settings of the log. -/
structure LogSettings where
  level : Value := .text "INFO"
  folder : Value := .text "logs"
  file : Value := .text "socks-dialer.log"
  maxBytes : Int := 10485760
  backupCount : Int := 5
  /-- When a log file is put aside: by its size or by the date. -/
  rotation : Value := .text "size"
  format : Value :=
    .text "%(asctime)s - %(name)s - %(levelname)s - [%(context)s] - %(message)s"
  toConsole : Bool := true
  toFile : Bool := false
  fields : Value := .list [.text "proxy", .text "network", .text "target"]

namespace LogSettings

/-- Whether a value spells out that something is true. -/
def isYes (v : Value) : Bool := v.plain.map (CodePoint.map Text.lowerChar) = "true"

/-- The names of the context, where nothing stands for the usual ones. -/
def fieldsOr (v : Value) : Value := if v matches .null then ({} : LogSettings).fields else v

/-- The settings in a section, after what the environment says. -/
def ofValue (env : Environment) (v : Value) : Except Fault LogSettings := do
  let entries ← v.sectionEntries
  let std : LogSettings := {}
  let get (name : String) (key : Text) (value : Value) : Value :=
    env.valueOr name (Value.entryOr entries key value)
  let maxBytes ← (get "LOG_MAX_BYTES" "max_bytes" (.int std.maxBytes)).toInteger
  let backupCount ← (get "LOG_BACKUP_COUNT" "backup_count" (.int std.backupCount)).toInteger
  return {
    level := get "LOG_LEVEL" "level" std.level
    folder := get "LOG_DIR" "log_dir" std.folder
    file := get "LOG_FILE" "log_file" std.file
    maxBytes, backupCount
    rotation := get "LOG_ROTATION_TYPE" "rotation_type" std.rotation
    format := get "LOG_FORMAT" "format_string" std.format
    toConsole := isYes (get "LOG_ENABLE_CONSOLE" "enable_console" (.bool std.toConsole))
    toFile := isYes (get "LOG_ENABLE_FILE" "enable_file" (.bool std.toFile))
    fields := fieldsOr (Value.entryOr entries "context_fields" std.fields) }

end LogSettings

end Socks5
