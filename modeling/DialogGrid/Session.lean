import DialogGrid.Programs
import DialogGrid.Session.Basic
import DialogGrid.SettingsFile

/-!
# Sessions

A run of the command line with the programs that may be started and with settings in TOML.
-/

namespace DialogGrid.Session

/-- The host that sessions run on. -/
def host : Host where
  start := Program.start
  settings? := SettingsFile.read?

/-- Runs the command line. -/
def run (fs : Files) (settingsFolder? : Option Text) (args : Arguments) : Outcome := host.run fs settingsFolder? args

end DialogGrid.Session
