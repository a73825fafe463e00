import ReleasePage.Command.Task
import ReleasePage.Time.ZoneTable

/-!
# Running the program

The program as it is run: with the zones of the table, and where standard output takes
everything.
-/

namespace ReleasePage.Command

open ReleasePage.Files (Room Volume)
open ReleasePage.Settings (Environment)
open ReleasePage.Web (Client)

/-- Runs the program. -/
def run (client : Client) (volume : Volume) (environment : Environment)
    (arguments : List String) : Finish :=
  runInto Room.endless client volume environment arguments

end ReleasePage.Command
