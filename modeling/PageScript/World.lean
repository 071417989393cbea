/-
The programs that a script or a client finds when it is run: those that the disk holds.
-/
import PageScript.Browser.Page
import PageScript.Command.Start
import PageScript.WebDriver.Client

namespace PageScript

instance : Programs Page := ⟨fun _ disk program args dir => Command.start disk program args dir⟩

instance : World Page := {}

instance : Programs WebDriver.Client :=
  ⟨fun _ disk program args dir => Command.start disk program args dir⟩

/-- Server programs that the disk holds. None of them answers, and one that ends before its time is up is
seen to at the next check. -/
def WebDriver.Host.ofDisk : Host where
  start disk program argument timeoutMs :=
    match Command.start disk program [argument] ⟨"."⟩ (some timeoutMs) with
    | .error cause => .error cause
    | .ok none => .ok ({ checks := timeoutMs / 100 }, disk)
    | .ok (some (finished, disk)) =>
      let ended := finished.elapsedMs < timeoutMs
      let exit := if ended then some (finished.elapsedMs / 100, finished.status) else none
      .ok ({ checks := timeoutMs / 100, exit }, disk)

end PageScript
