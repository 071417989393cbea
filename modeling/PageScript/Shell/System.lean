/-
The disk of a system in which nothing has happened yet.
-/
import PageScript.Shell.Program.Table

namespace PageScript

def Shell.programDir : Tree :=
  .ofEntries ((Shell.Program.names.map fun name => (name, Tree.program name)).mergeSort
    fun a b => decide (a.1 ≤ b.1))

/-- The devices as a directory; the streams of a program are elsewhere. -/
def Shell.deviceDir : Tree :=
  .ofEntries [
    ("fd", .link "/proc/self/fd"),
    ("full", .device .full),
    ("null", .device .null),
    ("random", .device .random),
    ("stderr", .link "/proc/self/fd/2"),
    ("stdin", .link "/proc/self/fd/0"),
    ("stdout", .link "/proc/self/fd/1"),
    ("tty", .device .terminal),
    ("urandom", .device .urandom),
    ("zero", .device .zero)]

def Shell.streamDir : Tree :=
  .ofEntries ((List.range 10).map fun n => (Number.natText n, .device (.stream n)))

def Disk.system : Disk where
  root := .ofEntries [
    ("bin", Shell.programDir),
    ("dev", Shell.deviceDir),
    ("proc", .ofEntries [("self", .ofEntries [("fd", Shell.streamDir)])]),
    ("root", .ofEntries []),
    ("tmp", .ofEntries []),
    ("usr", .ofEntries [("bin", Shell.programDir)]),
    ("work", .ofEntries [])]
  here := ["work"]

end PageScript
