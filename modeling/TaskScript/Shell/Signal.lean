/-
Signals that a script can be sent, by name and by number.
-/
import TaskScript.Number.Reading

namespace TaskScript.Shell

/-- Signals by name and number. -/
def signals : List (String × Nat) :=
  [("EXIT", 0), ("HUP", 1), ("INT", 2), ("QUIT", 3), ("ILL", 4), ("TRAP", 5), ("ABRT", 6),
    ("BUS", 7), ("FPE", 8), ("KILL", 9), ("USR1", 10), ("SEGV", 11), ("USR2", 12), ("PIPE", 13),
    ("ALRM", 14), ("TERM", 15), ("STKFLT", 16), ("CHLD", 17), ("CONT", 18), ("STOP", 19),
    ("TSTP", 20), ("TTIN", 21), ("TTOU", 22), ("URG", 23), ("XCPU", 24), ("XFSZ", 25),
    ("VTALRM", 26), ("PROF", 27), ("WINCH", 28), ("IO", 29), ("PWR", 30), ("SYS", 31)]

/-- Signals that do nothing unless they are asked for. -/
def quietSignals : List String := ["EXIT", "CHLD", "CONT", "URG", "WINCH"]

/-- The signal that a name or a number stands for. -/
def signalName? (word : String) : Option String :=
  match decimal? word with
  | some number => (signals.find? (·.2 = number)).map (·.1)
  | none =>
      let upper := word.toUpper
      if (signals.lookup upper).isSome then some upper else none

example : signalName? "15" = some "TERM" := by decide +kernel

end TaskScript.Shell
