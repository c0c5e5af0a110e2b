/-!
Signals: their numbers, their names, and what they do to a process that has not asked for them.
-/

namespace ImageForge.Execution

/-- The names of the signals with a name, from number 1 on, without their common beginning. -/
def signalNames : List String :=
  ["HUP", "INT", "QUIT", "ILL", "TRAP", "ABRT", "BUS", "FPE", "KILL", "USR1", "SEGV", "USR2", "PIPE",
    "ALRM", "TERM", "STKFLT", "CHLD", "CONT", "STOP", "TSTP", "TTIN", "TTOU", "URG", "XCPU", "XFSZ",
    "VTALRM", "PROF", "WINCH", "IO", "PWR", "SYS"]

/-- The largest number of a signal. -/
def lastSignal : Nat := 64

/-- The name of a signal. -/
def signalName? (n : Nat) : Option String :=
  if n = 0 then none else (signalNames[n - 1]?).map ("SIG" ++ ·)

/-- How a process that ends by a signal is reported to people, from signal 1 on. -/
def signalReports : List String :=
  ["Hangup", "Interrupt", "Quit", "Illegal instruction", "Trace/breakpoint trap", "Aborted",
    "Bus error", "Floating point exception", "Killed", "User defined signal 1", "Segmentation fault",
    "User defined signal 2", "Broken pipe", "Alarm clock", "Terminated", "Stack fault", "Child exited",
    "Continued", "Stopped (signal)", "Stopped", "Stopped (tty input)", "Stopped (tty output)",
    "Urgent I/O condition", "CPU time limit exceeded", "File size limit exceeded",
    "Virtual timer expired", "Profiling timer expired", "Window changed", "I/O possible",
    "Power failure", "Bad system call"]

/-- The report on the end by a signal. -/
def signalReport (n : Nat) : String :=
  match signalReports[n - 1]? with
  | some report => report
  | none => "Real-time signal " ++ toString (n - 34)

/-- Signals that pass without any effect unless a process asks for them. -/
def harmlessSignals : List Nat := [17, 18, 23, 28]

/-- Signals that stop a process rather than end it. -/
def stoppingSignals : List Nat := [19, 20, 21, 22]

end ImageForge.Execution
