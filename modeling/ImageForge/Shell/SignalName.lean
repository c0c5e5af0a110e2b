import ImageForge.Execution.Signal
/-!
Signals as scripts name them: by a number, or by a name in any case.
-/

namespace ImageForge.Shell

/-- The first and the last of the signals that are named by their distance from an end. -/
def firstRealTime : Nat := 34

def lastRealTime : Nat := Execution.lastSignal

/-- The name that scripts have for a number from 0 on, where 0 is the end of the script. -/
def signalText (n : Nat) : String :=
  if n = 0 then "EXIT"
  else if n = 16 then "16"
  else match Execution.signalNames[n - 1]? with
    | some name => name
    | none =>
      if n < firstRealTime then toString n
      else if n = firstRealTime then "RTMIN"
      else if n = lastRealTime then "RTMAX"
      else if n ≤ 49 then "RTMIN+" ++ toString (n - firstRealTime)
      else "RTMAX-" ++ toString (lastRealTime - n)

/-- The number of a signal from `least` on that a text names. -/
def signalOf? (least : Nat) (text : String) : Option Nat :=
  let cs := text.toList
  if !cs.isEmpty && cs.all Char.isDigit then
    text.toNat?.filter fun n => least ≤ n && n ≤ lastRealTime
  else
    let upper := text.map Char.toUpper
    (List.range (lastRealTime + 1)).find? fun n => least ≤ n && signalText n == upper

end ImageForge.Shell
