/-
# Responder.Host.Fault -- what can go wrong with files and programs

The refusals of an operating system, in its own words, and the ways a process
can end: its wait status is a word whose low seven bits tell an exit from the
signal that ended it.
-/
import Responder.Numeral.Power

namespace Responder.Host

set_option autoImplicit false

/-- Why a file cannot be read, or a program cannot be started, fed or waited for. -/
inductive Fault where
  | notFound
  | permissionDenied
  | notADirectory
  | isADirectory
  | notAProgram
  | nulByte
  | nulInFileName
  | notText
  /-- Nobody reads what is written. -/
  | brokenPipe
  | other (message : String)
  deriving DecidableEq

/-- A fault in words. -/
def Fault.message : Fault → String
  | .notFound => "No such file or directory (os error 2)"
  | .permissionDenied => "Permission denied (os error 13)"
  | .notADirectory => "Not a directory (os error 20)"
  | .isADirectory => "Is a directory (os error 21)"
  | .notAProgram => "Exec format error (os error 8)"
  | .nulByte => "nul byte found in provided data"
  | .nulInFileName => "file name contained an unexpected NUL byte"
  | .notText => "stream did not contain valid UTF-8"
  | .brokenPipe => "Broken pipe (os error 32)"
  | .other message => message

/-- A process's wait status, a word of 32 bits. -/
structure ExitStatus where
  word : Nat
  deriving DecidableEq

namespace ExitStatus

/-- The status of a process that exits with a code. -/
def ofCode (code : Nat) : ExitStatus := ⟨code % 256 * 256⟩

/-- Whether the process ended well. -/
def success (s : ExitStatus) : Bool := s.word == 0

/-- The names of the signals that have one. -/
def signalName? : Nat → Option String
  | 1 => some "SIGHUP"
  | 2 => some "SIGINT"
  | 3 => some "SIGQUIT"
  | 4 => some "SIGILL"
  | 5 => some "SIGTRAP"
  | 6 => some "SIGABRT"
  | 7 => some "SIGBUS"
  | 8 => some "SIGFPE"
  | 9 => some "SIGKILL"
  | 10 => some "SIGUSR1"
  | 11 => some "SIGSEGV"
  | 12 => some "SIGUSR2"
  | 13 => some "SIGPIPE"
  | 14 => some "SIGALRM"
  | 15 => some "SIGTERM"
  | 16 => some "SIGSTKFLT"
  | 17 => some "SIGCHLD"
  | 18 => some "SIGCONT"
  | 19 => some "SIGSTOP"
  | 20 => some "SIGTSTP"
  | 21 => some "SIGTTIN"
  | 22 => some "SIGTTOU"
  | 23 => some "SIGURG"
  | 24 => some "SIGXCPU"
  | 25 => some "SIGXFSZ"
  | 26 => some "SIGVTALRM"
  | 27 => some "SIGPROF"
  | 28 => some "SIGWINCH"
  | 29 => some "SIGIO"
  | 30 => some "SIGPWR"
  | 31 => some "SIGSYS"
  | _ => none

/-- A signal by number, with its name if it has one. -/
def signalText (signal : Nat) : String :=
  match signalName? signal with
  | some name => toString signal ++ " (" ++ name ++ ")"
  | none => toString signal

/-- A status in words; as a number it has a sign. -/
def message (s : ExitStatus) : String :=
  let low := s.word % 128
  let high := s.word / 256 % 256
  if low = 0 then "exit status: " ++ toString high
  else if low < 127 then
    "signal: " ++ signalText low ++ (if s.word / 128 % 2 = 1 then " (core dumped)" else "")
  else if s.word % 256 = 127 then "stopped (not terminated) by signal: " ++ signalText high
  else if s.word = 65535 then "continued (WIFCONTINUED)"
  else "unrecognised wait status: " ++ toString (Int.bmod s.word (2 ^ 32)) ++ " 0x" ++
    String.ofList (Nat.toDigits 16 s.word)

end ExitStatus

end Responder.Host
