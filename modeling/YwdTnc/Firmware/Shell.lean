import YwdTnc.Firmware.Json
import YwdTnc.Interaction.History

/-!
# What the firmware tools ask of the host

Commands, files, the clock and the operator, as the queries of a program. A query
can have any answer of its type and can raise any exception. A path is its text; what
the tools print, and where the output of a command goes, is left out.
-/

namespace YwdTnc

open Interaction Prog

structure CompletedProcess where
  returncode : ℤ
  stdout : String
  stderr : String

/-- `readJson` is `json.loads(path.read_text(..))`. `mkstemp` is answered with the name
of the new file, which the host chooses. `confirmation` is the line that the operator
types, without one at the end of the input. -/
inductive HostQuery where
  | geteuid
  | which (name : String)
  | command (argv : List String)
  | pathExists (path : String)
  | isFile (path : String)
  | isDir (path : String)
  | stSize (path : String)
  | stMtime (path : String)
  | iterdir (path : String)
  | readBytes (path : String)
  | readJson (path : String)
  | jsonLoads (text : String)
  | mkdir (path : String) (existOk : Bool)
  | chmod (path : String) (mode : ℕ)
  | copy2 (source destination : String)
  | writeJson (path : String) (fields : List (String × Json))
  | unlink (path : String)
  | mkstemp
  | sleep (seconds : ℚ)
  | localtime
  | unixTime
  | confirmation

def HostQuery.Answer : HostQuery → Type
  | .geteuid | .stSize _ => ℕ
  | .which _ | .pathExists _ | .isFile _ | .isDir _ => Bool
  | .command _ => CompletedProcess
  | .stMtime _ => ℚ
  | .iterdir _ => List String
  | .readBytes _ => Bytes
  | .readJson _ | .jsonLoads _ => Json
  | .mkdir _ _ | .chmod _ _ | .copy2 _ _ | .writeJson _ _ | .unlink _ | .sleep _ => Unit
  | .mkstemp | .localtime => String
  | .unixTime => ℤ
  | .confirmation => Option String

abbrev HostCall := Call HostQuery.Answer FirmwareExc

/-- `active` of the bootloader in use, and the units that were stopped. -/
structure HostState where
  bootloaderActive : Bool
  stopped : List String

def HostState.init : HostState := ⟨false, []⟩

abbrev HostProg (α : Type) := Prog HostQuery.Answer FirmwareExc HostState α

/-- `if not ok: raise e`. -/
def raiseUnless (ok : Prop) [Decidable ok] (e : FirmwareExc) : HostProg Unit :=
  if ok then ret () else raise e

/-! The queries with the types of their answers. -/

namespace Host

def geteuid : HostProg ℕ := call HostQuery.geteuid

def which (name : String) : HostProg Bool := call (HostQuery.which name)

def pathExists (path : String) : HostProg Bool := call (HostQuery.pathExists path)

def isFile (path : String) : HostProg Bool := call (HostQuery.isFile path)

def isDir (path : String) : HostProg Bool := call (HostQuery.isDir path)

def stSize (path : String) : HostProg ℕ := call (HostQuery.stSize path)

def stMtime (path : String) : HostProg ℚ := call (HostQuery.stMtime path)

def iterdir (path : String) : HostProg (List String) := call (HostQuery.iterdir path)

def readBytes (path : String) : HostProg Bytes := call (HostQuery.readBytes path)

def readJson (path : String) : HostProg Json := call (HostQuery.readJson path)

def jsonLoads (text : String) : HostProg Json := call (HostQuery.jsonLoads text)

def mkdir (path : String) (existOk : Bool) : HostProg Unit :=
  call (HostQuery.mkdir path existOk)

def chmod (path : String) (mode : ℕ) : HostProg Unit := call (HostQuery.chmod path mode)

def copy2 (source destination : String) : HostProg Unit := call (HostQuery.copy2 source destination)

def writeJson (path : String) (fields : List (String × Json)) : HostProg Unit :=
  call (HostQuery.writeJson path fields)

def unlink (path : String) : HostProg Unit := call (HostQuery.unlink path)

def mkstemp : HostProg String := call HostQuery.mkstemp

def sleep (seconds : ℚ) : HostProg Unit := call (HostQuery.sleep seconds)

def localtime : HostProg String := call HostQuery.localtime

def unixTime : HostProg ℤ := call HostQuery.unixTime

def confirmation : HostProg (Option String) := call HostQuery.confirmation

end Host

open Host

/-- `subprocess.run(argv, check=False)`. -/
def runUnchecked (argv : List String) : HostProg CompletedProcess := call (HostQuery.command argv)

/-- `run(argv)` of the tools: a command that fails raises. -/
def run (argv : List String) : HostProg CompletedProcess := do
  let proc ← runUnchecked argv
  raiseUnless (proc.returncode = 0) ⟨.subprocessError, "Command '" ++
    " ".intercalate argv ++ "' returned non-zero exit status " ++
    toString proc.returncode ++ "."⟩
  return proc

/-- `sha256_file`. -/
def sha256File (python : Python) (path : String) : HostProg String := do
  let content ← readBytes path
  return python.hexdigest content

/-- The exceptions that the tools report with exit code 20. -/
def FirmwareExc.isReported (e : FirmwareExc) : Bool :=
  match e.cls with
  | .flashError | .firmwareProfileError | .osError | .subprocessError => true
  | _ => false

/-- `except (OSError, json.JSONDecodeError)`. -/
def FirmwareExc.isUnreadable (e : FirmwareExc) : Bool :=
  match e.cls with
  | .osError | .jsonDecodeError => true
  | _ => false

end YwdTnc
