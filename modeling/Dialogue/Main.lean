/-
The program: the shell at a terminal.

Lines come from the standard input, settings from a file and the environment, answers
over the network.  Everything that comes in is handed to the shell; what it does with it
is decided there.  Servers are asked without encryption.
-/
import Dialogue.Http.Intake
import Dialogue.Shell.Settle
import Std.Async.DNS
import Std.Async.TCP
import Std.Async.Timer

namespace Dialogue.Terminal

open Std.Async

/-! ### Files and variables -/

/-- An error of the system as a refusal; the code tells apart what its kind does not. -/
def refusal : IO.Error → DiskRefusal
  | .noFileOrDirectory .. => .missing
  | .resourceBusy .. => .busy
  | .alreadyExists .. => .exists
  | .inappropriateType _ 20 _ => .notDirectory
  | .inappropriateType .. => .isDirectory
  | .invalidArgument _ 36 _ => .nameTooLong
  | .invalidArgument _ _ "string contains NUL bytes" => .zeroInName
  | .permissionDenied _ code text | .resourceExhausted _ code text =>
    .other (text ++ " (os error " ++ toString code ++ ")")
  | e => .other (toString e)

/-- Does something to the disk, and tells an error as a refusal. -/
def attempt (a : IO Unit) : IO (Except DiskRefusal Unit) := do
  try
    a
    return .ok ()
  catch e => return .error (refusal e)

/-- Makes a directory unless it is there.  Only a directory can be entered by a dot. -/
def ensureDir (p : String) : IO (Except DiskRefusal Unit) := do
  match ← attempt (IO.FS.createDir p) with
  | .ok () => return .ok ()
  | .error e =>
    try
      discard (IO.FS.realPath (p ++ "/."))
      return .ok ()
    catch _ => return .error e

/-- The disk of the system. -/
def disk : Disk IO where
  look p := do
    try
      return .content (← IO.FS.readBinFile p).toList
    catch
      | .noFileOrDirectory .. | .inappropriateType .. | .invalidArgument .. => return .nothing
      | _ => return .unreadable
  createDirs p := ensureDirs ensureDir p
  write p content := attempt (IO.FS.writeBinFile p ⟨content.toArray⟩)
  rename p q := attempt (IO.FS.rename p q)

/-- The variables of the environment. -/
def environment : IO (List (String × String)) := do
  match ← disk.look "/proc/self/environ" with
  | .content bytes =>
    let entries := (Text.Utf8.lossy bytes).splitOn "\x00"
    return entries.filterMap fun entry =>
      match entry.toList.span (· ≠ '=') with
      | (name, _ :: value) => some (String.ofList name, String.ofList value)
      | _ => none
  | _ => return []

/-! ### Connections -/

/-- The place of the server that an address names. -/
def placeOf (u : Http.Url) : Async Std.Net.SocketAddress := do
  let host := u.host.getD ""
  let port := UInt16.ofNat ((u.port.or (Http.Url.ownPort? u.scheme)).getD 0)
  let inner := String.ofList (host.toList.filter fun c => c ≠ '[' && c ≠ ']')
  let place ← match Std.Net.IPv4Addr.ofString host, Std.Net.IPv6Addr.ofString inner with
    | some a, _ => pure (Std.Net.IPAddr.v4 a)
    | none, some a => pure (Std.Net.IPAddr.v6 a)
    | none, none => do
      match (← DNS.getAddrInfo host (toString port))[0]? with
      | some a => pure a
      | none => throw (IO.userError "unknown host")
  match place with
  | .v4 addr => return .v4 { addr, port }
  | .v6 addr => return .v6 { addr, port }

/-- Opens a connection and sends a request. -/
def connect (r : Http.Request) : Async TCP.Socket.Client := do
  if r.url.scheme ≠ "http" then throw (IO.userError "encryption is not available")
  let place ← placeOf r.url
  let client ← TCP.Socket.Client.mk
  client.connect place
  client.send r.text.toUTF8
  return client

/-- Waits for something, but not longer than some milliseconds. -/
def within {α : Type} (limit : Option Nat) (a : Async α) : Async α :=
  match limit with
  | none => a
  | some ms => do
    let late : Async (Option α) := do
      sleep (.ofNat ms)
      return none
    match ← Async.race (some <$> a) late with
    | some x => return x
    | none => throw (IO.userError "timed out")

/-- The time that is left of the whole, or the time for one piece if that is shorter. -/
def patience (t : Http.Timeouts) (start now : Nat) : Option Nat :=
  let left := t.request.map fun ms => ms - (now - start)
  match left, t.read with
  | some a, some b => some (min a b)
  | some a, none => some a
  | none, limit => limit

/-- The bytes that come next, none if the connection was closed. -/
def receive (t : Http.Timeouts) (start : Nat) (c : TCP.Socket.Client) :
    Async (Option ByteArray) := do
  within (patience t start (← IO.monoMsNow)) (c.recv? 65536)

/-- Reads an answer to its end. -/
partial def readAnswer (t : Http.Timeouts) (start : Nat) (c : TCP.Socket.Client)
    (r : Http.AnswerReader) (answer : Option Http.Answer) : Async Http.Conduct := do
  let finished (ending : Http.Ending) : Http.Conduct :=
    match answer with
    | none => .refuses
    | some a => .answers { a with pieces := a.pieces.reverse, ending }
  if r.isOver then return finished r.ending
  let data ← try receive t start c catch _ => return finished .broken
  match data with
  | none => return finished r.ending
  | some bytes =>
    let (piece, r) := r.push bytes.toList
    let answer := if r.isInBody then answer.or (some ⟨r.status, [], .complete⟩) else answer
    readAnswer t start c r (answer.map fun a => { a with pieces := piece :: a.pieces })

/-- Sends a request and waits for all of the answer. -/
def exchange (t : Http.Timeouts) (r : Http.Request) : IO Http.Conduct := do
  let start ← IO.monoMsNow
  try
    Async.block do
      let client ← within t.request (connect r)
      readAnswer t start client {} none
  catch _ => return .refuses

/-! ### The world of the shell -/

/-- A request that is to be sent. -/
structure Asked where
  transfer : Http.Transfer
  timeouts : Http.Timeouts

/-- What is asked is noted, and sent once the shell has come to rest. -/
def world (asked : IO.Ref (Option Asked)) : World IO where
  disk := disk
  ask service q := do
    match service.request 1 q with
    | .error f => return Http.failing f
    | .ok request =>
      asked.set (some ⟨{ request, framing := service.config.framing }, service.config.timeouts⟩)
      return Http.stalled
  fetch archive chatId := do
    return (← archive.fetch (exchange { request := archive.requestTimeout }) 0 chatId).2

/-! ### What comes in -/

/-- What the program waits for: a typed line, or something of the answer under way. -/
inductive Arrival where
  | line (bytes : Except IO.Error ByteArray)
  | connection (c : Except IO.Error TCP.Socket.Client)
  | data (bytes : Except IO.Error (Option ByteArray))

/-- Reads a line with its end; nothing is left at the end of the input. -/
partial def readLine (input : IO.FS.Stream) (line : ByteArray) : IO ByteArray := do
  let byte ← input.read 1
  if byte.isEmpty then return line
  let line := line ++ byte
  if byte[0]! = 10 then return line
  readLine input line

/-- Begins to read the next line of the input. -/
def nextLine : IO (Task Arrival) := do
  let input ← IO.getStdin
  return (← IO.asTask (readLine input .empty) .dedicated).map .line

/-- A line without its end. -/
def withoutEnd (line : List UInt8) : List UInt8 :=
  match line.reverse with
  | 10 :: 13 :: rest => rest.reverse
  | 10 :: rest => rest.reverse
  | _ => line

/-- An answer that is on its way. -/
structure Running where
  number : Nat
  asked : Asked
  start : Nat
  client : Option TCP.Socket.Client := none
  next : Task Arrival

/-- The shell, the line being typed, and the answer under way. -/
structure Desk where
  shell : Shell
  typing : Task Arrival
  running : Option Running := none

/-- Prints on both outputs at once, and nothing where there is nothing to print. -/
def say (p : Printed) : IO Unit := do
  if p.out ≠ "" then
    let out ← IO.getStdout
    out.putStr p.out
    out.flush
  if p.err ≠ "" then
    let err ← IO.getStderr
    err.putStr p.err
    err.flush

/-- Lets the shell come to rest, and sends what it asks. -/
def settle (asked : IO.Ref (Option Asked)) (d : Desk) : IO Desk := do
  let (shell, printed) ← d.shell.settle (world asked)
  say printed
  let running := d.running.filter fun r =>
    (shell.session.request? r.number).any (·.isDriven)
  match ← asked.modifyGet fun a => (a, none) with
  | none => return { d with shell, running }
  | some a =>
    let connecting ← (within a.timeouts.request (connect a.transfer.request)).toIO
    let number := shell.session.requests.length
    let start ← IO.monoMsNow
    return { d with
      shell
      running := some { number, asked := a, start, next := Task.map .connection connecting } }

/-- Waits for the next bytes of an answer. -/
def Running.await (r : Running) (c : TCP.Socket.Client) : IO Running := do
  let receiving ← (receive r.asked.timeouts r.start c).toIO
  return { r with client := some c, next := Task.map .data receiving }

/-- Hands events to the session, and the end of the stream if there is nothing more. -/
def deliver (d : Desk) (r : Running) (events : List Event) (isOver : Bool) : Desk :=
  let session := events.foldl (fun s e => (s.emit r.number e).2) d.shell.session
  let session := if isOver then (session.closeStream r.number).2 else session
  { d with
    shell := { d.shell with session }
    running := if isOver then none else some r }

/-- Does what an arrival asks for.  An input that ends or fails ends the shell. -/
def serve (asked : IO.Ref (Option Asked)) (d : Desk) : Arrival → IO Desk
  | .line (.error _) => return { d with shell := d.shell.close }
  | .line (.ok bytes) => do
    if bytes.isEmpty then return { d with shell := d.shell.close }
    let (shell, printed) ← d.shell.serveBytes (world asked) (withoutEnd bytes.toList)
    say printed
    let typing ← if shell.isOver then pure d.typing else nextLine
    return { d with shell, typing }
  | .connection c => do
    match d.running, c with
    | none, _ => return d
    | some r, .ok c => return { d with running := some (← r.await c) }
    | some r, .error _ => return deliver d r (r.asked.transfer.finish true) true
  | .data bytes => do
    match d.running with
    | none => return d
    | some r =>
      match bytes, r.client with
      | .ok (some bytes), some c =>
        let (events, transfer) := r.asked.transfer.receive bytes.toList
        let r := { r with asked := { r.asked with transfer } }
        if transfer.isOver then
          return deliver d r (events ++ transfer.finish false) true
        else return deliver d (← r.await c) events false
      | .ok _, _ => return deliver d r (r.asked.transfer.finish false) true
      | .error _, _ => return deliver d r (r.asked.transfer.finish true) true

/-- Goes on until the shell is over. -/
partial def loop (asked : IO.Ref (Option Asked)) (d : Desk) : IO Unit := do
  let d ← settle asked d
  if d.shell.isOver then return
  let arrival ← match d.running with
    | some r => IO.waitAny [d.typing, r.next]
    | none => IO.wait d.typing
  loop asked (← serve asked d arrival)

end Dialogue.Terminal

open Dialogue in
/-- Loads the settings and runs the shell with them; without services there is nothing to
run. -/
def main : IO UInt32 := do
  let path := Settings.defaultPath (← IO.getEnv "HOME") (← IO.getEnv "XDG_CONFIG_HOME")
  let kept ← KeptSettings.load Terminal.disk path (← Terminal.environment)
  match Shell.start kept with
  | .error _ => return 1
  | .ok shell =>
    let asked ← IO.mkRef none
    Terminal.loop asked { shell, typing := ← Terminal.nextLine }
    return 0
