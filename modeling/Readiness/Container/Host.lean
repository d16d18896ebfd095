import Readiness.Container.Frame
import Readiness.Log.Error

/-!
# Hosts

A host runs containers and gives access to their output in two ways: `attach` follows it as a
stream, `currentLog` fetches what was written so far as text. There are five kinds.

* `replay` yields the same chunks on every attach and then ends.
* `live` yields what is pushed to it, until it is finished; its stream is handed out once.
* `failing` refuses both.
* `staged` follows a plan: what an attach does, and how many fetches fail before there is a log.
* `daemon` answers log requests with frames, or refuses them.

A replayed or live log is fetched chunk by chunk, each read as text on its own; a daemon's log is
gathered first and read as a whole.
-/

namespace Readiness

/-- What a stream yields: a chunk, or a failure, behind which its reader goes no further. -/
abbrev Item := Except LogError Chunk

/-- A log that grows while it is watched. -/
structure LiveLog where
  /-- All that was ever pushed. -/
  recorded : List Chunk := []
  /-- What was pushed and not yet taken from the stream. -/
  waiting : List Chunk := []
  finished : Bool := false
  attached : Bool := false
  deriving DecidableEq, Repr

/-- What an attach to a staged host does. -/
inductive Attachment
  /-- It never comes back. -/
  | hangs
  | fails (reason : String)
  /-- It yields items, where a text stands for a failure, and then ends or stays open. -/
  | yields (items : List (Except String Chunk)) (staysOpen : Bool)
  deriving Repr

inductive Host
  | replay (chunks : List Chunk)
  | live (log : LiveLog)
  | failing (reason : String)
  | staged (attachment : Attachment) (fetchFailures : Nat) (log : String)
  | daemon (frames : List Frame) (refusal : Option Obstacle)

/-- An attached stream. A live one draws on its host. -/
inductive Tail
  | given (items : List Item) (staysOpen : Bool)
  | live (selection : Selection)

/-- What becomes of an attach. -/
inductive Attached
  | stream (tail : Tail) (host : Host)
  | failed (error : LogError)
  | pending

/-- What a stream has to give at the moment. -/
inductive Next
  | item (item : Item)
  | ended
  | waiting

namespace Host

/-- A live log to which chunks were pushed at once. -/
def liveWith (chunks : List Chunk) : Host := .live { recorded := chunks, waiting := chunks }

/-- The chunks of the wanted channels. -/
def selected (sel : Selection) (cs : List Chunk) : List Chunk := cs.filter (sel.wants ·.channel)

/-- Follows the output of a container. -/
def attach (h : Host) (container : String) (sel : Selection) : Attached :=
  match h with
  | replay chunks => .stream (.given ((selected sel chunks).map .ok) false) h
  | live log =>
    if log.attached then .failed (.attach container .alreadyAttached)
    else .stream (.live sel) (.live { log with attached := true })
  | failing reason => .failed (.attach container (.stated reason))
  | staged .hangs _ _ => .pending
  | staged (.fails reason) _ _ => .failed (.attach container (.stated reason))
  | staged (.yields items staysOpen) _ _ =>
    .stream (.given (items.map fun
      | .ok c => .ok c
      | .error reason => .error (.attach container (.stated reason))) staysOpen) h
  | daemon frames none => .stream (.given ((frames.filterMap Frame.chunk?).map .ok) false) h
  | daemon _ (some refusal) => .stream (.given [.error (.attach container refusal)] false) h

/-- All items that a stream has to give at the moment. -/
def backlog (h : Host) : Tail → List Item
  | .given items _ => items
  | .live sel => match h with
    | live log => (selected sel log.waiting).map .ok
    | _ => []

/-- The next item of a stream, if there is one at the moment. -/
def next (h : Host) (t : Tail) : Next × Tail × Host :=
  match t with
  | .given (i :: is) staysOpen => (.item i, .given is staysOpen, h)
  | .given [] staysOpen => (if staysOpen then .waiting else .ended, t, h)
  | .live sel => match h with
    | live log => match log.waiting.dropWhile (!sel.wants ·.channel) with
      | c :: cs => (.item (.ok c), t, .live { log with waiting := cs })
      | [] => (if log.finished then .ended else .waiting, t, .live { log with waiting := [] })
    | _ => (.ended, t, h)

/-- All that a stream has to give at the moment, and whether it has ended behind that. -/
def drain (h : Host) (t : Tail) : List Item × Bool × Tail × Host :=
  match t with
  | .given items staysOpen => (items, !staysOpen, .given [] staysOpen, h)
  | .live _ => match h with
    | live log => (h.backlog t, log.finished, t, .live { log with waiting := [] })
    | _ => ([], true, t, h)

/-- The text of chunks that are read one by one. -/
def textByChunk (cs : List Chunk) : String := String.join (cs.map (Utf8.decode ·.bytes))

/-- The text of chunks that are gathered first. -/
def textOfAll (cs : List Chunk) : String := Utf8.decode (Chunk.join cs)

/-- Fetches what a container has written so far. A staged host counts the fetches. -/
def currentLog (h : Host) (container : String) (sel : Selection) :
    Except LogError String × Host :=
  match h with
  | replay chunks => (.ok (textByChunk (selected sel chunks)), h)
  | live log => (.ok (textByChunk (selected sel log.recorded)), h)
  | failing reason => (.error (.fetch container (.stated reason)), h)
  | staged attachment (n + 1) log =>
    (.error (.fetch container (.stated "scripted")), .staged attachment n log)
  | staged _ 0 log => (.ok log, h)
  | daemon frames none => (.ok (textOfAll (frames.filterMap Frame.chunk?)), h)
  | daemon _ (some refusal) => (.error (.fetch container refusal), h)

/-- Pushes a chunk to a live log that is not finished. -/
def push? (h : Host) (c : Chunk) : Option Host :=
  match h with
  | live log =>
    if log.finished then none
    else some (.live { log with recorded := log.recorded ++ [c], waiting := log.waiting ++ [c] })
  | _ => none

/-- Finishes a live log. -/
def finish? (h : Host) : Option Host :=
  match h with
  | live log => if log.finished then none else some (.live { log with finished := true })
  | _ => none

end Host

end Readiness
