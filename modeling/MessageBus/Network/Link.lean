import MessageBus.Wire.Layout

namespace MessageBus

open Wire

/-!
# Links

A link is a connection in memory: one pipe in each direction, of limited capacity.
Each of its two ends holds a right to read and a right to write and can give them
up one by one.  Giving up the right to write ends the pipe, and the other end
finds that out after it has read what was written before.  Nobody finds out that
an end has given up its right to read as long as it can still write; only when it
has given up both is writing to it an error.
-/

/-- Bytes on their way, at most as many as there is room for. -/
structure Pipe where
  /-- The next bytes to be read. -/
  front : Bytes := []
  /-- What was written after them, the latest first. -/
  back : List Bytes := []
  size : Nat := 0
  /-- Nothing will be written any more. -/
  isEnded : Bool := false
deriving DecidableEq, Repr

namespace Pipe

/-- Everything that was written and not yet read. -/
def contents (pipe : Pipe) : Bytes :=
  pipe.front ++ pipe.back.reverse.flatten

def write (pipe : Pipe) (bytes : Bytes) : Pipe :=
  if bytes.isEmpty then pipe
  else { pipe with back := bytes :: pipe.back, size := pipe.size + bytes.length }

/-- The pipe with so much left to be read. -/
def leave (pipe : Pipe) (bytes : Bytes) : Pipe :=
  { pipe with front := bytes, back := [], size := bytes.length }

theorem contents_write (pipe : Pipe) (bytes : Bytes) :
    (pipe.write bytes).contents = pipe.contents ++ bytes := by
  unfold write
  split
  · next empty => simp [List.isEmpty_iff.mp empty]
  · simp [contents]

theorem contents_leave (pipe : Pipe) (bytes : Bytes) : (pipe.leave bytes).contents = bytes := by
  simp [contents, leave]

end Pipe

/-- The two ends of a link. -/
inductive Side where
  | caller
  | answerer
deriving DecidableEq, Repr

namespace Side

def other : Side -> Side
  | .caller => .answerer
  | .answerer => .caller

end Side

/-- What an end still holds. -/
structure Rights where
  canRead : Bool := true
  canWrite : Bool := true
deriving DecidableEq, Repr

structure Link where
  capacity : Nat
  /-- From the caller to the answerer. -/
  forth : Pipe := {}
  /-- From the answerer to the caller. -/
  back : Pipe := {}
  caller : Rights := {}
  answerer : Rights := {}
deriving DecidableEq, Repr

namespace Link

def rights (link : Link) : Side -> Rights
  | .caller => link.caller
  | .answerer => link.answerer

def changeRights (link : Link) (side : Side) (change : Rights -> Rights) : Link :=
  match side with
  | .caller => { link with caller := change link.caller }
  | .answerer => { link with answerer := change link.answerer }

/-- The pipe that an end writes to. -/
def outgoing (link : Link) : Side -> Pipe
  | .caller => link.forth
  | .answerer => link.back

/-- The pipe that an end reads from. -/
def incoming (link : Link) (side : Side) : Pipe :=
  link.outgoing side.other

def changeOutgoing (link : Link) (side : Side) (change : Pipe -> Pipe) : Link :=
  match side with
  | .caller => { link with forth := change link.forth }
  | .answerer => { link with back := change link.back }

/-- How many bytes an end can write before it has to wait. -/
def room (link : Link) (side : Side) : Nat :=
  link.capacity - (link.outgoing side).size

/-- Whether an end has given up everything. -/
def isGone (link : Link) (side : Side) : Bool :=
  !(link.rights side).canRead && !(link.rights side).canWrite

def write (link : Link) (side : Side) (bytes : Bytes) : Link :=
  link.changeOutgoing side (·.write bytes)

/-- An end has read all but this. -/
def leave (link : Link) (side : Side) (bytes : Bytes) : Link :=
  link.changeOutgoing side.other (·.leave bytes)

/-- An end says that it will write nothing more. -/
def finish (link : Link) (side : Side) : Link :=
  link.changeOutgoing side fun pipe => { pipe with isEnded := true }

def stopReading (link : Link) (side : Side) : Link :=
  link.changeRights side fun rights => { rights with canRead := false }

def stopWriting (link : Link) (side : Side) : Link :=
  (link.finish side).changeRights side fun rights => { rights with canWrite := false }

/-- An end gives up everything. -/
def drop (link : Link) (side : Side) : Link :=
  (link.stopReading side).stopWriting side

end Link

end MessageBus
