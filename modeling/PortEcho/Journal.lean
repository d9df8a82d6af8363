import PortEcho.Notice
import PortEcho.Report

/-!
The journal of a program: every call it has made on its surroundings, with the answer it got.

Calls stand latest first, so a journal grows at its head and what has happened up to some moment
is a tail of it. All that an observer can see of a run (lines kept, flushes, datagrams sent and
received, notices, sleeps) is read off the journal, in the order of time.
-/

namespace PortEcho

/-- What one call of receive gives. -/
abbrev Receipt := Except Fault Datagram

/-- A call on the surroundings with its answer. -/
inductive Act
  /-- A socket was asked for at `address`; given is where it was bound. -/
  | bound (address : Endpoint) (given : Except Fault Endpoint)
  /-- The request to stop was looked for. -/
  | checked (stop : Bool)
  /-- The clock was read, in milliseconds. -/
  | timed (now : Nat)
  /-- The socket was polled for being ready. -/
  | polled (given : Except Fault Bool)
  | received (receipt : Receipt)
  | wrote (line : String) (refusal : Option Fault)
  | flushed (refusal : Option Fault)
  /-- Bytes were handed over to be sent; given is how many were taken. -/
  | sent (dest : Endpoint) (bytes : Bytes) (given : Except Fault Nat)
  | slept (millis : Nat)
  | noted (notice : Notice)

abbrev Journal := List Act

namespace Act

/-- The line that the act left in the output. -/
def line? : Act → Option String
  | wrote line none => some line
  | _ => none

/-- The datagram that the act sent on its way. -/
def departure? : Act → Option (Endpoint × Bytes)
  | sent dest bytes (.ok n) => some (dest, bytes.take n)
  | _ => none

def datagram? : Act → Option Datagram
  | received (.ok d) => some d
  | _ => none

def notice? : Act → Option Notice
  | noted n => some n
  | _ => none

def nap? : Act → Option Nat
  | slept millis => some millis
  | _ => none

def isWrite : Act → Bool
  | wrote .. => true
  | _ => false

def isFlush : Act → Bool
  | flushed .. => true
  | _ => false

def isSend : Act → Bool
  | sent .. => true
  | _ => false

end Act

namespace Journal

def view {α : Type} (f : Act → Option α) (j : Journal) : List α := (j.filterMap f).reverse

@[simp] theorem view_nil {α : Type} (f : Act → Option α) : view f [] = [] := rfl

@[simp] theorem view_cons {α : Type} (f : Act → Option α) (a : Act) (j : Journal) :
    view f (a :: j) = view f j ++ (f a).toList := by
  cases h : f a <;> simp [view, h]

theorem view_append {α : Type} (f : Act → Option α) (i j : Journal) :
    view f (i ++ j) = view f j ++ view f i := by
  simp [view]

/-- The lines in the output. -/
def lines (j : Journal) : List String := j.view Act.line?

/-- The datagrams that went out. -/
def departures (j : Journal) : List (Endpoint × Bytes) := j.view Act.departure?

/-- The datagrams taken from the socket. -/
def datagrams (j : Journal) : List Datagram := j.view Act.datagram?

def notices (j : Journal) : List Notice := j.view Act.notice?

def naps (j : Journal) : List Nat := j.view Act.nap?

/-- How many lines were tried to write. -/
def writes (j : Journal) : Nat := j.countP Act.isWrite

def flushes (j : Journal) : Nat := j.countP Act.isFlush

def sends (j : Journal) : Nat := j.countP Act.isSend

@[simp] theorem lines_cons (a : Act) (j : Journal) :
    lines (a :: j) = lines j ++ a.line?.toList := view_cons ..

@[simp] theorem departures_cons (a : Act) (j : Journal) :
    departures (a :: j) = departures j ++ a.departure?.toList := view_cons ..

@[simp] theorem datagrams_cons (a : Act) (j : Journal) :
    datagrams (a :: j) = datagrams j ++ a.datagram?.toList := view_cons ..

@[simp] theorem notices_cons (a : Act) (j : Journal) :
    notices (a :: j) = notices j ++ a.notice?.toList := view_cons ..

@[simp] theorem naps_cons (a : Act) (j : Journal) :
    naps (a :: j) = naps j ++ a.nap?.toList := view_cons ..

@[simp] theorem writes_cons (a : Act) (j : Journal) :
    writes (a :: j) = writes j + if a.isWrite then 1 else 0 := List.countP_cons ..

@[simp] theorem flushes_cons (a : Act) (j : Journal) :
    flushes (a :: j) = flushes j + if a.isFlush then 1 else 0 := List.countP_cons ..

@[simp] theorem sends_cons (a : Act) (j : Journal) :
    sends (a :: j) = sends j + if a.isSend then 1 else 0 := List.countP_cons ..

theorem lines_append (i j : Journal) : lines (i ++ j) = lines j ++ lines i := view_append ..

theorem datagrams_append (i j : Journal) : datagrams (i ++ j) = datagrams j ++ datagrams i :=
  view_append ..

theorem naps_append (i j : Journal) : naps (i ++ j) = naps j ++ naps i := view_append ..

theorem writes_append (i j : Journal) : writes (i ++ j) = writes i + writes j := List.countP_append

theorem flushes_append (i j : Journal) : flushes (i ++ j) = flushes i + flushes j :=
  List.countP_append

theorem sends_append (i j : Journal) : sends (i ++ j) = sends i + sends j := List.countP_append

end Journal

end PortEcho
