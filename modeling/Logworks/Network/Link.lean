import Logworks.Network.Wire
import Logworks.Text.Octets

/-!
# A link to a collector

Lines are sent over a connection. When sending fails the connection is given up; a link that may
reconnect then tries once to connect and to send the line again, whole. This file fixes

* `Wire` -- the connections of a link with what each has taken, what was tried on them, and what is
  going to happen: **past what is planned nothing can be connected**;
* `Link.send` -- at most two attempts to write and one to connect.
-/

namespace Logworks.Network

open Logworks.Text

/-- What comes of one attempt to write a line. -/
inductive Delivery where
  | whole
  /-- The other side takes so many octets at most, never the whole line. -/
  | broken (octets : Nat) (cause : Cause)
  deriving DecidableEq, Repr

/-- What was tried. -/
inductive Trial where
  /-- To connect; what came of it is the number of a connection, or nothing. -/
  | connect (made : Option Nat)
  /-- To write a line to a connection. -/
  | write (connection : Nat) (isWhole : Bool)
  deriving DecidableEq, Repr

/-- The connections so far, each with what it has taken, and what will happen next. -/
structure Wire where
  streams : List Octets := []
  connects : List (Except SystemCause Unit) := []
  deliveries : List Delivery := []
  /-- What was tried so far, in order. -/
  trials : List Trial := []
  deriving Repr

namespace Wire

def note (w : Wire) (t : Trial) : Wire := { w with trials := w.trials ++ [t] }

/-- A new connection, named by its number. -/
def connect (w : Wire) : Except Cause Nat × Wire :=
  match w.connects with
  | [] => (.error (.system .networkUnreachable), w.note (.connect none))
  | .error c :: rest => (.error (.system c), { w with connects := rest }.note (.connect none))
  | .ok () :: rest =>
    (.ok w.streams.length,
      { w with streams := w.streams ++ [[]], connects := rest }.note
        (.connect (some w.streams.length)))

/-- The wire after a connection has taken octets. -/
def take (w : Wire) (connection : Nat) (bytes : Octets) : Wire :=
  { w with streams := w.streams.set connection ((w.streams[connection]?).getD [] ++ bytes) }

/-- Writes a line to a connection. -/
def write (w : Wire) (connection : Nat) (line : Octets) : Except Cause Unit × Wire :=
  match w.deliveries with
  | [] | .whole :: _ =>
    (.ok (), { w.take connection line with deliveries := w.deliveries.tail }.note
      (.write connection true))
  | .broken n cause :: rest =>
    (.error cause,
      { w.take connection (line.take (min n (line.length - 1))) with deliveries := rest }.note
        (.write connection false))

end Wire

/-- One end of a connection, if there is one. -/
structure Link where
  address : String
  connection : Option Nat
  reconnects : Bool := true
  deriving DecidableEq, Repr

namespace Link

def isConnected (l : Link) : Bool := l.connection.isSome

def create (address : String) (w : Wire) : Except Fault Link × Wire :=
  match w.connect with
  | (.ok c, w) => (.ok ⟨address, some c, true⟩, w)
  | (.error cause, w) =>
    (.error (.network address ("connection failed: " ++ cause.message)), w)

/-- Why a line could not be sent at first. -/
def notConnected : Cause := .text "not connected"

/-- Connects again and sends the line once more. -/
def resend (l : Link) (line : Octets) (first : Cause) (w : Wire) :
    Except Fault Unit × Link × Wire :=
  match w.connect with
  | (.error cause, w) =>
    (.error (.network l.address
      ("send failed: " ++ first.message ++ " (reconnect: " ++ cause.message ++ ")")),
      { l with connection := none }, w)
  | (.ok c, w) =>
    match w.write c line with
    | (.ok (), w) => (.ok (), { l with connection := some c }, w)
    | (.error cause, w) =>
      (.error (.network l.address ("resend failed: " ++ cause.message)),
        { l with connection := none }, w)

/-- What follows a failure to send. -/
def recover (l : Link) (line : Octets) (first : Cause) (w : Wire) :
    Except Fault Unit × Link × Wire :=
  if l.reconnects then l.resend line first w
  else (.error (.network l.address first.message), { l with connection := none }, w)

def send (l : Link) (line : Octets) (w : Wire) : Except Fault Unit × Link × Wire :=
  match l.connection with
  | some c =>
    match w.write c line with
    | (.ok (), w) => (.ok (), l, w)
    | (.error cause, w) => l.recover line cause w
  | none =>
    if l.reconnects then l.resend line notConnected w
    else (.error (.unavailable l.address), l, w)

end Link

end Logworks.Network
