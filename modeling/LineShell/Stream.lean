import LineShell.FileTree.Access
import LineShell.Text.Split

/-!
# Streams

A source holds the bytes not yet read, and perhaps a failure that waits behind them in place of the
end. A sink either collects bytes, up to a limit if it has one, or writes to an open file: on from a
position, or always at the end.
-/

namespace LineShell

structure Source where
  unread : Bytes
  failure : Option IoFault

namespace Source

def ofBytes (bytes : Bytes) : Source := ⟨bytes, none⟩

def empty : Source := ofBytes []

/-- The source after everything has been read. -/
def drained (source : Source) : Source := { source with unread := [] }

/-- What reading up to the end gives. -/
def contents (source : Source) : Except IoFault Bytes :=
  match source.failure with
  | some fault => .error fault
  | none => .ok source.unread

/-- The number of bytes that reading by lines takes at a time. -/
def blockSize : Nat := 8192

/-- The length of the bytes up to the end of the first line that is not UTF-8, if there is one.
Bytes without a line feed at the end are not counted as a line here. -/
def badLine? (bytes : Bytes) : Option Nat :=
  let ended := (Text.cutAt (· == 0x0A) bytes).dropLast
  let rec search (before : Nat) : List Bytes → Option Nat
    | [] => none
    | line :: lines =>
      let before := before + line.length + 1
      if (Utf8.decode? line).isSome then search before lines else some before
  search 0 ended

/-- What reading line by line gives, and what is left. A line that is not UTF-8 ends the reading at
once, with the block in which it ends; a failure behind the bytes comes before a fault in bytes that
no line feed ends. -/
def readLines (source : Source) : Except IoFault (List (List Char)) × Source :=
  match badLine? source.unread with
  | some length =>
    let blocks := (length + blockSize - 1) / blockSize
    (.error .notUtf8, { source with unread := source.unread.drop (blocks * blockSize) })
  | none =>
    let lines := do
      let bytes ← source.contents
      match Utf8.decode? bytes with
      | some text => .ok (Text.lines text)
      | none => .error .notUtf8
    (lines, source.drained)

end Source

inductive Sink
  | memory (written : Bytes) (limit : Option Nat)
  | file (location : Location) (position : Option Nat)

namespace Sink

def unlimited : Sink := .memory [] none

/-- The bytes collected in memory. -/
def collected : Sink → Bytes
  | .memory written _ => written
  | .file _ _ => []

/-- How many bytes a sink still takes, out of so many. -/
def room : Sink → Nat → Nat
  | .memory written (some limit), wanted => min (limit - written.length) wanted
  | _, wanted => wanted

/-- The sink and the file tree after bytes that find room have been written. -/
def accept (files : FileTree) (bytes : Bytes) : Sink → Sink × FileTree
  | .memory written limit => (.memory (written ++ bytes) limit, files)
  | .file location (some position) =>
    (.file location (some (position + bytes.length)), files.writeAt location position bytes)
  | .file location none => (.file location none, files.appendTo location bytes)

end Sink

end LineShell
