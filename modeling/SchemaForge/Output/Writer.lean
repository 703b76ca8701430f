import SchemaForge.Output.Chain
import SchemaForge.Text.Utf8

/-! Writing rendered output through a chain of line processors. Bytes may arrive in any pieces; an
empty chain passes them on as they are. -/

namespace SchemaForge

structure Sink where
  bytes : List UInt8 := []
  /-- How many bytes fit, if there is a limit. -/
  limit : Option Nat := none

def Sink.write (sink : Sink) (bytes : List UInt8) : Option Sink :=
  if bytes.isEmpty then some sink
  else match sink.limit with
    | some n =>
      if n < sink.bytes.length + bytes.length then none
      else some { sink with bytes := sink.bytes ++ bytes }
    | none => some { sink with bytes := sink.bytes ++ bytes }

structure LineWriter where
  sink : Sink
  chain : LineChain
  path : Path
  /-- The line that has begun, its last character first. -/
  partly : List Char := []
  /-- The bytes of a character that has not ended. -/
  kept : List UInt8 := []

/-- How a write can fail: with a cause of its own, or because the bytes are no text. -/
inductive WriteError where
  | cause (error : GenerationError)
  | invalidText
deriving Repr, DecidableEq

namespace LineWriter

def writeLine (w : LineWriter) (line : Line) : Except GenerationError Unit × LineWriter :=
  match w.sink.write (Utf8.encode line.content) with
  | none => (.error (.io w.path .storageFull), w)
  | some sink =>
    match sink.write (Utf8.encode line.terminator) with
    | none => (.error (.io w.path .storageFull), { w with sink })
    | some sink => (.ok (), { w with sink })

def putLine (w : LineWriter) (line : Line) : Except GenerationError Unit × LineWriter :=
  let (result, chain) := w.chain.apply line
  let w := { w with chain }
  match result with
  | .error e => (.error e, w)
  | .ok none => (.ok (), w)
  | .ok (some line) => w.writeLine line

def putLines (w : LineWriter) : List Line → Except GenerationError Unit × LineWriter
  | [] => (.ok (), w)
  | line :: rest =>
    match w.putLine line with
    | (.ok (), w) => w.putLines rest
    | failed => failed

def write (w : LineWriter) (buffer : List UInt8) : Except WriteError Unit × LineWriter :=
  if w.chain.isEmpty then
    match w.sink.write buffer with
    | some sink => (.ok (), { w with sink })
    | none => (.error (.cause (.io w.path .storageFull)), w)
  else
    match Utf8.decodeFrom w.kept buffer with
    | none => (.error .invalidText, { w with kept := [] })
    | some (cs, kept) =>
      let (lines, partly) := Line.cut w.partly cs
      match { w with partly, kept := [] }.putLines lines with
      | (.ok (), w) => (.ok (), { w with kept })
      | (.error e, w) => (.error (.cause e), w)

def writeAll (w : LineWriter) : List (List UInt8) → Except WriteError Unit × LineWriter
  | [] => (.ok (), w)
  | buffer :: rest =>
    match w.write buffer with
    | (.ok (), w) => w.writeAll rest
    | failed => failed

def finish (w : LineWriter) : Except GenerationError Unit × LineWriter :=
  if !w.kept.isEmpty then (.error (.io w.path .invalidData), w)
  else match Line.remainder? w.partly with
    | none => (.ok (), w)
    | some line => w.putLine line

end LineWriter

end SchemaForge
