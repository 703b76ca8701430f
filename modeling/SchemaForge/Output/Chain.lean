import SchemaForge.Error
import SchemaForge.Output.Line
import SchemaForge.Text.Quoted

/-! Line processors and chains of them. What a processor makes of a line may depend on all lines
it has been given since the start of the file, so a processor is a function of those lines. After
every processor its result is checked to be one line. -/

namespace SchemaForge

structure LineProcessor where
  name : String
  /-- The lines given before, the latest first, and the line to process. -/
  process : List Line → Line → Except GenerationError Line

structure LineStage where
  processor : LineProcessor
  seen : List Line := []

structure LineChain where
  stages : List LineStage := []

namespace LineChain

def isTerminator (cs : List Char) : Bool :=
  cs = [] || cs = ['\n'] || cs = ['\r', '\n']

def breach? (line : Line) : Option String :=
  if !isTerminator line.terminator then
    some (Text.quoted line.terminator ++ " is not a line terminator")
  else if line.content.contains '\n' then some "line content must not contain a line break"
  else none

def run : List LineStage → Line → Except GenerationError (Option Line) × List LineStage
  | [], line => (.ok (some line), [])
  | stage :: rest, line =>
    let used := { stage with seen := line :: stage.seen }
    match stage.processor.process stage.seen line with
    | .error e => (.error e, used :: rest)
    | .ok out =>
      match breach? out with
      | some message => (.error (.contract stage.processor.name message), used :: rest)
      | none =>
        if out.isElided then (.ok none, used :: rest)
        else
          let (result, rest) := run rest out
          (result, used :: rest)

def apply (chain : LineChain) (line : Line) : Except GenerationError (Option Line) × LineChain :=
  let (result, stages) := run chain.stages line
  (result, ⟨stages⟩)

def push (chain : LineChain) (p : LineProcessor) : LineChain :=
  ⟨chain.stages ++ [{ processor := p }]⟩

def ofList (processors : List LineProcessor) : LineChain :=
  ⟨processors.map fun p => { processor := p }⟩

def isEmpty (chain : LineChain) : Bool :=
  chain.stages.isEmpty

def contains (chain : LineChain) (name : String) : Bool :=
  chain.stages.any (·.processor.name == name)

def reset (chain : LineChain) : LineChain :=
  ⟨chain.stages.map fun stage => { stage with seen := [] }⟩

end LineChain

namespace LineProcessor

def trimName : String := "trim-trailing-whitespace"

def trimTrailing : LineProcessor where
  name := trimName
  process _ line := .ok { line with content := Text.trimEnd line.content }

def limitName : String := "limit-empty-lines"

def limitEmpty (max : Nat) : LineProcessor where
  name := limitName
  process seen line :=
    if line.isBlank && max < (seen.takeWhile (·.isBlank)).length + 1 then .ok .elided else .ok line

end LineProcessor

end SchemaForge
