import SchemaForge.Output.Program

/-! Scripts of simple commands: words with quotes and parameters, output sent to files, and
commands that depend on how the one before ended. -/

namespace SchemaForge.Program

inductive Piece where
  | text (cs : List Char)
  | argument (index : Nat)
  | lastStatus
  | argumentCount
  /-- The number of the process that runs the script. -/
  | ownNumber
deriving Repr, DecidableEq

inductive Token where
  | word (pieces : List Piece)
  | mark (text : String)
deriving Repr, DecidableEq

section Reading

/-- Whether a word has begun, and what it holds in reverse. -/
abbrev Partly := Option (List Piece)

def Partly.add (p : Partly) (piece : Piece) : Partly :=
  some (piece :: p.getD [])

def Partly.tokens (p : Partly) : List Token :=
  (p.map fun pieces => Token.word pieces.reverse).toList

def mark? : List Char → Option (String × List Char)
  | '&' :: '&' :: rest => some ("&&", rest)
  | '|' :: '|' :: rest => some ("||", rest)
  | '2' :: '>' :: '&' :: '1' :: rest => some (">&", rest)
  | '2' :: '>' :: '>' :: rest => some ("2>", rest)
  | '2' :: '>' :: rest => some ("2>", rest)
  | '1' :: '>' :: '>' :: rest => some (">>", rest)
  | '1' :: '>' :: rest => some (">", rest)
  | '>' :: '>' :: rest => some (">>", rest)
  | '>' :: rest => some (">", rest)
  | ';' :: rest => some (";", rest)
  | '\n' :: rest => some ("\n", rest)
  | _ => none

/-- How a character is read: plainly, or inside a kind of quotes. -/
inductive Quoting where
  | plain
  | single
  | double
deriving Repr, DecidableEq

def isSpecial (c : Char) : Bool :=
  c = '$' || c = '\x60' || c = '"' || c = '\\'

def parameter? : List Char → Option (Piece × List Char)
  | '$' :: rest => some (.ownNumber, rest)
  | '?' :: rest => some (.lastStatus, rest)
  | '#' :: rest => some (.argumentCount, rest)
  | '\x7b' :: d :: '\x7d' :: rest =>
    if d.isDigit then some (.argument (d.toNat - 48), rest) else none
  | d :: rest => if d.isDigit then some (.argument (d.toNat - 48), rest) else none
  | [] => none

/-- The tokens of a script; none if a quote is not closed. -/
def tokens : (fuel : Nat) → Quoting → Partly → List Char → Option (List Token)
  | 0, _, _, _ => none
  | _ + 1, quoting, p, [] => if quoting = .plain then some p.tokens else none
  | fuel + 1, .single, p, c :: rest =>
    if c = '\x27' then tokens fuel .plain p rest else tokens fuel .single (p.add (.text [c])) rest
  | fuel + 1, quoting, p, '$' :: rest =>
    match parameter? rest with
    | some (piece, rest) => tokens fuel quoting (p.add piece) rest
    | none => tokens fuel quoting (p.add (.text ['$'])) rest
  | fuel + 1, quoting, p, '\\' :: c :: rest =>
    if quoting = .plain || isSpecial c then tokens fuel quoting (p.add (.text [c])) rest
    else tokens fuel quoting (p.add (.text ['\\', c])) rest
  | fuel + 1, .double, p, c :: rest =>
    if c = '"' then tokens fuel .plain p rest else tokens fuel .double (p.add (.text [c])) rest
  | fuel + 1, .plain, p, c :: rest =>
    if c = '"' then tokens fuel .double (p.add (.text [])) rest
    else if c = '\x27' then tokens fuel .single (p.add (.text [])) rest
    else if c = ' ' || c = '\t' then (tokens fuel .plain none rest).map (p.tokens ++ ·)
    else if c = '#' && p.isNone then tokens fuel .plain none (rest.dropWhile (· ≠ '\n'))
    else
      let marked := if c.isDigit && p.isSome then none else mark? (c :: rest)
      match marked with
      | some (mark, after) =>
        (tokens fuel .plain none after).map fun ts => p.tokens ++ .mark mark :: ts
      | none => tokens fuel .plain (p.add (.text [c])) rest

/-- A simple command: its words, and the files that take what it prints. -/
structure Command where
  words : List (List Piece) := []
  /-- Whether a file is extended rather than replaced, and its name. -/
  outputs : List (Bool × List Piece) := []
deriving Repr, DecidableEq

def Command.isEmpty (c : Command) : Bool :=
  c.words.isEmpty && c.outputs.isEmpty

def commands (before : String) (current : Command) : List Token → List (String × Command)
  | [] => [(before, current)]
  | .mark ">>" :: .word file :: rest =>
    commands before { current with outputs := current.outputs ++ [(true, file)] } rest
  | .mark ">" :: .word file :: rest =>
    commands before { current with outputs := current.outputs ++ [(false, file)] } rest
  | .mark "2>" :: .word _ :: rest => commands before current rest
  | .mark ">&" :: rest => commands before current rest
  | .mark mark :: rest => (before, current) :: commands mark {} rest
  | .word w :: rest => commands before { current with words := current.words ++ [w] } rest

def isBroken : List (String × Command) → Bool
  | [] => false
  | [(mark, c)] => c.isEmpty && (mark = "&&" || mark = "||")
  | (mark, c) :: (next, d) :: rest =>
    (c.isEmpty && (mark = "&&" || mark = "||" || next ≠ "\n")) || isBroken ((next, d) :: rest)

end Reading

section Running

structure Setting where
  args : List String
  ending : Ending

def ownNumberText : String := "$$"

def expandPiece (s : Setting) : Piece → List Char
  | .text cs => cs
  | .argument index => ((s.args[index]?).getD "").toList
  | .lastStatus => match s.ending with
    | .status code => (toString code).toList
    | .signal number => (toString (128 + number)).toList
  | .argumentCount => (toString (s.args.length - 1)).toList
  | .ownNumber => ownNumberText.toList

def expand (s : Setting) (pieces : List Piece) : String :=
  String.ofList (pieces.flatMap (expandPiece s))

def deliver (fs : FileSystem) (bytes : List UInt8) : List (Bool × String) → Exit
  | [] => ⟨.success, fs⟩
  | (extend, file) :: rest =>
    if file = "/dev/null" then deliver fs bytes rest
    else
      let opened : Except IoKind (Location × FileSystem) := match extend, fs.stat ⟨file⟩ with
        | true, .ok (loc, .file mode bytes) =>
          if (FileNode.file mode bytes).isWritable then .ok (loc, fs) else .error .permissionDenied
        | _, _ => fs.createFile ⟨file⟩
      match opened with
      | .error _ => ⟨.status 2, fs⟩
      | .ok (loc, fs) => if rest.isEmpty then ⟨.success, fs.append loc bytes⟩ else deliver fs bytes rest

/-- A format with its operands in place of its marks for text; a backslash before a letter stands
for a control character. -/
def formatted : (operands : List String) → List Char → List Char
  | _, [] => []
  | operands, '\\' :: 'n' :: rest => '\n' :: formatted operands rest
  | operands, '\\' :: 't' :: rest => '\t' :: formatted operands rest
  | operands, '\\' :: 'r' :: rest => '\r' :: formatted operands rest
  | operands, '\\' :: '\\' :: rest => '\\' :: formatted operands rest
  | operands, '%' :: '%' :: rest => '%' :: formatted operands rest
  | operands, '%' :: 's' :: rest =>
    (operands.head?.getD "").toList ++ formatted operands.tail rest
  | operands, c :: rest => c :: formatted operands rest

def holds (fs : FileSystem) : List String → Option Bool
  | [] => some false
  | ["!"] => some true
  | "!" :: rest => (holds fs rest).map (!·)
  | [s] => some (!s.isEmpty)
  | ["-n", s] => some (!s.isEmpty)
  | ["-z", s] => some s.isEmpty
  | ["-e", p] => some (fs.pathExists ⟨p⟩)
  | ["-f", p] => some (fs.isFile ⟨p⟩)
  | ["-d", p] => some (fs.isDirectory ⟨p⟩)
  | ["-r", p] => some (fs.pathExists ⟨p⟩)
  | ["-w", p] => some (match fs.stat ⟨p⟩ with
    | .ok (_, node) => node.isWritable
    | .error _ => false)
  | ["-x", p] => some (match fs.stat ⟨p⟩ with
    | .ok (_, node) => node.mode &&& 0o111 ≠ 0
    | .error _ => false)
  | ["-s", p] => some (match fs.stat ⟨p⟩ with
    | .ok (_, .file _ bytes) => !bytes.isEmpty
    | .ok (_, .directory _) => true
    | .error _ => false)
  | [a, "=", b] => some (a == b)
  | [a, "!=", b] => some (a != b)
  | [a, "-eq", b] => some (a.toInt? == b.toInt? && a.toInt?.isSome)
  | [a, "-ne", b] => some (a.toInt? != b.toInt?)
  | _ => none

def test (fs : FileSystem) (condition : List String) : Exit :=
  match holds fs condition with
  | some true => ⟨.success, fs⟩
  | some false => ⟨.failure, fs⟩
  | none => ⟨.status 2, fs⟩

def signalNumber? (name : String) : Option Nat :=
  match name.toNat? with
  | some n => if n ≤ 64 then some n else none
  | none =>
    let plain := if "SIG".toList.isPrefixOf name.toList then String.ofList (name.toList.drop 3)
      else name
    (Ending.signalNames.idxOf? plain).map (· + 1)

def isHarmless (number : Nat) : Bool :=
  ["CHLD", "CONT", "URG", "WINCH"].any fun name => signalNumber? name = some number

/-- Sends a signal; the script itself is the only process there is. -/
def kill (fs : FileSystem) (args : List String) : Exit :=
  let (signal, targets) := match args with
    | "-s" :: name :: rest => (signalNumber? name, rest)
    | first :: rest =>
      if isOption first then (signalNumber? (String.ofList (first.toList.drop 1)), rest)
      else (signalNumber? "TERM", first :: rest)
    | [] => (none, [])
  match signal with
  | none => ⟨.status 2, fs⟩
  | some number =>
    if targets.contains ownNumberText then
      if number = 0 || isHarmless number then ⟨.success, fs⟩ else ⟨.signal number, fs⟩
    else if targets.isEmpty then ⟨.status 2, fs⟩
    else ⟨.failure, fs⟩

def utf8 (s : String) : List UInt8 :=
  Utf8.encodeString s

def execute (fs : FileSystem) : List String → List UInt8 × Exit
  | [] => ([], ⟨.success, fs⟩)
  | "echo" :: "-n" :: rest => (utf8 (Text.joinStrings " " rest), ⟨.success, fs⟩)
  | "echo" :: rest => (utf8 (Text.joinStrings " " rest ++ "\n"), ⟨.success, fs⟩)
  | "printf" :: form :: operands =>
    (utf8 (String.ofList (formatted operands form.toList)), ⟨.success, fs⟩)
  | "cat" :: operands =>
    let (bytes, good) := contents fs operands
    (bytes, ⟨if good then .success else .failure, fs⟩)
  | "true" :: _ => ([], ⟨.success, fs⟩)
  | ":" :: _ => ([], ⟨.success, fs⟩)
  | "false" :: _ => ([], ⟨.failure, fs⟩)
  | "chmod" :: args => ([], chmod fs args)
  | "rm" :: args => ([], rm fs args)
  | "mv" :: args => ([], mv fs args)
  | "cp" :: args => ([], cp fs args)
  | "touch" :: args => ([], touch fs args)
  | "mkdir" :: args => ([], mkdir fs args)
  | "kill" :: args => ([], kill fs args)
  | "test" :: args => ([], test fs args)
  | "[" :: args =>
    if args.getLast? = some "]" then ([], test fs args.dropLast) else ([], ⟨.status 2, fs⟩)
  | _ => ([], ⟨.status 127, fs⟩)

def isRun (mark : String) (ending : Ending) : Bool :=
  if mark = "&&" then ending = .success else if mark = "||" then ending ≠ .success else true

def exitStatus (code : String) : Ending :=
  match code.toNat? with
  | some n => .status (n % 256)
  | none => .status 2

def negated (e : Exit) : Exit :=
  match e.ending with
  | .status code => { e with ending := .status (if code = 0 then 1 else 0) }
  | .signal _ => e

def runWords (fs : FileSystem) (outputs : List (Bool × String)) (words : List String) : Exit :=
  let (bytes, done) := execute fs words
  let written := deliver done.files bytes outputs
  if written.ending = .success then ⟨done.ending, written.files⟩ else written

def script (args : List String) (state : Exit) : List (String × Command) → Exit
  | [] => state
  | (mark, c) :: rest =>
    if c.isEmpty || !isRun mark state.ending then script args state rest
    else
      let setting : Setting := ⟨args, state.ending⟩
      let outputs := c.outputs.map fun (extend, file) => (extend, expand setting file)
      match c.words.map (expand setting) with
      | ["exit"] => state
      | "exit" :: code :: _ => { state with ending := exitStatus code }
      | words =>
        let done := match words with
          | "!" :: words => negated (runWords state.files outputs words)
          | words => runWords state.files outputs words
        match done.ending with
        | .signal _ => done
        | .status _ => script args done rest

/-- Runs a script given on the command line; the first argument after it is its own name. -/
def sh (fs : FileSystem) : List String → Exit
  | "-c" :: text :: args =>
    let cs := text.toList
    match tokens (cs.length + 1) .plain none cs with
    | none => ⟨.status 2, fs⟩
    | some ts =>
      let parts := commands "\n" {} ts
      if isBroken parts then ⟨.status 2, fs⟩ else script args ⟨.success, fs⟩ parts
  | _ => ⟨.status 2, fs⟩

end Running

def run? (fs : FileSystem) (name : String) (args : List String) : Option Exit :=
  match name with
  | "true" => some ⟨.success, fs⟩
  | "false" => some ⟨.failure, fs⟩
  | "chmod" => some (chmod fs args)
  | "rm" => some (rm fs args)
  | "mv" => some (mv fs args)
  | "cp" => some (cp fs args)
  | "touch" => some (touch fs args)
  | "mkdir" => some (mkdir fs args)
  | "cat" => some ⟨if (contents fs (splitArgs args).2).2 then .success else .failure, fs⟩
  | "echo" => some ⟨.success, fs⟩
  | "test" => some (test fs args)
  | "sh" => some (sh fs args)
  | _ => none

end SchemaForge.Program
