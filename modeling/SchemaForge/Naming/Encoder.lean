import SchemaForge.Pattern.Parser
import SchemaForge.Rules.Basic
import SchemaForge.Text.Blank
import SchemaForge.Text.Snake

/-! Identifier encoding. A token is turned into an identifier in four steps: characters that no
identifier may hold are replaced, a reserved result gets its affixes, a guarded start is
corrected, and doubled underscores are split. -/

namespace SchemaForge

structure Encoder where
  enabled : Bool
  stropBefore : List Char
  stropAfter : List Char
  codeMark : List Char
  guardStart : Bool
  splitDouble : Bool
  words : List (List Char)
  patterns : List Pattern

inductive EncoderError where
  | illegalMark (mark : String)
  | badPattern (pattern : String)
  | largePattern (pattern : String)
deriving Repr, DecidableEq

namespace EncoderError

def message : EncoderError → String
  | illegalMark mark =>
    "'" ++ mark
      ++ "' is not allowed as an encoding prefix since it can result in illegal identifiers"
  | badPattern pattern => "invalid pattern '" ++ pattern ++ "': regex parse error:"
  | largePattern pattern =>
    "invalid pattern '" ++ pattern ++ "': Compiled regex exceeds size limit of "
      ++ toString Pattern.sizeLimit ++ " bytes."

end EncoderError

namespace Encoder

/-- What kind of guarded start an identifier has: a second underscore or a capital. -/
inductive GuardedStart where
  | underscore
  | capital (c : Char)

def guardedStart? : List Char → Option GuardedStart
  | '_' :: c :: _ =>
    if c = '_' then some .underscore else if c.isUpper then some (.capital c) else none
  | _ => none

/-- Patterns are matched against the start of an identifier. -/
def anchored (pattern : String) : String :=
  "^(?:" ++ pattern ++ ")"

def compile (pattern : String) : Except EncoderError Pattern :=
  match Pattern.parse (anchored pattern) with
  | .ok p => .ok p
  | .error .tooLarge => .error (.largePattern (anchored pattern))
  | .error _ => .error (.badPattern (anchored pattern))

def ofRules (rules : IdentifierRules) : Except EncoderError Encoder := do
  if rules.guardStart && (guardedStart? rules.codeMark.toList).isSome then
    .error (.illegalMark rules.codeMark)
  else .ok {
    enabled := true
    stropBefore := rules.stropBefore.toList
    stropAfter := rules.stropAfter.toList
    codeMark := rules.codeMark.toList
    guardStart := rules.guardStart
    splitDouble := rules.splitDouble
    words := rules.reservedWords.map String.toList
    patterns := ← rules.reservedPatterns.mapM compile }

def ofLanguage (rules : LanguageRules) : Except EncoderError Encoder := do
  .ok { ← ofRules rules.identifiers with enabled := rules.language.stropping }

def hexCode (n : Nat) : List Char :=
  let digits := (Nat.toDigits 16 n).map Char.toUpper
  List.replicate (4 - digits.length) '0' ++ digits

def encodeChar (e : Encoder) (c : Char) : List Char :=
  e.codeMark ++ hexCode c.toNat

def isReserved (e : Encoder) (token : List Char) : Bool :=
  e.words.contains token || e.patterns.any (·.isMatch token)

def isPlain (c : Char) : Bool :=
  c.isAlphanum || c == '_'

/-- Replaces each run of blanks by one underscore and encodes all else that is not plain. -/
def replaceRest (e : Encoder) (afterBlank : Bool) : List Char → List Char
  | [] => []
  | c :: rest =>
    if Text.isBlank c then
      (if afterBlank then [] else ['_']) ++ replaceRest e true rest
    else
      (if isPlain c then [c] else e.encodeChar c) ++ replaceRest e false rest

/-- A digit is plain everywhere but at the start. -/
def replaceIllegal (e : Encoder) : List Char → List Char
  | [] => []
  | c :: rest =>
    if Text.isAsciiDigit c then e.encodeChar c ++ replaceRest e false rest
    else replaceRest e false (c :: rest)

def strop (e : Encoder) (token : List Char) : List Char :=
  if e.isReserved token then e.stropBefore ++ token ++ e.stropAfter else token

/-- A second underscore is encoded, a capital lowered; where that makes a reserved word the
first underscore is encoded too. -/
def correctStart (e : Encoder) (token : List Char) : List Char :=
  match guardedStart? token with
  | none => token
  | some start =>
    let corrected := match start with
      | .underscore => '_' :: e.encodeChar '_' ++ token.drop 2
      | .capital c => '_' :: c.toLower :: token.drop 2
    if e.isReserved corrected then e.encodeChar '_' ++ corrected.drop 1 else corrected

def splitUnderscores (e : Encoder) : List Char → List Char
  | '_' :: '_' :: rest => '_' :: e.encodeChar '_' ++ splitUnderscores e rest
  | c :: rest => c :: splitUnderscores e rest
  | [] => []

def encodeChars (e : Encoder) (token : List Char) : List Char :=
  if e.enabled then
    let stropped := e.strop (e.replaceIllegal token)
    let corrected := if e.guardStart then e.correctStart stropped else stropped
    if e.splitDouble then e.splitUnderscores corrected else corrected
  else token

def encode (e : Encoder) (token : String) : String :=
  String.ofList (e.encodeChars token.toList)

end Encoder

end SchemaForge
