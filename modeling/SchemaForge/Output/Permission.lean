/-! Changes of permission bits as they are written on a command line: an octal number, or clauses
such as `u+w,go-rwx` or `g=u`. A clause without a class leaves out the bits that new files never
get. -/

namespace SchemaForge

inductive PermissionOp where
  | add
  | remove
  | assign
deriving Repr, DecidableEq

inductive PermissionBits where
  | given (bits : Nat)
  /-- These, and execution where it is allowed already or in directories. -/
  | givenOrExec (bits : Nat)
  /-- What one class may do, for all classes. -/
  | copied (mask : Nat)
deriving Repr, DecidableEq

structure PermissionStep where
  /-- All bits of the classes named, none if no class is named. -/
  classes : Option Nat
  op : PermissionOp
  bits : PermissionBits
deriving Repr, DecidableEq

inductive PermissionChange where
  | absolute (mode : Nat)
  | steps (items : List PermissionStep)
deriving Repr, DecidableEq

namespace PermissionChange

def umask : Nat := 0o022

def allBits : Nat := 0o7777

def isOctal (c : Char) : Bool :=
  '0' ≤ c && c ≤ '7'

def octal? (cs : List Char) : Option Nat :=
  if cs.isEmpty || cs.any (fun c => !isOctal c) then none
  else
    let n := cs.foldl (fun n c => 8 * n + (c.toNat - 48)) 0
    if n ≤ allBits then some n else none

def classBits : Char → Option Nat
  | 'u' => some 0o4700
  | 'g' => some 0o2070
  | 'o' => some 0o1007
  | 'a' => some 0o7777
  | _ => none

def op? : Char → Option PermissionOp
  | '+' => some .add
  | '-' => some .remove
  | '=' => some .assign
  | _ => none

def permissionBits : Char → Option Nat
  | 'r' => some 0o444
  | 'w' => some 0o222
  | 'x' => some 0o111
  | 'X' => some 0
  | 's' => some 0o6000
  | 't' => some 0o1000
  | _ => none

def orAll (bits : List Nat) : Nat :=
  bits.foldl (· ||| ·) 0

def bits? (cs : List Char) : PermissionBits × List Char :=
  match cs with
  | 'u' :: rest => (.copied 0o700, rest)
  | 'g' :: rest => (.copied 0o070, rest)
  | 'o' :: rest => (.copied 0o007, rest)
  | _ =>
    let letters := cs.takeWhile fun c => (permissionBits c).isSome
    let bits := orAll (letters.filterMap permissionBits)
    (if letters.contains 'X' then .givenOrExec bits else .given bits, cs.drop letters.length)

def steps? (classes : Option Nat) : (fuel : Nat) → List Char → Option (List PermissionStep)
  | 0, _ => none
  | _ + 1, [] => none
  | fuel + 1, mark :: cs => do
    let op ← op? mark
    if cs.head?.any isOctal then
      if classes.isSome then none
      else some [⟨some allBits, op, .given (← octal? cs)⟩]
    else
      let (bits, rest) := bits? cs
      let step := ⟨classes, op, bits⟩
      if rest.isEmpty then some [step] else (steps? classes fuel rest).map (step :: ·)

def clause? (cs : List Char) : Option (List PermissionStep) :=
  let named := cs.takeWhile fun c => (classBits c).isSome
  let classes := if named.isEmpty then none else some (orAll (named.filterMap classBits))
  steps? classes (cs.length + 1) (cs.drop named.length)

def commaParts : List Char → List (List Char)
  | [] => [[]]
  | c :: rest =>
    if c = ',' then [] :: commaParts rest
    else match commaParts rest with
      | part :: parts => (c :: part) :: parts
      | [] => [[c]]

def parse? (cs : List Char) : Option PermissionChange :=
  if cs.head?.any isOctal then (octal? cs).map .absolute
  else ((commaParts cs).mapM clause?).map fun parts => .steps parts.flatten

def without (a b : Nat) : Nat :=
  a ^^^ (a &&& b)

def bitsFor (isDirectory : Bool) (mode : Nat) : PermissionBits → Nat
  | .given bits => bits
  | .givenOrExec bits => if isDirectory || mode &&& 0o111 ≠ 0 then bits ||| 0o111 else bits
  | .copied mask =>
    let own := mode &&& mask
    orAll ([0o444, 0o222, 0o111].filter fun bits => own &&& bits ≠ 0)

def applyStep (mask : Nat) (isDirectory : Bool) (mode : Nat) (s : PermissionStep) : Nat :=
  let bits := bitsFor isDirectory mode s.bits &&& s.classes.getD (without allBits mask)
  match s.op with
  | .add => mode ||| bits
  | .remove => without mode bits
  | .assign => without mode (s.classes.getD allBits) ||| bits

/-- The mode of a file after a change, for a mask of bits that clauses without a class spare. -/
def apply (mask : Nat) (isDirectory : Bool) (change : PermissionChange) (mode : Nat) : Nat :=
  match change with
  | .absolute m => m
  | .steps items => items.foldl (applyStep mask isDirectory) mode

end PermissionChange

end SchemaForge
