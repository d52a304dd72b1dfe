import Throttle.Pattern.Expr

/-!
# Programs

An expression is run as a program: instructions that take a character of a class, pass a place, or go on in two ways. A
program is run on all its instructions at once, so the time for each character is bounded by the length of the program.
-/

namespace Throttle.Pattern

inductive Instr where
  /-- Take a character of the class, and go on with the next instruction. -/
  | take (s : CharClass)
  | pass (p : Place)
  | split (a b : Nat)
  | jump (a : Nat)
  | accept

instance : Inhabited Instr := ⟨.accept⟩

abbrev Program := Array Instr

namespace Program

def copies (append : Program → Program) (n : Nat) (code : Program) : Program :=
  n.fold (fun _ _ code => append code) code

/-- At most so many copies of some code, each of which may be the last. -/
def options (append : Program → Program) (n : Nat) (code : Program) : Program :=
  let (code, splits) := n.fold (fun _ _ (acc : Program × List Nat) =>
    (append (acc.1.push (.jump 0)), acc.1.size :: acc.2)) (code, [])
  splits.foldl (fun code i => code.set! i (.split (i + 1) code.size)) code

/-- Any number of copies of some code. -/
def loop (append : Program → Program) (code : Program) : Program :=
  let start := code.size
  let code := (append (code.push (.jump 0))).push (.jump start)
  code.set! start (.split (start + 1) code.size)

/-- The code of an expression appended to a program. It goes on behind its end. -/
def append (e : Expr) (code : Program) : Program :=
  match e with
  | .empty => code
  | .one s => code.push (.take s)
  | .place p => code.push (.pass p)
  | .seq a b => append b (append a code)
  | .either a b =>
    let start := code.size
    let code := append a (code.push (.jump 0))
    let middle := code.size
    let code := append b (code.push (.jump 0))
    (code.set! start (.split (start + 1) (middle + 1))).set! middle (.jump code.size)
  | .group body => append body code
  | .repeated body least most =>
    let code := copies (append body) least code
    match most with
    | some most => options (append body) (most - least) code
    | none => loop (append body) code

def ofExpr (e : Expr) : Program := (append e #[]).push .accept

end Program

/-! ## Running -/

/-- Whether a character at one side of a place is part of a word. -/
def isWordAt (unicode : Bool) (c : Option Char) : Bool :=
  c.any fun c => if unicode then Unicode.isWord c else c.isAlphanum || c = '_'

/-- Whether a place between two characters is of a kind; at an end of the text there is no character. -/
def Place.holds (p : Place) (before after : Option Char) : Bool :=
  match p with
  | .textStart => before.isNone
  | .textEnd => after.isNone
  | .lineStart false => before.isNone || before = some '\n'
  | .lineEnd false => after.isNone || after = some '\n'
  | .lineStart true => before.isNone || before = some '\n' || (before = some '\r' && after != some '\n')
  | .lineEnd true => after.isNone || after = some '\r' || (after = some '\n' && before != some '\r')
  | .word a unicode =>
    let left := isWordAt unicode before
    let right := isWordAt unicode after
    match a with
    | .wordBoundary => left != right
    | .notWordBoundary => left = right
    | .wordStart => !left && right
    | .wordEnd => left && !right
    | .wordStartHalf => !left
    | .wordEndHalf => !right
    | _ => false

namespace Program

/-- The instructions that are reached without taking a character. Every instruction is entered once and leads to at
most two, so twice their number of steps suffices. -/
def reach (code : Program) (before after : Option Char) (steps : Nat) (todo : List Nat) (seen : Array Bool)
    (reached : List Nat) : List Nat :=
  match steps, todo with
  | 0, _ | _, [] => reached
  | steps + 1, i :: todo =>
    if seen.getD i true then reach code before after steps todo seen reached
    else
      let seen := seen.set! i true
      match code.getD i .accept with
      | .take _ | .accept => reach code before after steps todo seen (i :: reached)
      | .jump a => reach code before after steps (a :: todo) seen reached
      | .split a b => reach code before after steps (a :: b :: todo) seen reached
      | .pass p =>
        reach code before after steps (if p.holds before after then (i + 1) :: todo else todo) seen reached

/-- The instructions after one more character. -/
def advance (code : Program) (c : Char) (reached : List Nat) : List Nat :=
  reached.filterMap fun i =>
    match code.getD i .accept with
    | .take s => if s.contains c.toNat then some (i + 1) else none
    | _ => none

def accepts (code : Program) (reached : List Nat) : Bool :=
  reached.any fun i =>
    match code.getD i .accept with
    | .accept => true
    | _ => false

/-- Whether the program matches somewhere in the rest of a text, from its start or from where it stands. -/
def search (code : Program) (before : Option Char) (current : List Nat) (cs : List Char) : Bool :=
  let todo := current ++ [0]
  let reached := reach code before cs.head? (todo.length + 2 * code.size) todo (Array.replicate code.size false) []
  accepts code reached ||
    match cs with
    | [] => false
    | c :: rest => search code (some c) (advance code c reached) rest

def found (code : Program) (s : String) : Bool := search code none [] s.toList

end Program

end Throttle.Pattern
