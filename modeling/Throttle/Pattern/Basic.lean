import Throttle.Pattern.Program
import Throttle.Pattern.Size

/-!
# Patterns

A pattern is a regular expression that has been accepted: it parses, its classes exist, and it is not too large. It is
searched for anywhere in a text.
-/

namespace Throttle

namespace Pattern

def compile? (text : String) : Option Program := do
  let written ← Syntax.parse? text
  let (e, _) ← written.meaning {}
  if e.size ≤ Expr.maxSize then some (.ofExpr e) else none

end Pattern

/-- An accepted regular expression. -/
structure Pattern where
  text : String
  program : Pattern.Program
  isCompiled : Pattern.compile? text = some program

namespace Pattern

def ofText? (text : String) : Option Pattern :=
  match h : compile? text with
  | some program => some ⟨text, program, h⟩
  | none => none

theorem ext_text {p q : Pattern} (h : p.text = q.text) : p = q := by
  obtain ⟨t, m, hm⟩ := p
  obtain ⟨u, n, hn⟩ := q
  subst h
  simp only [hm, Option.some.injEq] at hn
  subst hn
  rfl

instance : DecidableEq Pattern := fun p q =>
  if h : p.text = q.text then .isTrue (ext_text h) else .isFalse fun e => h (e ▸ rfl)

/-- Whether the pattern matches somewhere in a text. -/
def matchesIn (p : Pattern) (s : String) : Bool := p.program.found s

end Pattern

end Throttle
