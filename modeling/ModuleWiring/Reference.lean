/-
References to variables.

A reference is `var.` followed by an identifier, where the `v` does not continue
a word.  The identifier reaches as far as it can, and the search goes on behind
it, so references never overlap.
-/
import ModuleWiring.Convention
import ModuleWiring.Text.Word

namespace ModuleWiring.Text

/-- The name that a reference at the very beginning of a text refers to. -/
def referenceAt? (t : Text) : Option Text :=
  match after? referenceOpening t with
  | some (c :: cs) => if isNameStart c then some (c :: cs.takeWhile isNameChar) else none
  | _ => none

/-- The names referred to in a text, of which the first `skip` characters belong
to a reference already found; `inWord` tells whether a word ends right before it. -/
def referencesFrom : (skip : Nat) → (inWord : Bool) → Text → List Text
  | _, _, [] => []
  | skip + 1, _, c :: t => referencesFrom skip (isWordChar c) t
  | 0, inWord, c :: t =>
    match if inWord then none else referenceAt? (c :: t) with
    | some name => name :: referencesFrom (3 + name.length) (isWordChar c) t
    | none => referencesFrom 0 (isWordChar c) t

/-- The names of all variables that a text refers to, in order. -/
def references (t : Text) : List Text :=
  referencesFrom 0 false t

end ModuleWiring.Text
