import HaxeBuild.Text.Basic

namespace HaxeBuild

/-- A step from a value to one of its parts. -/
inductive Place where
  | field (name : Text)
  | index (n : Nat)
  deriving DecidableEq

/-- What is wrong with a value at its place. -/
inductive Flaw where
  | missing
  | notString
  | notUnicode
  | tooShort
  | notInteger
  | unreadableInteger
  | fractional
  | infinite
  | negative
  | notBoolean
  | unreadableBoolean
  | notMember
  | notList
  | notMapping
  | notSet
  | notPath
  | notBytes
  | notModel
  deriving DecidableEq

structure Issue where
  place : List Place
  flaw : Flaw
  deriving DecidableEq

/-- A value, or the list of every flaw found in its source. -/
inductive Checked (α : Type) where
  | valid (value : α)
  | invalid (issues : List Issue)

namespace Checked

def map {α β : Type} (f : α → β) : Checked α → Checked β
  | valid value => valid (f value)
  | invalid issues => invalid issues

/-- The flaws of both parts are reported, those of the first part first. -/
def apply {α β : Type} : Checked (α → β) → Checked α → Checked β
  | valid f, valid value => valid (f value)
  | valid _, invalid issues => invalid issues
  | invalid issues, valid _ => invalid issues
  | invalid issues, invalid more => invalid (issues ++ more)

instance : Functor Checked := ⟨map, fun value => map fun _ => value⟩

instance : Applicative Checked where
  pure := valid
  seq f x := apply f (x ())

def flawed {α : Type} (flaw : Flaw) : Checked α := invalid [⟨[], flaw⟩]

/-- Reports the flaws as those of a part. -/
def within {α : Type} (place : Place) : Checked α → Checked α
  | valid value => valid value
  | invalid issues => invalid (issues.map fun issue => ⟨place :: issue.place, issue.flaw⟩)

/-- Checks every element, from the given index on. -/
def each {α β : Type} (check : α → Checked β) : Nat → List α → Checked (List β)
  | _, [] => valid []
  | n, x :: xs => apply (map List.cons ((check x).within (.index n))) (each check (n + 1) xs)

end Checked

end HaxeBuild
