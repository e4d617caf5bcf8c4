import HaxeBuild.Path
import HaxeBuild.Text.Utf8

namespace HaxeBuild

inductive Entry where
  | directory
  | file (content : Bytes)
  | link (target : Text)
  deriving DecidableEq

/-- The names on the way from the root directory; the root itself has none. -/
abbrev Location := List Text

/-- The entries below the root directory, and the working directory. -/
structure FileTree where
  entries : List (Location × Entry)
  cwd : Location

namespace FileTree

def get? (t : FileTree) (l : Location) : Option Entry :=
  if l.isEmpty then some .directory else t.entries.lookup l

def setIn (l : Location) (e : Entry) : List (Location × Entry) → List (Location × Entry)
  | [] => [(l, e)]
  | (l', e') :: rest => if l' == l then (l, e) :: rest else (l', e') :: setIn l e rest

def set (t : FileTree) (l : Location) (e : Entry) : FileTree :=
  { t with entries := setIn l e t.entries }

def erase (t : FileTree) (l : Location) : FileTree :=
  { t with entries := t.entries.filter (·.1 != l) }

/-- Removes a directory with everything below it. -/
def eraseBelow (t : FileTree) (l : Location) : FileTree :=
  { t with entries := t.entries.filter fun (l', _) => !l.isPrefixOf l' }

/-- The entries below a directory with the names that lead from it to them. -/
def below (t : FileTree) (l : Location) : List (List Text × Entry) :=
  t.entries.filterMap fun (l', e) =>
    if l.isPrefixOf l' && l != l' then some (l'.drop l.length, e) else none

/-- Setting a location changes what is there, and nothing else. -/
theorem lookup_setIn (l l' : Location) (e : Entry) (entries : List (Location × Entry)) :
    (setIn l e entries).lookup l' = if l' = l then some e else entries.lookup l' := by
  induction entries with
  | nil => by_cases asked : l' = l <;> simp [setIn, List.lookup_cons, asked, beq_false_of_ne]
  | cons entry rest inductionHypothesis =>
    obtain ⟨location, old⟩ := entry
    by_cases same : location = l
    · subst same
      by_cases asked : l' = location <;>
        simp [setIn, List.lookup_cons, asked, beq_false_of_ne]
    · by_cases asked : l' = location
      · subst asked
        simp [setIn, same]
      · simp [setIn, same, List.lookup_cons, asked, beq_false_of_ne, inductionHypothesis]

theorem get?_set (t : FileTree) (l l' : Location) (e : Entry) (below : l ≠ []) :
    (t.set l e).get? l' = if l' = l then some e else t.get? l' := by
  by_cases root : l' = []
  · subst root
    simp [get?, below.symm]
  · simp [get?, set, root, lookup_setIn]

end FileTree

end HaxeBuild
