import HaxeBuild.Proofs.Template.Expansion

namespace HaxeBuild.Template

open Segment Expansion

namespace Segment

/-- The code points with their lines. -/
def numbered : (line : Nat) → Text → List (Nat × Code)
  | _, [] => []
  | line, c :: rest => (line, c) :: numbered (if c = .char '\n' then line + 1 else line) rest

/-- What stands outside the tags, each code point with its line. -/
def outside : (line : Nat) → List Segment → List (Nat × Code)
  | _, [] => []
  | line, plain t :: rest => numbered line t ++ outside (line + t.countNewlines) rest
  | line, tag inner :: rest => outside (line + inner.countNewlines) rest

/-- Code points outside do not move if every tag has as many newlines as the one it replaces. -/
theorem outside_of_replaces {segments segments' : List Segment}
    (replaces : List.Forall₂
      (Replaces fun inner inner' => inner'.countNewlines = inner.countNewlines) segments segments')
    (line : Nat) : outside line segments' = outside line segments := by
  induction replaces generalizing line with
  | nil => rfl
  | cons first _ inductionHypothesis =>
    cases first with
    | plain t => rw [outside, outside, inductionHypothesis]
    | tag same => rw [outside, outside, inductionHypothesis, same]

/-- Two relations between tags hold of the same replacements where they agree on the tags. -/
theorem replaces_iff_of_mem {related other : Text → Text → Prop} {segments segments' : List Segment}
    (replaces : List.Forall₂ (Replaces related) segments segments')
    {holds : Text → Prop}
    (agree : ∀ inner inner', related inner inner' → (other inner inner' ↔ holds inner)) :
    List.Forall₂ (Replaces other) segments segments' ↔
      ∀ inner, tag inner ∈ segments → holds inner := by
  induction replaces with
  | nil => exact iff_of_true .nil nofun
  | cons first _ inductionHypothesis =>
    rw [List.forall₂_cons, inductionHypothesis]
    cases first with
    | plain t =>
      constructor
      · rintro ⟨-, later⟩ inner among
        exact later inner ((List.mem_cons.mp among).resolve_left nofun)
      · intro all
        exact ⟨.plain t, fun inner among => all inner (List.mem_cons_of_mem _ among)⟩
    | @tag inner inner' related =>
      have here := agree inner inner' related
      constructor
      · rintro ⟨first, later⟩ inner₁ among
        rcases List.mem_cons.mp among with is | among
        · cases is
          cases first with
          | tag is => exact here.mp is
        · exact later inner₁ among
      · intro all
        exact ⟨.tag (here.mpr (all inner List.mem_cons_self)),
          fun inner₁ among => all inner₁ (List.mem_cons_of_mem _ among)⟩

end Segment

/-- Every tag of the template has a tag with as many newlines in its place, and all text outside
tags stands on the line where it stood. -/
structure LinesKept (template out : Text) : Prop where
  tags : List.Forall₂ (Replaces fun inner inner' => inner'.countNewlines = inner.countNewlines)
    (cut template) (cut out)
  outside : outside 1 (cut out) = outside 1 (cut template)

/-- Expansion replaces the tags one for one and leaves the text between them. Lines are kept exactly
when no loop tag that is rewritten has a newline in its target or its source. -/
theorem linesKept_iff {tags : List Tag} {template out : Text}
    (expanded : expand tags template = .ok out) :
    List.Forall₂ (Replaces fun inner inner' =>
        inner'.countNewlines = inner.countNewlines + spilled inner) (cut template) (cut out) ∧
      (LinesKept template out ↔ ∀ inner, .tag inner ∈ cut template → spilled inner = 0) := by
  have counted : List.Forall₂ (Replaces fun inner inner' =>
      inner'.countNewlines = inner.countNewlines + spilled inner) (cut template) (cut out) :=
    (expanded_of_segments (expand_eq_ok_iff.mp expanded)).imp fun s s' replaces =>
      replaces.mono fun inner inner' both => both.2
  have same : List.Forall₂ (Replaces fun inner inner' =>
      inner'.countNewlines = inner.countNewlines) (cut template) (cut out) ↔
        ∀ inner, .tag inner ∈ cut template → spilled inner = 0 := by
    refine replaces_iff_of_mem counted fun inner inner' becomes => ?_
    omega
  refine ⟨counted, ?_⟩
  rw [← same]
  exact ⟨LinesKept.tags, fun kept => ⟨kept, outside_of_replaces kept 1⟩⟩

/-- A template with newlines in every kind of tag, but none in a loop's target or source. -/
def scattered : Text :=
  "a\n\x7b%\nfor a in\nxs\n%\x7db\x7b% :note:\n'\n' %\x7d\x7b%\nend\n%\x7dc"

def scatteredOut : Text :=
  "a\n\x7b% for a in _iterate(xs, 2)\n\n\n %\x7db\x7b% customtag 0, \":note:\", \"'\\n'\"\n\n %\x7d" ++
    "\x7b% endfor\n\n %\x7dc"

theorem linesKept_scattered :
    expand [⟨":note:", [], fun _ _ => .ok ([], [])⟩] scattered = .ok scatteredOut ∧
      LinesKept scattered scatteredOut := by
  have expanded : expand [⟨":note:", [], fun _ _ => .ok ([], [])⟩] scattered =
      .ok scatteredOut := by decide +kernel
  have clean : (cut scattered).all (fun
      | .tag inner => spilled inner == 0
      | .plain _ => true) = true := by decide +kernel
  refine ⟨expanded, (linesKept_iff expanded).2.mpr fun inner among => ?_⟩
  exact eq_of_beq (List.all_eq_true.mp clean _ among)

/-- A newline in the target of a loop moves the text behind the tag down by a line. -/
theorem not_linesKept_target :
    ∃ out, expand [] "\x7b% for a,\nb in xs %\x7dx\x7b% end %\x7d" = .ok out ∧
      ¬ LinesKept "\x7b% for a,\nb in xs %\x7dx\x7b% end %\x7d" out := by
  refine ⟨"\x7b% for a,\nb in _iterate(xs, 1)\n %\x7dx\x7b% endfor %\x7d", by decide +kernel, ?_⟩
  intro kept
  exact absurd kept.outside (by decide +kernel)

end HaxeBuild.Template
