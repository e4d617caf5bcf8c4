import HaxeBuild.Proofs.Library.Supply

namespace HaxeBuild.LibraryManager

open Effect

/-- Every installation brings its own source, so the answers may change from call to call. -/
inductive Call where
  | libraries
  | required (s : Option Settings)
  | installRequired (source : PackageSource) (s : Option Settings)
  | compilerFlags (s : Settings)

/-- What a call returns. -/
inductive Answer where
  | libraries (ls : List LibraryReference)
  | flags (fs : List CompilerFlag)
  deriving DecidableEq

namespace Call

def act (subject : Subject) : Call → Action LibraryManager Answer
  | libraries => return .libraries (← LibraryManager.libraries subject)
  | required s => return .libraries (← LibraryManager.required subject s)
  | installRequired source s =>
    return .libraries (← LibraryManager.installRequired source subject s)
  | compilerFlags s => return .flags (← LibraryManager.compilerFlags subject s)

/-- Only one kind of call can ask the package source. -/
def installs : Call → Bool
  | installRequired _ _ => true
  | _ => false

end Call

/-- How a call goes. One that installs comes to the source only if everything can be read. -/
inductive Goes (subject : Subject) (m : LibraryManager) (w : World) :
    Call → Outcome Answer → LibraryManager → World → Prop where
  | libraries :
      Goes subject m w .libraries ((m.declaredNow subject).map .libraries) (m.remember subject) w
  | required {s : Option Settings} :
      Goes subject m w (.required s) ((m.requiredNow subject s).map .libraries)
        (m.remember subject) w
  | compilerFlags {s : Settings} :
      Goes subject m w (.compilerFlags s)
        (((m.requiredNow subject (some s)).map flags).map .flags) (m.remember subject) w
  | unreadable {source : PackageSource} {s : Option Settings} {e : BuildError}
      (bad : m.requiredNow subject s = .error e) :
      Goes subject m w (.installRequired source s) (.error e) (m.remember subject) w
  | installed {source : PackageSource} {s : Option Settings} {ls : List LibraryReference}
      {rs : List Request} {o : Outcome Answer} {m' : LibraryManager} {w' : World}
      (listed : m.requiredNow subject s = .ok ls)
      (supply : Supply source (m.remember subject) w (m.pending ls) rs m' w')
      (ends : Request.Ends rs (.libraries ls) o) :
      Goes subject m w (.installRequired source s) o m' w'

theorem goes_call {m : LibraryManager} {subject : Subject}
    (different : ∀ s ls, m.requiredNow subject s = .ok ls → LibraryReference.AreDistinct ls)
    (call : Call) (w : World) :
    Goes subject m w call (perform (call.act subject) (m, w)).1
      (perform (call.act subject) (m, w)).2.1 (perform (call.act subject) (m, w)).2.2 := by
  cases call with
  | libraries =>
    rw [Call.act, perform_bind_pure, perform_libraries]
    exact .libraries
  | required s =>
    rw [Call.act, perform_bind_pure, perform_required]
    exact .required
  | compilerFlags s =>
    rw [Call.act, perform_bind_pure, perform_compilerFlags]
    exact .compilerFlags
  | installRequired source s =>
    rw [Call.act, perform_bind_pure]
    cases listed : m.requiredNow subject s with
    | error e =>
      have failed := perform_required m subject s w
      rw [listed] at failed
      rw [installRequired, perform_bind_error failed]
      exact .unreadable listed
    | ok ls =>
      obtain ⟨rs, o, m', w', performed, supply, ends⟩ :=
        perform_installRequired source listed (different s ls listed) w
      rw [performed]
      exact .installed listed supply (ends.map Answer.libraries)

/-- What was installed does not matter for what is remembered. -/
theorem Goes.read_eq {subject : Subject} {m m' : LibraryManager} {w w' : World} {call : Call}
    {o : Outcome Answer} (goes : Goes subject m w call o m' w') :
    m'.read = (m.remember subject).read := by
  cases goes with
  | installed listed supply =>
    rw [supply.grown]
    rfl
  | _ => rfl

/-- A call about a program as it then was, with its answer, and with what was there before and
after it. -/
structure Moment where
  subject : Subject
  call : Call
  before : LibraryManager × World
  answer : Outcome Answer
  after : LibraryManager × World

/-- The moment of a call. -/
def Call.moment (call : Call) (subject : Subject) (before : LibraryManager × World) : Moment :=
  ⟨subject, call, before, (perform (call.act subject) before).1,
    (perform (call.act subject) before).2⟩

/-- The manager and the world are reached through the moments, of which the latest comes first. -/
inductive Managed : List Moment → LibraryManager → World → Prop where
  | created (files : FileTree) (log : Log) (objects : Objects) (clock : List Nat) :
    Managed [] empty ⟨files, log, [], [], objects, clock⟩
  | next {past : List Moment} {m : LibraryManager} {w : World} (managed : Managed past m w)
      (subject : Subject) (call : Call) :
      Managed (call.moment subject (m, w) :: past) (call.moment subject (m, w)).after.1
        (call.moment subject (m, w)).after.2

/-- The moments of calls that are made one after the other, with what is there in the end. -/
def follow : List (Subject × Call) → List Moment → LibraryManager × World →
    List Moment × LibraryManager × World
  | [], past, now => (past, now)
  | (subject, call) :: calls, past, now =>
    follow calls (call.moment subject now :: past) (call.moment subject now).after

theorem Managed.follow {past : List Moment} {now : LibraryManager × World}
    (managed : Managed past now.1 now.2) (calls : List (Subject × Call)) :
    Managed (follow calls past now).1 (follow calls past now).2.1 (follow calls past now).2.2 := by
  induction calls generalizing past now with
  | nil => exact managed
  | cons made calls inductionHypothesis => exact inductionHypothesis (managed.next made.1 made.2)

/-! A small program that declares libraries in different ways. -/

namespace Small

def start : LibraryManager × World := (empty, World.ofFiles ⟨[], []⟩)

theorem managed_start : Managed [] start.1 start.2 := .created ⟨[], []⟩ [] _ []

/-- The program when it declares the libraries. -/
def declaring (vs : List Value) : Subject :=
  ⟨0, ⟨[⟨"app.Main", [], [], [(.addLibraries, vs)]⟩], [], none⟩⟩

/-- Two libraries, one of them twice. -/
def values : List Value :=
  [.text "format", .list [.library ⟨"hxcpp", some "4.3"⟩, .dict [(.text "name", .text "format")]]]

/-- A package source that has the named libraries only. -/
def offering (names : List Text) : PackageSource := fun l t => (.ok (names.contains l.name), t)

end Small

end HaxeBuild.LibraryManager
